import Parley.Dialogue.Document

/-!
# Documents as JSON

The written form of a document leaves out every absent section and every field that is absent or
has its usual value.
-/

namespace Parley

/-- A member that is left out when its value is null. -/
def Json.optional (name : String) (v : Json) : Members := if v.isNull then [] else [(name, v)]

@[simp] theorem Json.getD_optional (v : Json) :
    (if v.isNull = false then some v else none).getD .null = v := by
  cases v <;> rfl

theorem Json.get?_optional (k : String) (v : Json) (name : String) :
    Members.get? (Json.optional k v) name = if name = k ∧ v.isNull = false then some v else none := by
  unfold Json.optional
  cases hv : v.isNull with
  | true => simp
  | false => simp [Members.get?_cons]

def Check.toJson : Check → Json
  | .hasItem item negate =>
    .obj ([("type", .str "hasItem"), ("itemId", .str item)] ++
      if negate then [("negate", .bool true)] else [])
  | .unknown _ source => .obj source

def Action.toJson : Action → Json
  | .giveItem item amount ifMissing =>
    .obj ([("type", .str "giveItem"), ("itemId", .str item)] ++
      (match amount with
        | some n => [("amount", .num n)]
        | none => []) ++
      if ifMissing then [] else [("ifMissing", .bool false)])
  | .unknown _ source => .obj source

def Action.section (actions : Option (List Action)) : Members :=
  match actions with
  | some as => [("actions", .arr (as.map Action.toJson))]
  | none => []

mutual

def Line.toJson : Line → Json
  | ⟨speaker, text, textKey, emotion, name, nameKey, options, hide⟩ =>
    .obj ([("speaker", speaker), ("text", .str text)] ++ Json.optional "textKey" textKey ++
      Json.optional "emotion" emotion ++ Json.optional "name" name ++
      Json.optional "nameKey" nameKey ++
      (match options with
        | some cs => [("options", .arr (Choice.listToJson cs))]
        | none => []) ++
      Json.optional "hideSpeakerVisuals" hide)

def Line.listToJson : List Line → List Json
  | [] => []
  | l :: rest => l.toJson :: Line.listToJson rest

def Choice.toJson : Choice → Json
  | ⟨id, text, textKey, lines, actions, branches⟩ =>
    .obj ([("id", .str id), ("text", .str text)] ++ Json.optional "textKey" textKey ++
      (match lines with
        | some ls => [("lines", .arr (Line.listToJson ls))]
        | none => []) ++
      Action.section actions ++
      (match branches with
        | some bs => [("branches", .arr (Branch.listToJson bs))]
        | none => []))

def Choice.listToJson : List Choice → List Json
  | [] => []
  | c :: rest => c.toJson :: Choice.listToJson rest

def Branch.toJson : Branch → Json
  | ⟨checks, lines, actions⟩ =>
    .obj ([("checks", .arr (checks.map Check.toJson))] ++
      (match lines with
        | some ls => [("lines", .arr (Line.listToJson ls))]
        | none => []) ++
      Action.section actions)

def Branch.listToJson : List Branch → List Json
  | [] => []
  | b :: rest => b.toJson :: Branch.listToJson rest

end

theorem Line.listToJson_eq_map (ls : List Line) : Line.listToJson ls = ls.map Line.toJson := by
  induction ls with
  | nil => rfl
  | cons l rest ih => simp [Line.listToJson, ih]

theorem Choice.listToJson_eq_map (cs : List Choice) :
    Choice.listToJson cs = cs.map Choice.toJson := by
  induction cs with
  | nil => rfl
  | cons c rest ih => simp [Choice.listToJson, ih]

theorem Branch.listToJson_eq_map (bs : List Branch) :
    Branch.listToJson bs = bs.map Branch.toJson := by
  induction bs with
  | nil => rfl
  | cons b rest ih => simp [Branch.listToJson, ih]

def Fork.toJson (f : Fork) : Json :=
  .obj ([("checks", .arr (f.checks.map Check.toJson)), ("lines", .arr (f.lines.map Line.toJson))] ++
    Action.section f.actions)

def Document.toJson (d : Document) : Json :=
  .obj ([("id", .str d.id)] ++
    (match d.lines with
      | some ls => [("lines", .arr (ls.map Line.toJson))]
      | none => []) ++
    (match d.forks with
      | some fs => [("forks", .arr (fs.map Fork.toJson))]
      | none => []) ++
    Action.section d.actions)

end Parley
