import Parley.Dialogue.Document
import Parley.Dialogue.Finding

/-!
# Reading documents

A document is read from any JSON value. Nothing that is wrong with the value stops the reading: it
becomes a finding, and the reading keeps what it can make sense of. Only two findings are fatal, an
amount beyond the range of `Double` and an integer of too many digits in what is to be a text. At the
first of them the reading ends, and `Document.load` has no result.
-/

namespace Parley

/-- What is found where values that are to be texts have none. -/
def unwritten (here : Location) (vs : List Json) : List Finding :=
  if vs.all Json.isWritable then [] else [⟨here, .unwritable⟩]

/-- An amount: none unless it is a finite number. -/
def Action.readAmount (here : Location) (v : Json) : Noted (Option Number) :=
  match v with
  | .null => ⟨none, []⟩
  | .num n => match n.finite with
    | .ok true => ⟨some n, []⟩
    | .ok false => ⟨none, [⟨here, .amountNotFinite n⟩]⟩
    | .error _ => ⟨none, [⟨here, .amountTooLarge⟩]⟩
  | v => ⟨none, [⟨here, .amountNotNumber v⟩]⟩

/-- The text of an item id; a value that counts as false is the empty id. -/
def itemIdOf (v : Json) : String := if v.truthy then v.display else ""

def Check.read (here : Location) (ms : Members) : Noted Check :=
  match ms.get "type" with
  | .str "hasItem" =>
    let item := ms.get "itemId"
    ⟨.hasItem (itemIdOf item) (ms.get "negate").truthy,
      (if item.truthy then [] else [⟨here, .checkWithoutItem⟩]) ++ unwritten here [item]⟩
  | type => ⟨.unknown type.display ms, ⟨here, .unknownCheck type⟩ :: unwritten here [type]⟩

def notFalse : Json → Bool
  | .bool b => b
  | _ => true

def shownAmount : Json → Json
  | .num _ => .null
  | v => v

def Action.read (here : Location) (ms : Members) : Noted Action :=
  match ms.get "type" with
  | .str "giveItem" =>
    let item := ms.get "itemId"
    let amount := Action.readAmount here (ms.get "amount")
    ⟨.giveItem (itemIdOf item) amount.value (notFalse (ms.get "ifMissing")),
      (if item.truthy then [] else [⟨here, .actionWithoutItem⟩]) ++
        unwritten here [item, shownAmount (ms.get "amount")] ++ amount.findings⟩
  | type => ⟨.unknown type.display ms, ⟨here, .unknownAction type⟩ :: unwritten here [type]⟩

/-- The entries of a list from an index on: objects are read, everything else is skipped. -/
def readEntries (kind : EntryKind) (read : Location → Members → Noted α) (here : Location) :
    Nat → List Json → Noted (List α)
  | _, [] => ⟨[], []⟩
  | i, .obj ms :: rest =>
    let first := read (here.item i) ms
    let others := readEntries kind read here (i + 1) rest
    ⟨first.value :: others.value, first.findings ++ others.findings⟩
  | i, _ :: rest =>
    let others := readEntries kind read here (i + 1) rest
    ⟨others.value, ⟨here.item i, .notAnObject kind⟩ :: others.findings⟩

/-- A section: a list is read entry by entry, null is the empty list, and so is everything else,
with a finding. -/
def readSection (kind : EntryKind) (read : Location → Members → Noted α) (here : Location) :
    Json → Noted (List α)
  | .null => ⟨[], []⟩
  | .arr items => readEntries kind read here 0 items
  | v => ⟨[], [⟨here, .notAList v⟩]⟩

def Check.readList (here : Location) (v : Json) : Noted (List Check) :=
  readSection .check Check.read here v

def Action.readList (here : Location) (v : Json) : Noted (List Action) :=
  readSection .action Action.read here v

def Action.readIn (here : Location) (ms : Members) : Noted (Option (List Action)) :=
  match ms.get? "actions" with
  | none => ⟨none, []⟩
  | some v =>
    let as := Action.readList (here.field "actions") v
    ⟨some as.value, as.findings⟩

def Line.fieldFindings (here : Location) (speaker emotion : Json) : List Finding :=
  (match speaker with
    | .str s => if knownSpeakers.contains s then [] else [⟨here, .unknownSpeaker speaker⟩]
    | _ => [⟨here, .unknownSpeaker speaker⟩]) ++
  match emotion with
    | .null => []
    | .str s => if knownEmotions.contains s then [] else [⟨here, .unknownEmotion emotion⟩]
    | _ => [⟨here, .unknownEmotion emotion⟩]

mutual

def Line.readList (here : Location) : Json → Noted (List Line)
  | .null => ⟨[], []⟩
  | .arr items => Line.readItems here 0 items
  | v => ⟨[], [⟨here, .notAList v⟩]⟩

def Line.readItems (here : Location) : Nat → List Json → Noted (List Line)
  | _, [] => ⟨[], []⟩
  | i, v :: rest =>
    let first := Line.readItem (here.item i) v
    let others := Line.readItems here (i + 1) rest
    ⟨first.value.toList ++ others.value, first.findings ++ others.findings⟩

def Line.readItem (here : Location) : Json → Noted (Option Line)
  | .obj ms =>
    let speaker := (Members.get? ms "speaker").getD (.str "npc")
    let emotion := Members.get ms "emotion"
    let options := Choice.readIn here ms
    let text := match Members.get? ms "text" with
      | some v => v.display
      | none => ""
    ⟨some ⟨speaker, text, Members.get ms "textKey", emotion, Members.get ms "name",
        Members.get ms "nameKey", options.value, Members.get ms "hideSpeakerVisuals"⟩,
      Line.fieldFindings here speaker emotion ++
        unwritten here [speaker, emotion, Members.get ms "text"] ++ options.findings⟩
  | _ => ⟨none, [⟨here, .notAnObject .line⟩]⟩

def Line.readIn (here : Location) : List (String × Json) → Noted (Option (List Line))
  | [] => ⟨none, []⟩
  | (name, v) :: rest =>
    if name == "lines" then
      let ls := Line.readList (here.field "lines") v
      ⟨some ls.value, ls.findings⟩
    else Line.readIn here rest

def Choice.readList (here : Location) : Json → Noted (List Choice)
  | .null => ⟨[], []⟩
  | .arr items => Choice.readItems here 0 items
  | v => ⟨[], [⟨here, .notAList v⟩]⟩

def Choice.readItems (here : Location) : Nat → List Json → Noted (List Choice)
  | _, [] => ⟨[], []⟩
  | i, v :: rest =>
    let first := Choice.readItem (here.item i) v
    let others := Choice.readItems here (i + 1) rest
    ⟨first.value.toList ++ others.value, first.findings ++ others.findings⟩

def Choice.readItem (here : Location) : Json → Noted (Option Choice)
  | .obj ms =>
    let id := Members.get ms "id"
    if id.truthy then
      let text := match Members.get? ms "text" with
        | some v => v.display
        | none => ""
      let lines := Line.readIn here ms
      let actions := Action.readIn here ms
      let branches := Branch.readIn here ms
      ⟨some ⟨id.display, text, Members.get ms "textKey", lines.value, actions.value,
          branches.value⟩,
        unwritten here [id, Members.get ms "text"] ++ lines.findings ++ actions.findings ++
          branches.findings⟩
    else ⟨none, [⟨here, .choiceWithoutId⟩]⟩
  | _ => ⟨none, [⟨here, .notAnObject .choice⟩]⟩

def Choice.readIn (here : Location) : List (String × Json) → Noted (Option (List Choice))
  | [] => ⟨none, []⟩
  | (name, v) :: rest =>
    if name == "options" then
      let cs := Choice.readList (here.field "options") v
      ⟨some cs.value, cs.findings⟩
    else Choice.readIn here rest

def Branch.readList (here : Location) : Json → Noted (List Branch)
  | .null => ⟨[], []⟩
  | .arr items => Branch.readItems here 0 items
  | v => ⟨[], [⟨here, .notAList v⟩]⟩

def Branch.readItems (here : Location) : Nat → List Json → Noted (List Branch)
  | _, [] => ⟨[], []⟩
  | i, v :: rest =>
    let first := Branch.readItem (here.item i) v
    let others := Branch.readItems here (i + 1) rest
    ⟨first.value.toList ++ others.value, first.findings ++ others.findings⟩

def Branch.readItem (here : Location) : Json → Noted (Option Branch)
  | .obj ms =>
    let checks := Check.readList (here.field "checks") (Members.get ms "checks")
    let lines := Line.readIn here ms
    let actions := Action.readIn here ms
    ⟨some ⟨checks.value, lines.value, actions.value⟩,
      checks.findings ++ lines.findings ++ actions.findings⟩
  | _ => ⟨none, [⟨here, .notAnObject .branch⟩]⟩

def Branch.readIn (here : Location) : List (String × Json) → Noted (Option (List Branch))
  | [] => ⟨none, []⟩
  | (name, v) :: rest =>
    if name == "branches" then
      let bs := Branch.readList (here.field "branches") v
      ⟨some bs.value, bs.findings⟩
    else Branch.readIn here rest

end

def Fork.read (here : Location) (ms : Members) : Noted Fork :=
  let checks := Check.readList (here.field "checks") (ms.get "checks")
  let lines := Line.readList (here.field "lines") (ms.get "lines")
  let actions := Action.readIn here ms
  ⟨⟨checks.value, lines.value, actions.value⟩,
    checks.findings ++ lines.findings ++ actions.findings⟩

def Fork.readList (here : Location) (v : Json) : Noted (List Fork) :=
  readSection .fork Fork.read here v

def Fork.readIn (here : Location) (ms : Members) : Noted (Option (List Fork)) :=
  match ms.get? "forks" with
  | none => ⟨none, []⟩
  | some v =>
    let fs := Fork.readList (here.field "forks") v
    ⟨some fs.value, fs.findings⟩

/-- The id of a document: that of the object, else the default. -/
def Document.readId (ms : Members) (defaultId : String) : Noted String :=
  match (ms.get "id").orElse (.str defaultId) with
  | .str s => ⟨s, []⟩
  | v => ⟨v.display, [⟨[], if v.isWritable then .idNotText v else .unwritable⟩]⟩

def Document.read (v : Json) (defaultId : String) : Noted (Option Document) :=
  match v with
  | .obj ms =>
    let id := Document.readId ms defaultId
    let lines := Line.readIn [] ms
    let forks := Fork.readIn [] ms
    let actions := Action.readIn [] ms
    ⟨some ⟨id.value, lines.value, forks.value, actions.value⟩,
      id.findings ++ lines.findings ++ forks.findings ++ actions.findings⟩
  | _ => ⟨none, [⟨[], .notADocument⟩]⟩

/-- A document that was loaded, if any, with the errors and the warnings about it in order. -/
structure Loaded where
  document : Option Document
  errors : List Finding
  warnings : List Finding

namespace Loaded

def ofNoted (n : Noted (Option Document)) : Except Fault Loaded :=
  n.unlessFatal.map fun document =>
    ⟨document, n.findings.filter (·.severity == .error),
      n.findings.filter (·.severity == .warning)⟩

theorem ofNoted_eq_ok_iff {n : Noted (Option Document)} {l : Loaded} :
    ofNoted n = .ok l ↔ n.Calm ∧ l = ⟨n.value, n.findings.filter (·.severity == .error),
      n.findings.filter (·.severity == .warning)⟩ := by
  unfold ofNoted
  cases h : n.unlessFatal with
  | ok a =>
    obtain ⟨hcalm, rfl⟩ := Noted.unlessFatal_eq_ok_iff.mp h
    simp [Except.map, hcalm, eq_comm]
  | error fault =>
    refine iff_of_false nofun ?_
    rintro ⟨hcalm, -⟩
    rw [Noted.unlessFatal_eq_ok_iff.mpr ⟨hcalm, rfl⟩] at h
    cases h

def failed (d : Defect) : Loaded := ⟨none, [⟨[], d⟩], []⟩

end Loaded

namespace Document

def load (v : Json) (defaultId : String) : Except Fault Loaded :=
  Loaded.ofNoted (read v defaultId)

def loadText (text defaultId : String) : Except Fault Loaded :=
  match Json.read text with
  | .ok v => load v defaultId
  | .error (.malformed e) => .ok (.failed (.unreadableText e))
  | .error e => .error (.ofReadError e)

/-- Loads a document from a file, whose stem is the default id. -/
def loadFile (t : FileTree) (p : FilePath) : Except Fault Loaded :=
  match t.readText p with
  | .error (.unreadable e) => .ok (.failed (.unreadableFile p.name e.message))
  | .error e => .error e
  | .ok text => match Json.read text with
    | .ok v => load v p.stem
    | .error (.malformed e) => .ok (.failed (.unreadableFile p.name e.message))
    | .error e => .error (.ofReadError e)

end Document
end Parley
