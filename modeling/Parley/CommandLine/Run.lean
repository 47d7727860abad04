import Parley.CommandLine.Command
import Parley.Dialogue.Encode
import Parley.Dialogue.Resolution
import Parley.Terminal.Player
import Parley.Validation.Report

/-!
# Running commands

A command writes to two streams and ends with a code, zero for success. A fault that a command does
not report itself ends the program. What cannot be written as bytes is a fault on the one stream; the
other one, which is for errors, shows it by its code.
-/

namespace Parley.CommandLine

/-- What a command leaves behind. -/
structure Outcome where
  stdout : String
  stderr : String
  code : Nat
  /-- The fault that ended the program. -/
  fault : Option Fault
deriving DecidableEq, Repr

def errorText (rows : List String) : String := Text.escapeSurrogates (textOfRows rows)

namespace Outcome

/-- The end of a command that has reached its end. -/
def finished (stdout stderr : List String) (success : Bool) : Outcome :=
  ⟨textOfRows stdout, errorText stderr, if success then 0 else 1, none⟩

/-- The end of a command by a fault, after it has written rows. -/
def broken (stdout : List String) (fault : Fault) : Outcome :=
  ⟨textOfRows stdout, "", 1, some fault⟩

/-- The end of a command that writes rows as bytes and then, if all are written, comes to its
result. -/
def written (stdout stderr : List String) (result : Except Fault Bool) : Outcome :=
  match Terminal.Stream.bytes.write stdout, result with
  | (rows, some fault), _ => broken rows fault
  | (rows, none), .error fault => broken rows fault
  | (rows, none), .ok success => finished rows stderr success

end Outcome

/-- The rows that show the statistics of a validated document. -/
def detailRows (s : Statistics) : List String :=
  "\n📊 Statistics:" :: s.toMembers.map fun (name, v) => "  " ++ name ++ ": " ++ v.display

/-- Validates files in order, up to a fault. The result tells whether all are valid. -/
def validateFiles (t : FileTree) (detailed : Bool) : List String → List String × Except Fault Bool
  | [] => ([], .ok true)
  | path :: rest =>
    let w : Validator := ⟨some (FilePath.ofString path), some .bytes⟩
    match w.validate t with
    | (rows, .error fault) => (rows, .error fault)
    | (rows, .ok v) =>
      let details := match detailed, v.statistics with
        | true, some s => detailRows s
        | _, _ => []
      let (others, result) := validateFiles t detailed rest
      (rows ++ details ++ others, result.map (v.valid && ·))

def runValidate (t : FileTree) (paths : List String) (detailed : Bool) : Outcome :=
  match validateFiles t detailed paths with
  | (rows, .ok true) => .written (rows ++ ["\n✅ Validation passed!"]) [] (.ok true)
  | (rows, result) => .written rows ["\n❌ Validation failed!"] result

def checkerUsage : String :=
  "Usage: python -m dialogue_engine.cli.validate_cmd <dialogue.json> [more.json ...]"

def runChecker (t : FileTree) (paths : List String) : Outcome :=
  if paths.isEmpty then .finished [checkerUsage] [] false
  else
    let (rows, result) := validateFiles t false paths
    .written rows [] result

/-- Fills a number with spaces on the left, up to a width. -/
def padLeft (width n : Nat) : String :=
  let digits := (toString n).toList
  String.ofList (List.replicate (width - digits.length) ' ' ++ digits)

def titleRule : String := doubleRule 50

/-- Runs a command on the document of a file. Why there is none is shown. -/
def withDocument (t : FileTree) (path : FilePath) (rows : Loaded → Document → List String) :
    Outcome :=
  match Document.loadFile t path with
  | .error fault => .broken [] fault
  | .ok l => match l.document with
    | none => .finished [] (l.errors.map fun e => "❌ " ++ e.message) false
    | some d => .written (rows l d) [] (.ok true)

def statisticsRows (name : String) (s : Statistics) : List String :=
  let row (label : String) (n : Nat) : String := "  " ++ label ++ padLeft 6 n
  ["\n📊 Statistics for " ++ name, titleRule, row "Lines:    " s.lines, row "Forks:    " s.forks,
    row "Options:  " s.options, row "Branches: " s.branches, row "Checks:   " s.checks,
    row "Actions:  " s.actions] ++
  (if s.items.isEmpty then []
    else ["\n🎒 Items referenced: " ++ ", ".intercalate s.items]) ++
  (if s.errors == 0 && s.warnings == 0 then []
    else ["\n⚠️  Errors: " ++ toString s.errors ++ "  Warnings: " ++ toString s.warnings])

def runStatistics (t : FileTree) (path : String) : Outcome :=
  let p := FilePath.ofString path
  withDocument t p fun l d =>
    statisticsRows p.name (d.statistics l.errors.length l.warnings.length)

def usualEquipment : String := "equippedItemId"

/-- What is equipped: values with or without a name before an equals sign. -/
def equipment (values : List String) : Members :=
  Members.ofPairs (values.map fun value => match Text.partition '=' value with
    | (name, some item) => (name, .str item)
    | (item, none) => (usualEquipment, .str item))

def lineRows (l : Line) : List String :=
  ("  " ++ (l.name.orElse l.speaker).display ++ ": \"" ++ l.text ++ "\"") ::
    (l.options.getD []).map fun c => "    -> [" ++ c.id ++ "] " ++ c.text

/-- The rows that show what a document plays first. -/
def previewRows (d : Document) (inventory : Snapshot) : List String :=
  let r := d.preview (some inventory)
  ["\n📍 Dialogue: " ++ d.id, titleRule] ++ r.lines.flatMap lineRows ++
    if r.actions.isEmpty then []
    else "\n⚡ Actions on completion:" :: r.actions.map fun a => "  " ++ a.toJson.display

def runPreview (t : FileTree) (path : String) (items equipped : List String) : Outcome :=
  let held := Service.itemCounts (items.map (·, 1))
  let service := Service.ofItems held Service.defaultSlots (equipment equipped)
  withDocument t (FilePath.ofString path) fun _ d => previewRows d service.stored

namespace PlayOptions

/-- The settings of a play: those of the file, with what the options override. -/
def settings (o : PlayOptions) (t : FileTree) : Except Fault Settings := do
  let s ← match o.config with
    | some path => Settings.ofFile t (FilePath.ofString path)
    | none => .ok Settings.default
  let s := match o.dialogues with
    | some path => { s with dialoguesRoot := FilePath.ofString path }
    | none => s
  let s := match o.locales with
    | some path => { s with localeRoot := some (FilePath.ofString path) }
    | none => s
  return match o.locale with
    | some name => if name == "" then s else { s with locale := .str name }
    | none => s

/-- The items that are held: one of an item for each time that it is named. -/
def held (o : PlayOptions) : List (String × Int) :=
  o.items.eraseDups.map fun item => (item, (o.items.count item : Int))

def playerWith (o : PlayOptions) (t : FileTree) (columns : Int) (s : Settings) :
    Except Fault Terminal.Player := do
  let translator ← match s.localeRoot with
    | some root => (Catalogue.ofDirectory t root s.locale s.fallbackLocale).map .catalogue
    | none => .ok .none
  return Terminal.Player.make t s.dialoguesRoot o.held (equipment o.equipped) translator s columns
    .bytes

def player (o : PlayOptions) (t : FileTree) (columns : Int) : Except Fault Terminal.Player := do
  o.playerWith t columns (← o.settings t)

/-- The name to show for the character; null leaves it to the document. -/
def shownName (o : PlayOptions) : Json :=
  match o.name with
  | some name => .str name
  | none => .null

end PlayOptions

def faultRow (fault : Fault) : String := "\n❌ Error: " ++ fault.message

/-- A text on the screen. A prompt leaves its row open. -/
def screenText : Terminal.Output → String
  | .prompt text => text
  | .row text => text ++ "\n"

def runPlay (t : FileTree) (columns : Int) (input : String) (o : PlayOptions) : Outcome :=
  match o.player t columns with
  | .error fault => .broken [] fault
  | .ok p =>
    let entered := Text.rows (String.ofList (Text.normalizeLineEnds input.toList))
    let (result, p) := p.run o.npc o.shownName (entered.map .text)
    let stdout := String.join (p.outputs.map screenText)
    match result with
    | .error fault => ⟨stdout, errorText [faultRow fault], 1, none⟩
    | .ok played => ⟨stdout, "", if played then 0 else 1, none⟩

def Command.run (t : FileTree) (columns : Int) (input : String) : Command → Outcome
  | .validate paths detailed => runValidate t paths detailed
  | .statistics path => runStatistics t path
  | .preview path items equipped => runPreview t path items equipped
  | .play o => runPlay t columns input o

end Parley.CommandLine
