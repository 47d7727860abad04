import Parley.CommandLine.Arguments
import Parley.Fault

/-!
# Commands

The program has commands to validate documents, to count what is in one, to show what it would play
first, and to play it. The paths among the arguments are checked before the arguments are put together
to a command.
-/

namespace Parley.CommandLine

structure PlayOptions where
  npc : String
  name : Option String
  dialogues : Option String
  config : Option String
  locales : Option String
  locale : Option String
  items : List String
  equipped : List String
deriving DecidableEq, Repr

inductive Command where
  | validate (paths : List String) (detailed : Bool)
  | statistics (path : String)
  | preview (path : String) (items equipped : List String)
  | play (options : PlayOptions)
deriving DecidableEq, Repr

/-- The words that name commands. -/
inductive Verb where
  | play
  | preview
  | statistics
  | validate
deriving DecidableEq, Repr

/-- What the arguments ask for. -/
inductive Request where
  /-- How to use the program or one of its commands. -/
  | help (verb : Option Verb)
  | run (verb : Verb) (arguments : Arguments)
deriving DecidableEq, Repr

def helpOption : OptionSpec := ⟨"help", none, none, "Show this message and exit."⟩

def programOptions : List OptionSpec :=
  [⟨"debug", none, none, "Enable debug logging"⟩, helpOption]

def inventoryOptions : List OptionSpec :=
  [⟨"item", some 'i', some .text, "Item id the player holds (repeatable)"⟩,
    ⟨"equipped", some 'e', some .text, "Equipped item as KEY=ITEM or ITEM"⟩]

namespace Verb

def all : List Verb := [.play, .preview, .statistics, .validate]

def name : Verb → String
  | .play => "play"
  | .preview => "show"
  | .statistics => "stats"
  | .validate => "validate"

def ofName? (name : String) : Option Verb := all.find? fun v => v.name == name

def summary : Verb → String
  | .play => "Talk to an NPC interactively"
  | .preview => "Print the lines a player with the given items would see first"
  | .statistics => "Show statistics for a dialogue file"
  | .validate => "Validate one or more dialogue JSON files"

def options : Verb → List OptionSpec
  | .validate =>
    [⟨"detailed", some 'd', none, "Show document statistics after validation"⟩, helpOption]
  | .statistics => [helpOption]
  | .preview => inventoryOptions ++ [helpOption]
  | .play =>
    [⟨"dialogues", some 'd', some (.path .directory), "Dialogue directory"⟩,
      ⟨"config", some 'c', some (.path .file), "Settings JSON file"⟩,
      ⟨"locales", none, some (.path .directory), "Directory of <locale>.json files"⟩,
      ⟨"locale", none, some .text, "Locale to display"⟩] ++ inventoryOptions ++
    [⟨"name", none, some .text, "NPC display name"⟩, helpOption]

def operandKind : Verb → ValueKind
  | .play => .text
  | _ => .path .anything

def operandName : Verb → String
  | .play => "NPC_ID"
  | .validate => "FILE_PATHS..."
  | _ => "FILE_PATH"

end Verb

def endsInDirectory (path : String) : Bool :=
  match (Text.pieces '/' path.toList).getLast? with
  | some last => last == [] || last == ['.']
  | none => false

/-- The entry at a path as it was typed. The empty path leads nowhere, and so does one that is too
long before it is read. -/
def entryAt? (t : FileTree) (path : String) : Option FileEntry :=
  if path == "" || FileTree.pathLimit < ((Text.toBytes? path).getD []).length then none
  else match t.find (FilePath.ofString path) with
    | .ok (.file bytes) => if endsInDirectory path then none else some (.file bytes)
    | .ok .directory => some .directory
    | .error _ => none

/-- Why a command is not run: it is misused, or a fault comes before it. -/
inductive Refusal where
  | misuse (e : UsageError)
  | fault (f : Fault)
deriving DecidableEq, Repr

/-- Refuses a path that does not lead to what it must lead to. -/
def checkPath (t : FileTree) (kind : PathKind) (path : String) : Except Refusal Unit :=
  match checkPathText path, entryAt? t path, kind with
  | .error f, _, _ => .error (.fault f)
  | _, none, _ => .error (.misuse (.missingPath path))
  | _, some .directory, .file => .error (.misuse (.wrongPath .file path))
  | _, some (.file _), .directory => .error (.misuse (.wrongPath .directory path))
  | _, _, _ => .ok ()

def onlyOperand (name : String) : List String → Except UsageError String
  | [] => .error (.missingOperand name)
  | [operand] => .ok operand
  | _ :: others => .error (.extraOperands others)

namespace Command

def ofArguments (verb : Verb) (a : Arguments) : Except UsageError Command :=
  match verb with
  | .validate =>
    if a.operands.isEmpty then .error (.missingOperand verb.operandName)
    else .ok (.validate a.operands (a.has "detailed"))
  | .statistics => (onlyOperand verb.operandName a.operands).map .statistics
  | .preview => (onlyOperand verb.operandName a.operands).map fun path =>
    .preview path (a.values "item") (a.values "equipped")
  | .play => (onlyOperand verb.operandName a.operands).map fun npc => .play {
      npc
      name := a.value? "name"
      dialogues := a.value? "dialogues"
      config := a.value? "config"
      locales := a.value? "locales"
      locale := a.value? "locale"
      items := a.values "item"
      equipped := a.values "equipped" }

end Command

namespace Verb

def operands (verb : Verb) (a : Arguments) : List String :=
  match verb with
  | .validate => a.operands
  | _ => a.operands.take 1

/-- The paths among the arguments of a command, with what each must lead to: those of options in the
order in which the options were given, then those of operands. -/
def paths (verb : Verb) (a : Arguments) : List (PathKind × String) :=
  (a.names.filterMap fun name =>
    match (verb.options.find? (·.name == name)).bind (·.value), a.value? name with
    | some (.path kind), some path => some (kind, path)
    | _, _ => none) ++
  match verb.operandKind with
  | .text => []
  | .path kind => (verb.operands a).map (kind, ·)

/-- The command of a verb with its arguments. Its paths are checked first. -/
def command (verb : Verb) (t : FileTree) (a : Arguments) : Except Refusal Command := do
  (verb.paths a).forM fun (kind, path) => checkPath t kind path
  (Command.ofArguments verb a).mapError .misuse

end Verb

namespace Request

/-- What the arguments of a verb ask for. Help wins over operands. -/
def ofVerb (verb : Verb) (args : List String) : Except UsageError Request :=
  match Arguments.read verb.options true args with
  | .error e => .error e
  | .ok a =>
    .ok (if a.has helpOption.name then .help (some verb) else .run verb a)

def read (args : List String) : Except UsageError Request :=
  match Arguments.read programOptions false args with
  | .error e => .error e
  | .ok a =>
    if a.has helpOption.name then .ok (.help none)
    else match a.operands with
      | [] => .error .noCommand
      | name :: rest => match Verb.ofName? name with
        | some verb => ofVerb verb rest
        | none => .error (.unknownCommand name)

end Request
end Parley.CommandLine
