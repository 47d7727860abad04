import Parley.CommandLine.Command
import Parley.Terminal.Box

/-!
# Usage

How the program and its commands are called, as texts for its users.
-/

namespace Parley.CommandLine

def programName : String := "parley"

/-- Two columns of text, the second of which starts at one place in all rows. -/
def twoColumns (rows : List (String × String)) : List String :=
  let width := (rows.map (·.1.length)).foldl max 0
  rows.map fun (a, b) => "  " ++ String.ofList (Terminal.padRight width ' ' a.toList) ++ "  " ++ b

def OptionSpec.form (o : OptionSpec) : String :=
  (match o.letter with
    | some c => "-" ++ String.ofList [c] ++ ", "
    | none => "") ++
  "--" ++ o.name ++
  match o.value with
    | some kind => " " ++ kind.name
    | none => ""

def optionRows (options : List OptionSpec) : List String :=
  "Options:" :: twoColumns (options.map fun o => (o.form, o.summary))

def callForm : Option Verb → String
  | none => "Usage: " ++ programName ++ " [OPTIONS] COMMAND [ARGS]..."
  | some verb => "Usage: " ++ programName ++ " " ++ verb.name ++ " [OPTIONS] " ++ verb.operandName

def helpRows : Option Verb → List String
  | none =>
    [callForm none, "", "  Dialogue Engine - branching NPC conversations", ""] ++
      optionRows programOptions ++ ["", "Commands:"] ++
      twoColumns (Verb.all.map fun v => (v.name, v.summary))
  | some verb =>
    [callForm (some verb), "", "  " ++ verb.summary, ""] ++ optionRows verb.options

def errorRows (e : UsageError) : List String := [callForm none, "", "Error: " ++ e.message]

end Parley.CommandLine
