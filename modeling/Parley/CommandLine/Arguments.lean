import Parley.Text.Split

/-!
# Command-line arguments

An argument is an option or an operand. Options have a long name after two hyphens, and some have a
letter after one; letters that take no value may share an argument. A value stands in the argument
of its option or in the next one. Two hyphens alone end the options.
-/

namespace Parley.CommandLine

/-- What kind of file a path must lead to. -/
inductive PathKind where
  | anything
  | directory
  | file
deriving DecidableEq, Repr

inductive ValueKind where
  | text
  | path (kind : PathKind)
deriving DecidableEq, Repr

def ValueKind.name : ValueKind → String
  | .text => "TEXT"
  | .path .anything => "PATH"
  | .path .directory => "DIRECTORY"
  | .path .file => "FILE"

/-- An option that a command knows. -/
structure OptionSpec where
  name : String
  letter : Option Char
  /-- The kind of its value, if it takes one. -/
  value : Option ValueKind
  summary : String
deriving DecidableEq, Repr

def OptionSpec.takesValue (o : OptionSpec) : Bool := o.value.isSome

structure Given where
  name : String
  value : Option String
deriving DecidableEq, Repr

/-- Why arguments are refused. -/
inductive UsageError where
  | unknownOption (option : String)
  | missingValue (option : String)
  | unneededValue (option : String)
  | missingOperand (name : String)
  | extraOperands (operands : List String)
  | noCommand
  | unknownCommand (name : String)
  | missingPath (path : String)
  | wrongPath (kind : PathKind) (path : String)
deriving DecidableEq, Repr

def UsageError.message : UsageError → String
  | .unknownOption option => "No such option: " ++ option
  | .missingValue option => "Option '" ++ option ++ "' requires an argument."
  | .unneededValue option => "Option '" ++ option ++ "' does not take a value."
  | .missingOperand name => "Missing argument '" ++ name ++ "'."
  | .extraOperands operands => "Got unexpected extra arguments (" ++ " ".intercalate operands ++ ")"
  | .noCommand => "Missing command."
  | .unknownCommand name => "No such command '" ++ name ++ "'."
  | .missingPath path => "Path '" ++ path ++ "' does not exist."
  | .wrongPath .directory path => "Path '" ++ path ++ "' is not a directory."
  | .wrongPath _ path => "Path '" ++ path ++ "' is a directory."

/-- What one argument says: it is an operand, or it gives options, the last of which may still
await its value. -/
inductive Reading where
  | operand
  | complete (given : List Given)
  | awaiting (given : List Given) (option : OptionSpec)
deriving DecidableEq, Repr

namespace Reading

/-- A reading with one more option before it. -/
def after (g : Given) : Reading → Reading
  | .operand => .operand
  | .complete given => .complete (g :: given)
  | .awaiting given option => .awaiting (g :: given) option

end Reading

/-- Reads the letters of an argument. What follows the letter of an option with a value is the
value. -/
def readLetters (specs : List OptionSpec) : List Char → Except UsageError Reading
  | [] => .ok (.complete [])
  | c :: rest => match specs.find? (·.letter == some c) with
    | none => .error (.unknownOption ("-" ++ String.ofList [c]))
    | some o =>
      if !o.takesValue then (readLetters specs rest).map (Reading.after ⟨o.name, none⟩)
      else if rest.isEmpty then .ok (.awaiting [] o)
      else .ok (.complete [⟨o.name, some (String.ofList rest)⟩])

/-- Reads a long name, after which an equals sign may add a value. -/
def readLong (specs : List OptionSpec) (cs : List Char) : Except UsageError Reading :=
  let (name, value) := Text.partition '=' (String.ofList cs)
  match specs.find? (·.name == name) with
  | none => .error (.unknownOption ("--" ++ name))
  | some o => match o.takesValue, value with
    | true, none => .ok (.awaiting [] o)
    | false, some _ => .error (.unneededValue ("--" ++ name))
    | _, value => .ok (.complete [⟨o.name, value⟩])

def readArgument (specs : List OptionSpec) (arg : String) : Except UsageError Reading :=
  match arg.toList with
  | '-' :: '-' :: cs => readLong specs cs
  | '-' :: c :: cs => readLetters specs (c :: cs)
  | _ => .ok .operand

structure Arguments where
  given : List Given
  operands : List String
deriving DecidableEq, Repr

namespace Arguments

def withOptions (given : List Given) (a : Arguments) : Arguments :=
  { a with given := given ++ a.given }

def withOperand (operand : String) (a : Arguments) : Arguments :=
  { a with operands := operand :: a.operands }

/-- Reads arguments. Options may follow operands or must precede them all. -/
def read (specs : List OptionSpec) (mixed : Bool) : List String → Except UsageError Arguments
  | [] => .ok ⟨[], []⟩
  | arg :: rest =>
    if arg == "--" then .ok ⟨[], rest⟩
    else match readArgument specs arg with
      | .error e => .error e
      | .ok .operand =>
        if mixed then (read specs mixed rest).map (withOperand arg) else .ok ⟨[], arg :: rest⟩
      | .ok (.complete given) => (read specs mixed rest).map (withOptions given)
      | .ok (.awaiting given option) => match rest with
        | [] => .error (.missingValue ("--" ++ option.name))
        | value :: rest =>
          (read specs mixed rest).map (withOptions (given ++ [⟨option.name, some value⟩]))

def has (a : Arguments) (name : String) : Bool := a.given.any (·.name == name)

def values (a : Arguments) (name : String) : List String :=
  (a.given.filter (·.name == name)).filterMap (·.value)

def value? (a : Arguments) (name : String) : Option String := (a.values name).getLast?

/-- The options that were given, in the order in which each was given first. -/
def names (a : Arguments) : List String := (a.given.map (·.name)).eraseDups

end Arguments

end Parley.CommandLine
