import Parley.Files.Tree
import Parley.Json.Reader
import Parley.Text.Writable

/-!
# Faults

Everything that can end an operation before its result, as causes. The words of each stand in
`Fault.message`.
-/

namespace Parley

/-- Why an operation has no result. -/
inductive Fault where
  /-- A text is no JSON. -/
  | malformedText (e : Json.Malformed)
  /-- Bytes are no text. -/
  | undecodable (e : Text.Undecodable)
  /-- A text cannot be written as bytes. -/
  | unwritable (e : Text.Unwritable)
  /-- A path has a zero character, which no path may have. -/
  | zeroInPath
  /-- A file cannot be read. -/
  | unreadable (e : AccessError)
  /-- An integer in a text is too long. -/
  | tooManyDigits (count : Nat)
  /-- A JSON text is nested too deep. -/
  | tooDeep (container : Json.Container)
  /-- A text is no integer. -/
  | notInteger (text : String)
  /-- An integer has too many digits to be written. -/
  | integerTooLong
  /-- An integer is beyond the range of `Double`. -/
  | integerTooLarge
  /-- A quotient of integers is beyond the range of `Double`. -/
  | quotientTooLarge
  /-- An infinity has no integer part. -/
  | infiniteInteger
  /-- Not a number has no integer part. -/
  | undefinedInteger
  /-- A value of this kind has no integer part. -/
  | noInteger (kind : String)
  /-- A value of this kind names no file. -/
  | noPath (kind : String)
  /-- A value of this kind is no id. -/
  | noId (kind : String)
  /-- A value of this kind cannot be looked up by. -/
  | notAKey (kind : String)
  /-- A value of this kind is no text that JSON could be read from. -/
  | noText (kind : String)
  /-- A value of this kind has no length. -/
  | noLength (kind : String)
  /-- A value of this kind does not have the member. -/
  | noMember (kind member : String)
  /-- There is nothing of this name. -/
  | unknownName (name : String)
  /-- The inventory cannot be written. -/
  | diskFull
  /-- The dialogues cannot be fetched. -/
  | repositoryDown
  /-- The view fails at a call. -/
  | view (call : String)
deriving DecidableEq, Repr

namespace Fault

def ofReadError : Json.ReadError → Fault
  | .malformed e => .malformedText e
  | .tooManyDigits count => .tooManyDigits count
  | .tooDeep container => .tooDeep container

def ofIntegerError (text : String) : Text.IntegerError → Fault
  | .invalid => .notInteger text
  | .tooManyDigits count => .tooManyDigits count

/-- How much of a quoted text a message shows. -/
def shownCharacters : Nat := 200

def message : Fault → String
  | .malformedText e => e.message
  | .undecodable e => e.message
  | .unwritable e => e.message
  | .zeroInPath => "embedded null byte"
  | .unreadable e => e.message
  | .tooManyDigits count =>
    "Exceeds the limit (" ++ toString Text.digitLimit ++
      " digits) for integer string conversion: value has " ++ toString count ++
      " digits; use sys.set_int_max_str_digits() to increase the limit"
  | .integerTooLong =>
    "Exceeds the limit (" ++ toString Text.digitLimit ++ " digits) for integer string conversion; " ++
      "use sys.set_int_max_str_digits() to increase the limit"
  | .tooDeep container =>
    "maximum recursion depth exceeded while decoding a JSON " ++ container.name ++
      " from a unicode string"
  | .notInteger text =>
    "invalid literal for int() with base 10: " ++
      String.ofList ((Text.quoted text).toList.take shownCharacters)
  | .integerTooLarge => "int too large to convert to float"
  | .quotientTooLarge => "integer division result too large for a float"
  | .infiniteInteger => "cannot convert float infinity to integer"
  | .undefinedInteger => "cannot convert float NaN to integer"
  | .noInteger kind => "a value of type '" ++ kind ++ "' is no integer"
  | .noPath kind => "a value of type '" ++ kind ++ "' is no path"
  | .noId kind => "a value of type '" ++ kind ++ "' is no id"
  | .notAKey kind => "unhashable type: '" ++ kind ++ "'"
  | .noText kind => "the JSON object must be str, bytes or bytearray, not " ++ kind
  | .noLength kind => "object of type '" ++ kind ++ "' has no len()"
  | .noMember kind member => "'" ++ kind ++ "' object has no attribute '" ++ member ++ "'"
  | .unknownName name => "there is no " ++ Text.quoted name
  | .diskFull => "disk full"
  | .repositoryDown => "repo down"
  | .view call => "view " ++ call

end Fault

theorem exists_ok_bind {ε α β : Type} {x : Except ε α} {f : α → Except ε β}
    (hx : ∃ a, x = .ok a) (hf : ∀ a, ∃ b, f a = .ok b) : ∃ b, x >>= f = .ok b := by
  obtain ⟨a, rfl⟩ := hx
  exact hf a

theorem exists_of_bind_eq_ok {ε α β : Type} {x : Except ε α} {f : α → Except ε β} {b : β}
    (h : x >>= f = .ok b) : ∃ a, x = .ok a ∧ f a = .ok b := by
  cases x with
  | error fault => cases h
  | ok a => exact ⟨a, rfl, h⟩

def Double.noIntegerPart : Double → Fault
  | .nan => .undefinedInteger
  | _ => .infiniteInteger

def Number.truncate : Number → Except Fault Int
  | .int n => .ok n
  | .double x => match x.truncate? with
    | some n => .ok n
    | none => .error x.noIntegerPart

def Number.floor : Number → Except Fault Int
  | .int n => .ok n
  | .double x => match x.floor? with
    | some n => .ok n
    | none => .error x.noIntegerPart

/-- Whether a number is finite; an integer beyond the range of `Double` is refused. -/
def Number.finite : Number → Except Fault Bool
  | .int n => if (Double.ofInt? n).isSome then .ok true else .error .integerTooLarge
  | .double x => .ok x.isFinite

/-- The integer that a value stands for: the integer part of a number, one or zero for a truth
value, the integer that a text spells. -/
def Json.toInteger : Json → Except Fault Int
  | .num n => n.truncate
  | .bool b => .ok (if b then 1 else 0)
  | .str s => match Text.readInteger s with
    | .ok n => .ok n
    | .error e => .error (.ofIntegerError s e)
  | v => .error (.noInteger v.kind)

/-- Refuses a path, as a text, that no file can have: one that has no bytes, or a zero. -/
def checkPathText (path : String) : Except Fault Unit :=
  match Text.byteless? path with
  | some e => .error (.unwritable e)
  | none => if path.toList.contains '\x00' then .error .zeroInPath else .ok ()

namespace FileTree

/-- The text of a file, with every line end as one line feed. -/
def readText (t : FileTree) (p : FilePath) : Except Fault String := do
  checkPathText p.toString
  match t.readBytes p with
  | .error e => .error (.unreadable e)
  | .ok bytes => match Text.decodeUtf8 bytes with
    | .error e => .error (.undecodable e)
    | .ok text => .ok (String.ofList (Text.normalizeLineEnds (Text.ofChars text.toList)))

def writeEntry (t : FileTree) (p : FilePath) (e : FileEntry) : Except Fault FileTree := do
  checkPathText p.toString
  (t.write p e).mapError .unreadable

def removeFile (t : FileTree) (p : FilePath) : Except Fault FileTree := do
  checkPathText p.toString
  (t.remove p).mapError .unreadable

end FileTree

end Parley
