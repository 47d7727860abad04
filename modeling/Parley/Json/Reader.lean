import Parley.Json.Value
import Parley.Text.Integer
import Parley.Text.Surrogate

/-!
# Reading JSON text

`Json.read` accepts the JSON grammar with three further numbers, `NaN`, `Infinity` and `-Infinity`.
A text that is no JSON is refused at one character, with the line and column of that character;
an integer of more than 4300 digits is refused by its length, and so is what is nested too deep. Half of a surrogate pair may be named
without the other half.
-/

namespace Parley.Json

/-- What is wrong at the character where a text stops being JSON. -/
inductive Problem where
  | expectingValue
  | expectingName
  | expectingColon
  | expectingComma
  | unterminatedString
  | controlCharacter
  | badEscape
  | badUnicodeEscape
  | extraData
  | byteOrderMark
deriving DecidableEq, Repr

def Problem.message : Problem → String
  | .expectingValue => "Expecting value"
  | .expectingName => "Expecting property name enclosed in double quotes"
  | .expectingColon => "Expecting ':' delimiter"
  | .expectingComma => "Expecting ',' delimiter"
  | .unterminatedString => "Unterminated string starting at"
  | .controlCharacter => "Invalid control character at"
  | .badEscape => "Invalid \\escape"
  | .badUnicodeEscape => "Invalid \\uXXXX escape"
  | .extraData => "Extra data"
  | .byteOrderMark => "Unexpected UTF-8 BOM (decode using utf-8-sig)"

/-- A problem at a character: its index from zero, its line and column from one. -/
structure Malformed where
  problem : Problem
  index : Nat
  line : Nat
  column : Nat
deriving DecidableEq, Repr

def Malformed.message (e : Malformed) : String :=
  e.problem.message ++ ": line " ++ toString e.line ++ " column " ++ toString e.column ++
    " (char " ++ toString e.index ++ ")"

/-- What a value may be nested in. -/
inductive Container where
  | array
  | object
deriving DecidableEq, Repr

def Container.name : Container → String
  | .array => "array"
  | .object => "object"

/-- Why a text is not read. -/
inductive ReadError where
  | malformed (e : Malformed)
  | tooManyDigits (count : Nat)
  /-- A container stands within too many others. -/
  | tooDeep (container : Container)
deriving DecidableEq, Repr

namespace Reader

/-- Why reading stopped: a problem before the given rest of the text, too long an integer, or a
container too deep within others. -/
inductive Stop where
  | before (problem : Problem) (rest : List Char)
  | tooManyDigits (count : Nat)
  | tooDeep (container : Container)

def isBlank (c : Char) : Bool := c == ' ' || c == '\t' || c == '\n' || c == '\r'

/-- The text from its first character that is no blank. -/
def skip (cs : List Char) : List Char := cs.dropWhile isBlank

def hexDigit? (c : Char) : Option Nat :=
  if c.isDigit then some (c.toNat - '0'.toNat)
  else if 'a' ≤ c ∧ c ≤ 'f' then some (c.toNat - 'a'.toNat + 10)
  else if 'A' ≤ c ∧ c ≤ 'F' then some (c.toNat - 'A'.toNat + 10)
  else none

/-- The code of four hexadecimal digits. -/
def hex4 (a b c d : Char) : Option Nat := do
  return (((← hexDigit? a) * 16 + (← hexDigit? b)) * 16 + (← hexDigit? c)) * 16 + (← hexDigit? d)

/-- The character that a backslash and one letter stand for. -/
def shortEscape? : Char → Option Char
  | '"' => some '"'
  | '\\' => some '\\'
  | '/' => some '/'
  | 'b' => some '\x08'
  | 'f' => some '\x0c'
  | 'n' => some '\n'
  | 'r' => some '\r'
  | 't' => some '\t'
  | _ => none

/-- Reads four hexadecimal digits that are not the end of the text. -/
def codeUnit? : List Char → Option (Nat × List Char)
  | a :: b :: c :: d :: e :: rest => (hex4 a b c d).map fun n => (n, e :: rest)
  | _ => none

theorem codeUnit?_length {cs : List Char} {n : Nat} {rest : List Char}
    (h : codeUnit? cs = some (n, rest)) : rest.length + 4 = cs.length := by
  unfold codeUnit? at h
  split at h
  · simp only [Option.map_eq_some_iff, Prod.mk.injEq] at h
    obtain ⟨_, _, _, rfl⟩ := h
    simp
  · simp at h

/-- Reads the low half of a surrogate pair after its high half. Nothing is read unless a whole
second escape follows. -/
def lowHalf? : List Char → Option (Except Stop (Nat × List Char))
  | '\\' :: 'u' :: rest =>
    if (rest.drop 4).isEmpty then none
    else match codeUnit? rest with
      | none => some (.error (.before .badUnicodeEscape ('u' :: rest)))
      | some (low, after) => if Text.isLowSurrogate low then some (.ok (low, after)) else none
  | _ => none

theorem lowHalf?_length {cs : List Char} {n : Nat} {rest : List Char}
    (h : lowHalf? cs = some (.ok (n, rest))) : rest.length < cs.length := by
  unfold lowHalf? at h
  split at h
  · split at h
    · simp at h
    · split at h
      · simp at h
      · rename_i hc
        split at h
        · simp only [Option.some.injEq, Except.ok.injEq, Prod.mk.injEq] at h
          obtain ⟨rfl, rfl⟩ := h
          have := codeUnit?_length hc
          simp only [List.length_cons]
          omega
        · simp at h
  · simp at h

/-- Adds a code point to what has been read, last character first. -/
def add (code : Nat) (acc : List Char) : List Char := (Text.carry code).reverse ++ acc

/-- Reads a string after its opening mark; `start` is the text from that mark on and `acc` what has
been read, last character first. -/
def stringBody (start acc : List Char) : List Char → Except Stop (String × List Char)
  | [] => .error (.before .unterminatedString start)
  | c :: rest =>
    if c == '"' then .ok (String.ofList acc.reverse, rest)
    else if c == '\\' then
      match rest with
      | [] => .error (.before .unterminatedString start)
      | e :: after =>
        if e == 'u' then
          match _h : codeUnit? after with
          | none => .error (.before .badUnicodeEscape (e :: after))
          | some (code, after₁) =>
            if Text.isHighSurrogate code then
              match _h₂ : lowHalf? after₁ with
              | some (.error stop) => .error stop
              | some (.ok (low, after₂)) => 
                stringBody start (add (Text.joinSurrogates code low) acc) after₂
              | none => stringBody start (add code acc) after₁
            else stringBody start (add code acc) after₁
        else match shortEscape? e with
          | none => .error (.before .badEscape (c :: e :: after))
          | some ch => stringBody start (ch :: acc) after
    else if c < ' ' then .error (.before .controlCharacter (c :: rest))
    else stringBody start (c :: acc) rest
termination_by cs => cs.length
decreasing_by
  · have := codeUnit?_length _h
    have := lowHalf?_length _h₂
    simp only [List.length_cons]
    omega
  · have := codeUnit?_length _h
    simp only [List.length_cons]
    omega
  · have := codeUnit?_length _h
    simp only [List.length_cons]
    omega
  · simp only [List.length_cons]
    omega
  · simp only [List.length_cons]
    omega

def digits (cs : List Char) : List Char × List Char := cs.span Char.isDigit

def natOfDigits (ds : List Char) : Nat := Text.ofDigits (ds.map fun c => c.toNat - '0'.toNat)

/-- The integer part of a number: a zero, or digits that do not start with one. -/
def integerPart? : List Char → Option (List Char × List Char)
  | [] => none
  | c :: rest =>
    if c == '0' then some (['0'], rest)
    else if c.isDigit then some (digits (c :: rest))
    else none

/-- The digits after a point; none if the point is not followed by a digit. -/
def fractionPart : List Char → Option (List Char) × List Char
  | '.' :: c :: rest =>
    if c.isDigit then let (ds, after) := digits (c :: rest); (some ds, after)
    else (none, '.' :: c :: rest)
  | cs => (none, cs)

/-- The exponent; none if the mark is not followed by digits. -/
def exponentPart (cs : List Char) : Option Int × List Char :=
  match cs with
  | [] => (none, cs)
  | e :: rest =>
    if e == 'e' || e == 'E' then
      let (negative, tail) := match rest with
        | '-' :: t => (true, t)
        | '+' :: t => (false, t)
        | t => (false, t)
      match digits tail with
      | ([], _) => (none, cs)
      | (ds, after) =>
        let n : Int := natOfDigits ds
        (some (if negative then -n else n), after)
    else (none, cs)

/-- Reads a number; `start` is the text to blame if there is none. -/
def number (start cs : List Char) (negative : Bool) : Except Stop (Json × List Char) :=
  match integerPart? cs with
  | none => .error (.before .expectingValue start)
  | some (whole, rest) =>
    let (fraction, rest) := fractionPart rest
    let (exponent, rest) := exponentPart rest
    if fraction.isNone && exponent.isNone then
      if Text.digitLimit < whole.length then .error (.tooManyDigits whole.length)
      else
        let n : Int := natOfDigits whole
        .ok (.num (.int (if negative then -n else n)), rest)
    else
      let part := fraction.getD []
      let shift : Int := exponent.getD 0 - part.length
      .ok (.num (.double (Double.ofDecimal negative (natOfDigits (whole ++ part)) shift)), rest)

def words : List (List Char × Json) :=
  [("null".toList, .null), ("true".toList, .bool true), ("false".toList, .bool false),
   ("NaN".toList, .num (.double .nan)), ("Infinity".toList, .num (.double (.infinite false))),
   ("-Infinity".toList, .num (.double (.infinite true)))]

def scalar (cs : List Char) : Except Stop (Json × List Char) :=
  match words.find? fun w => w.1.isPrefixOf cs with
  | some (w, v) => .ok (v, cs.drop w.length)
  | none => match cs with
    | '-' :: rest => number cs rest true
    | _ => number cs cs false

mutual

/-- Reads a value with at most so many containers within one another. Every step takes a character or
a level, so the length of the text bounds the steps. -/
def value (levels : Nat) : Nat → List Char → Except Stop (Json × List Char)
  | 0, cs => .error (.before .expectingValue cs)
  | steps + 1, cs =>
    match cs with
    | [] => .error (.before .expectingValue cs)
    | c :: rest =>
      if c == '"' then do
        let (s, rest) ← stringBody cs [] rest
        return (.str s, rest)
      else if c == '\x7b' then
        if levels = 0 then .error (.tooDeep .object)
        else match skip rest with
          | '\x7d' :: after => .ok (.obj [], after)
          | rest => membersFrom (levels - 1) steps [] rest
      else if c == '[' then
        if levels = 0 then .error (.tooDeep .array)
        else match skip rest with
          | ']' :: after => .ok (.arr [], after)
          | rest => itemsFrom (levels - 1) steps [] rest
      else scalar cs

/-- Reads the members of an object from a name on, after those in `acc`. -/
def membersFrom (levels : Nat) : Nat → Members → List Char → Except Stop (Json × List Char)
  | 0, _, cs => .error (.before .expectingName cs)
  | steps + 1, acc, cs =>
    match cs with
    | '"' :: rest => do
      let (name, rest) ← stringBody cs [] rest
      match skip rest with
      | ':' :: rest => do
        let (v, rest) ← value levels steps (skip rest)
        match skip rest with
        | '\x7d' :: rest => .ok (.obj (acc.put name v), rest)
        | ',' :: rest => membersFrom levels steps (acc.put name v) (skip rest)
        | rest => .error (.before .expectingComma rest)
      | rest => .error (.before .expectingColon rest)
    | cs => .error (.before .expectingName cs)

/-- Reads the items of a list from a value on, after those in `acc`, which is reversed. -/
def itemsFrom (levels : Nat) : Nat → List Json → List Char → Except Stop (Json × List Char)
  | 0, _, cs => .error (.before .expectingValue cs)
  | steps + 1, acc, cs => do
    let (v, rest) ← value levels steps cs
    match skip rest with
    | ']' :: rest => .ok (.arr (v :: acc).reverse, rest)
    | ',' :: rest => itemsFrom levels steps (v :: acc) (skip rest)
    | rest => .error (.before .expectingComma rest)

end

/-- The place of the character before which `rest` is left. -/
def place (text rest : List Char) (problem : Problem) : Malformed :=
  let before := text.take (text.length - rest.length)
  let row := (before.reverse.takeWhile (· != '\n')).reverse
  ⟨problem, Text.length before, before.count '\n' + 1, Text.length row + 1⟩

def whole (levels : Nat) (cs : List Char) : Except Stop Json :=
  match cs with
  | '\ufeff' :: _ => .error (.before .byteOrderMark cs)
  | _ => do
    let (v, rest) ← value levels (2 * cs.length + 2) (skip cs)
    match skip rest with
    | [] => .ok v
    | rest => .error (.before .extraData rest)

end Reader

/-- Reads a JSON text with at most so many containers within one another. -/
def readNested (levels : Nat) (text : String) : Except ReadError Json :=
  let cs := text.toList
  match Reader.whole levels cs with
  | .ok v => .ok v
  | .error (.before problem rest) => .error (.malformed (Reader.place cs rest problem))
  | .error (.tooManyDigits count) => .error (.tooManyDigits count)
  | .error (.tooDeep container) => .error (.tooDeep container)

/-- How many containers may stand within one another. -/
def nestingLimit : Nat := 990

def read (text : String) : Except ReadError Json := readNested nestingLimit text

end Parley.Json
