import Parley.Text.Composition
import Parley.Text.Direction
import Parley.Text.Punycode
import Parley.Text.Split

/-!
# Names of hosts

The name of a host is made of labels with points between them. On the wire a label is ASCII: one with
other characters is folded and written in punycode after a mark. The name that is shown has these
characters again, and it must lead back to the same label.
-/

namespace Parley.Web.Host

/-- Why a name has no form on the wire, or none to be shown. -/
inductive Problem where
  /-- A label is empty or too long. -/
  | labelLength
  /-- The last label is too long. -/
  | lastLength
  /-- A character that no name has. -/
  | forbidden (code : Nat)
  /-- A label is written in both directions. -/
  | bothDirections
  /-- A label that is written from right to left begins or ends with another character. -/
  | openDirection
  /-- A label has the mark of those that are written in punycode. -/
  | mark
  /-- A label is no punycode. -/
  | punycode (e : Text.Punycode.Problem)
  /-- A label does not lead back to itself but to another one. -/
  | otherLabel (label other : List Nat)
deriving DecidableEq, Repr

namespace Problem

def failed (work code cause : String) : String :=
  work ++ " with '" ++ code ++ "' codec failed (UnicodeError: " ++ cause ++ ")"

def labelText (label : List Nat) : String :=
  "b" ++ Text.quoted (String.ofList (Text.ofCodePoints label))

def cause : Problem → String
  | .labelLength => "label empty or too long"
  | .lastLength => "label too long"
  | .forbidden code => "Invalid character " ++ Text.quoted (String.ofList (Text.carry code))
  | .bothDirections => "Violation of BIDI requirement 2"
  | .openDirection => "Violation of BIDI requirement 3"
  | .mark => "Label starts with ACE prefix"
  | .punycode e => failed "decoding" "punycode" e.message
  | .otherLabel label other =>
    "('IDNA does not round-trip', " ++ labelText label ++ ", " ++ labelText other ++ ")"

/-- The message about a name that is encoded or decoded. -/
def message (work : String) : Problem → String
  | e@(.otherLabel ..) => e.cause
  | e => failed work "idna" e.cause

end Problem

/-- The characters that no name has, as closed ranges in increasing order. -/
def forbiddenRanges : Array (Nat × Nat) :=
  #[(0x80, 0xA0), (0x340, 0x341), (0x6DD, 0x6DD), (0x70F, 0x70F), (0x1680, 0x1680),
   (0x180E, 0x180E), (0x2000, 0x200F), (0x2028, 0x202F), (0x205F, 0x2063), (0x206A, 0x206F),
   (0x2FF0, 0x2FFB), (0x3000, 0x3000), (0xD800, 0xF8FF), (0xFDD0, 0xFDEF), (0xFEFF, 0xFEFF),
   (0xFFF9, 0xFFFF), (0x1D173, 0x1D17A), (0x1FFFE, 0x1FFFF), (0x2FFFE, 0x2FFFF),
   (0x3FFFE, 0x3FFFF), (0x4FFFE, 0x4FFFF), (0x5FFFE, 0x5FFFF), (0x6FFFE, 0x6FFFF),
   (0x7FFFE, 0x7FFFF), (0x8FFFE, 0x8FFFF), (0x9FFFE, 0x9FFFF), (0xAFFFE, 0xAFFFF),
   (0xBFFFE, 0xBFFFF), (0xCFFFE, 0xCFFFF), (0xDFFFE, 0xDFFFF), (0xE0001, 0xE0001),
   (0xE0020, 0xE007F), (0xEFFFE, 0x10FFFF)]

/-- Checks the directions of a label: one with letters that are written from right to left has none
that are written from left to right, and such letters at both ends. -/
def checkDirection (label : List Nat) : Except Problem Unit :=
  if !label.any Text.isLeftward then .ok ()
  else if label.any Text.isRightward then .error .bothDirections
  else if (label.head?.map Text.isLeftward).getD true &&
      (label.getLast?.map Text.isLeftward).getD true then .ok ()
  else .error .openDirection

def prepare (label : List Nat) : Except Problem (List Nat) := do
  let label := Text.foldText label
  match label.find? (Text.inRanges forbiddenRanges) with
  | some code => throw (.forbidden code)
  | none =>
    checkDirection label
    return label

def isAscii (label : List Nat) : Bool := label.all Text.Punycode.isAscii

/-- The first length at which a label is too long. -/
def labelLimit : Nat := 64

def point : Nat := '.'.toNat

/-- The points between labels: that of ASCII, and those of other scripts. -/
def isPoint (n : Nat) : Bool := [point, 0x3002, 0xFF0E, 0xFF61].contains n

def wireMark : List Nat := "xn--".toList.map Char.toNat

def isLabel (label : List Nat) : Bool := !label.isEmpty && label.length < labelLimit

/-- A label that must not be empty or too long. -/
def checkLabel (label : List Nat) : Except Problem (List Nat) :=
  if isLabel label then .ok label else .error .labelLength

def wireLabel (label : List Nat) : Except Problem (List Nat) := do
  if isAscii label then checkLabel label
  else
    let label ← prepare label
    if isAscii label then checkLabel label
    else if wireMark.isPrefixOf label then throw .mark
    else checkLabel (wireMark ++ Text.Punycode.encode label)

def shownLabel (label : List Nat) : Except Problem (List Nat) := do
  if !wireMark.isPrefixOf label then return label
  let shown ← (Text.Punycode.decode (label.drop wireMark.length)).mapError .punycode
  let again ← wireLabel shown
  if again == label.map lower then return shown
  throw (.otherLabel label again)
where
  /-- A small letter of ASCII for a capital one. -/
  lower (n : Nat) : Nat := if 'A'.toNat ≤ n && n ≤ 'Z'.toNat then n + 0x20 else n

/-- Checks a name in ASCII. Its last label may be empty. -/
def checkAscii (name : List Nat) : Except Problem Unit :=
  let labels := Text.pieces point name
  if !labels.dropLast.all isLabel then .error .labelLength
  else if labelLimit ≤ (labels.getLast?.getD []).length then .error .lastLength
  else .ok ()

def labels (name : List Nat) : List (List Nat) × Bool :=
  let all := Text.pieces point (name.map fun n => if isPoint n then point else n)
  if all.getLast? = some [] then (all.dropLast, true) else (all, false)

def ofLabels (labels : List (List Nat)) (ended : Bool) : List Nat :=
  [point].intercalate labels ++ if ended then [point] else []

def wireName (name : List Nat) : Except Problem (List Nat) :=
  if isAscii name then (checkAscii name).map fun _ => name
  else
    let (all, ended) := labels name
    (all.mapM wireLabel).map fun all => ofLabels all ended

def hasMark : List Nat → Bool
  | [] => false
  | n :: rest => wireMark.isPrefixOf (n :: rest) || hasMark rest

def shownName (name : List Nat) : Except Problem (List Nat) :=
  if !hasMark name then .ok name
  else
    let (all, ended) := labels name
    (all.mapM shownLabel).map fun all => ofLabels all ended

end Parley.Web.Host
