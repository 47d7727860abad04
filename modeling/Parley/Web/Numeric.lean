import Parley.Json.Reader
import Parley.Text.Split

/-!
# Numeric addresses

A host may be given by numbers: four decimal numbers between points, or eight hexadecimal numbers
between colons. Of the latter, zeros in a row may be left out once, the last two may be written as four
decimal numbers, and a zone may follow a percent sign. Addresses of kinds to come have a version.
-/

namespace Parley.Web.Numeric

/-- Whether a text is a decimal number below 256 without needless zeros. -/
def isOctet (cs : List Char) : Bool :=
  !cs.isEmpty && cs.all Char.isDigit && cs.length ≤ 3 && (cs == ['0'] || cs.head? != some '0') &&
    Json.Reader.natOfDigits cs < 256

def isFourNumbers (cs : List Char) : Bool :=
  let parts := Text.pieces '.' cs
  parts.length == 4 && parts.all isOctet

def isHexDigit (c : Char) : Bool := (Json.Reader.hexDigit? c).isSome

/-- Whether a text is a hexadecimal number of at most four digits. -/
def isGroup (cs : List Char) : Bool := !cs.isEmpty && cs.length ≤ 4 && cs.all isHexDigit

def groupCount : Nat := 8

/-- The groups between colons, where four decimal numbers at the end are two groups. -/
def groups? (cs : List Char) : Option (List (List Char)) :=
  let parts := Text.pieces ':' cs
  let last := parts.getLast?.getD []
  if parts.length < 3 then none
  else if !last.contains '.' then some parts
  else if isFourNumbers last then some (parts.dropLast ++ [['0'], ['0']])
  else none

/-- The groups at one side of those that are left out. The address may begin or end there. -/
def sideGroups (side : List (List Char)) : List (List Char) := if side == [[]] then [] else side

/-- Whether groups make an address. An empty one between others stands for those that are left out. -/
def areEightGroups : List (List Char) → Bool
  | [] => false
  | first :: rest =>
    let (front, back) := rest.dropLast.span (!·.isEmpty)
    match back with
    | [] => (first :: rest).length == groupCount && (first :: rest).all isGroup
    | _ :: back =>
      let sides := sideGroups (first :: front) ++ sideGroups (back ++ (rest.getLast?).toList)
      sides.length < groupCount && sides.all isGroup

/-- Whether a text is an address of eight groups, perhaps with a zone. -/
def isEightGroups (cs : List Char) : Bool :=
  let (address, zone) := Text.partitionAt '%' cs
  (match zone with
    | some zone => !zone.isEmpty && !zone.contains '%'
    | none => true) &&
  ((groups? address).map areEightGroups).getD false

/-- Whether a text is an address with a version: a hexadecimal number, a point, and more. -/
def isVersioned (cs : List Char) : Bool :=
  match cs with
  | 'v' :: rest =>
    let version := rest.takeWhile isHexDigit
    !version.isEmpty && match rest.drop version.length with
      | '.' :: c :: more => !(c :: more).contains '\n'
      | _ => false
  | _ => false

example : isEightGroups "fe80::1.2.3.4%x".toList ∧ ¬isEightGroups "1::2::3".toList := by
  decide +kernel

end Parley.Web.Numeric
