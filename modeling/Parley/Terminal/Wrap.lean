import Parley.Text.Blank
import Parley.Text.Surrogate
import Parley.Text.Word

/-!
# Breaking text into rows

A paragraph, given as its code points, is split into chunks: runs of blanks, and words, which end
after a hyphen between letters and before or after a dash of two or more hyphens between words. Rows
are filled with chunks as long as they fit; a chunk that fits no row is cut. Blanks at the ends of
rows are dropped, except at the start of the first.
-/

namespace Parley.Terminal

open Text

def tabSize : Nat := 8

def space : Nat := ' '.toNat

def hyphen : Nat := '-'.toNat

/-- Whether a code point is a blank at which text is broken. -/
def isBreak (n : Nat) : Bool := isBreakingBlank (shownChar n)

/-- Tabs as blanks up to the next stop. A line end starts a row of stops anew. -/
def expandTabs (column : Nat) : List Nat → List Nat
  | [] => []
  | n :: rest =>
    if n == '\t'.toNat then
      let blanks := tabSize - column % tabSize
      List.replicate blanks space ++ expandTabs (column + blanks) rest
    else if n == '\n'.toNat || n == '\r'.toNat then n :: expandTabs 0 rest
    else n :: expandTabs (column + 1) rest

/-- Every breaking blank as a space, tabs expanded first. -/
def normalizeBlanks (ns : List Nat) : List Nat :=
  (expandTabs 0 ns).map fun n => if isBreak n then space else n

def isWordCode (n : Nat) : Bool := isWord (shownChar n)

def isLetterCode (n : Nat) : Bool := isLetter (shownChar n)

/-- A code point before which or after which a dash may stand between words. -/
def isWordEdge (n : Nat) : Bool :=
  isWordCode n || "!\"'&.,?".toList.contains (shownChar n)

/-- Whether a dash starts here: two or more hyphens, then a word character. -/
def dashAhead (ns : List Nat) : Bool :=
  let hyphens := ns.takeWhile (· == hyphen)
  2 ≤ hyphens.length && match ns.drop hyphens.length with
    | n :: _ => isWordCode n
    | [] => false

/-- Whether a dash may stand after what comes before it, given last first. -/
def edgeBehind : List Nat → Bool
  | n :: _ => isWordEdge n
  | [] => false

/-- Whether there are two letters at the start, perhaps with a hyphen between them. -/
def lettersAt : List Nat → Bool
  | a :: b :: rest =>
    isLetterCode a && if b == hyphen then (rest.head?.map isLetterCode).getD false else isLetterCode b
  | _ => false

/-- Whether a hyphenated part ends after the hyphen before `ahead`, given the code points before
that hyphen, last first: two letters before it and two after it, each two perhaps with a hyphen
between them. -/
def hyphenEnds (behind ahead : List Nat) : Bool := lettersAt behind && lettersAt ahead

/-- The length of the word at the start of `ahead`, given that `taken` code points of it have been
passed and the code points before `ahead`, last first. -/
def wordLength (taken : Nat) (behind : List Nat) : List Nat → Nat
  | [] => taken
  | n :: rest =>
    if taken = 0 then wordLength 1 (n :: behind) rest
    else if n == hyphen && hyphenEnds behind rest then taken + 1
    else if isBreak n then taken
    else if edgeBehind behind && dashAhead (n :: rest) then taken
    else wordLength (taken + 1) (n :: behind) rest

/-- The length of the chunk at the start of a text, given the code points before it, last first. -/
def chunkLength (behind ns : List Nat) : Nat :=
  match ns with
  | [] => 0
  | n :: _ =>
    if isBreak n then (ns.takeWhile isBreak).length
    else if edgeBehind behind && dashAhead ns then (ns.takeWhile (· == hyphen)).length
    else wordLength 0 behind ns

/-- Splits a text into chunks, in at most so many steps. -/
def chunksFrom : Nat → List Nat → List Nat → List (List Nat)
  | 0, _, _ => []
  | steps + 1, behind, ns =>
    if ns.isEmpty then []
    else
      let size := max 1 (chunkLength behind ns)
      let chunk := ns.take size
      chunk :: chunksFrom steps (chunk.reverse ++ behind) (ns.drop size)

def chunks (ns : List Nat) : List (List Nat) := chunksFrom ns.length [] ns

def isBlankChunk (chunk : List Nat) : Bool := chunk.all fun n => isBlank (shownChar n)

/-- The chunks that fit into a row from a column on, and the others. -/
def fill (width : Nat) : Nat → List (List Nat) → List (List Nat) × List (List Nat)
  | _, [] => ([], [])
  | used, chunk :: rest =>
    if used + chunk.length ≤ width then
      let (taken, left) := fill width (used + chunk.length) rest
      (chunk :: taken, left)
    else ([], chunk :: rest)

/-- Where a chunk that fits no row is cut when some room is left: after the last hyphen that fits
and has more than hyphens before it, else where the room ends. -/
def cutLength (room : Nat) (chunk : List Nat) : Nat :=
  let fitting := chunk.take room
  let after := (fitting.reverse.takeWhile (· != hyphen)).length
  let before := fitting.length - after - 1
  if after < fitting.length && 0 < before && (chunk.take before).any (· != hyphen) then before + 1
  else room

def dropBlankEnd (row : List (List Nat)) : List (List Nat) :=
  match row.getLast? with
  | some chunk => if isBlankChunk chunk then row.dropLast else row
  | none => row

/-- The chunks without a blank one at their start, which only the first row may have. `first` tells
whether no row has been made yet. -/
def skipBlank (first : Bool) (cs : List (List Nat)) : List (List Nat) :=
  match cs with
  | chunk :: rest => if isBlankChunk chunk && !first then rest else cs
  | [] => cs

def takeRow (width : Nat) (cs : List (List Nat)) : List (List Nat) × List (List Nat) :=
  let (row, left) := fill width 0 cs
  match left with
  | chunk :: rest =>
    if width < chunk.length then
      let n := cutLength (width - row.flatten.length) chunk
      (dropBlankEnd (row ++ [chunk.take n]), chunk.drop n :: rest)
    else (dropBlankEnd row, left)
  | [] => (dropBlankEnd row, left)

def nextRow (width : Nat) (first : Bool) (cs : List (List Nat)) :
    List (List Nat) × List (List Nat) :=
  takeRow width (skipBlank first cs)

/-- Makes rows of chunks, in at most so many steps. -/
def rowsFrom (width : Nat) : Nat → Bool → List (List Nat) → List (List Nat)
  | 0, _, _ => []
  | steps + 1, first, cs =>
    if cs.isEmpty then []
    else
      let (row, left) := nextRow width first cs
      if row.isEmpty then rowsFrom width steps first left
      else row.flatten :: rowsFrom width steps false left

/-- Breaks a paragraph into rows of at most `width` code points, which must be positive. -/
def wrap (width : Nat) (ns : List Nat) : List (List Nat) :=
  let ns := normalizeBlanks ns
  rowsFrom width (2 * ns.length + 1) true (chunks ns)

end Parley.Terminal
