/-!
# Splitting text

Text is cut at the first of a mark or at every one of it.
-/

namespace Parley.Text

/-- The part before the first of a mark, and the part after it if there is one. -/
def partitionAt (mark : Char) : List Char → List Char × Option (List Char)
  | [] => ([], none)
  | c :: rest =>
    if c == mark then ([], some rest)
    else
      let (before, after) := partitionAt mark rest
      (c :: before, after)

/-- The two parts of a text around the first of a mark. -/
def partition (mark : Char) (s : String) : String × Option String :=
  let (before, after) := partitionAt mark s.toList
  (String.ofList before, after.map String.ofList)

/-- The pieces between the marks; there is one more of them than of the marks. -/
def pieces {α : Type} [DecidableEq α] (mark : α) : List α → List (List α)
  | [] => [[]]
  | c :: rest =>
    if c == mark then [] :: pieces mark rest
    else match pieces mark rest with
      | p :: ps => (c :: p) :: ps
      | [] => [[c]]

/-- The rows of a text, each ended by a line feed or by the end of the text. -/
def rows (s : String) : List String :=
  let ps := (pieces '\n' s.toList).map String.ofList
  if ps.getLast? == some "" then ps.dropLast else ps

end Parley.Text
