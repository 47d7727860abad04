import Parley.Dialogue.Copy
import Parley.Dialogue.Resolution

/-!
# Sessions

A session is the state of the conversation on screen: a private list of lines that grows when
choices are selected, the place in it, and the actions that wait for the end.
-/

namespace Parley

structure Session where
  npcId : Option String
  npcName : Json
  lines : List Line
  index : Int
  pending : List Action
  active : Bool
  shown : Bool

namespace Session

def idle : Session := ⟨none, .null, [], 0, [], false, false⟩

/-- The start of a conversation on what a document was resolved to. -/
def opened (npcId : String) (npcName : Json) (r : Resolution) : Session :=
  ⟨some npcId, npcName, Line.copyList r.lines, 0, Action.copySection (some r.actions), true, false⟩

def current? (s : Session) : Option Line :=
  if 0 ≤ s.index then s.lines[s.index.toNat]? else none

def isLast (s : Session) : Bool := (s.lines.length : Int) - 1 ≤ s.index

end Session

/-- A line after one of its choices was selected: the choice's text stands for it, and it has
nothing more to select. -/
def Line.answered (line : Line) (text : String) : Line :=
  { line with text, textKey := .null, options := none, hideSpeakerVisuals := .bool false }

def spliceAfter (index : Nat) (new : List α) (old : List α) : List α :=
  old.take (index + 1) ++ new ++ old.drop (index + 1)

end Parley
