import Parley.Json.Value

/-!
# Dialogue documents

A document is a tree: lines carry choices, a choice carries lines, actions and branches, and a
branch carries lines and actions again. A section that is absent is kept apart from one that is
empty, because only an absent one falls back to the section of the enclosing level. Fields that
nothing restricts keep the value they were read with; there null means that the field is absent.
-/

namespace Parley

/-- A test of the player's inventory. -/
inductive Check where
  /-- Passes when the item is held or equipped, or, negated, when it is not. -/
  | hasItem (itemId : String) (negate : Bool)
  /-- A test of an unknown type, which always fails, with the object it was read from. -/
  | unknown (type : String) (source : Members)
deriving Repr, Inhabited

/-- Something that happens at the end of a conversation. -/
inductive Action where
  /-- Gives an item; `ifMissing` skips the gift when the item is already held. -/
  | giveItem (itemId : String) (amount : Option Number) (ifMissing : Bool)
  /-- An action of an unknown type, which is ignored, with the object it was read from. -/
  | unknown (type : String) (source : Members)
deriving Repr, Inhabited

mutual

/-- One beat of a conversation. -/
structure Line where
  speaker : Json
  text : String
  textKey : Json
  emotion : Json
  name : Json
  nameKey : Json
  options : Option (List Choice)
  hideSpeakerVisuals : Json

/-- An answer that the player can select. -/
structure Choice where
  id : String
  text : String
  textKey : Json
  lines : Option (List Line)
  actions : Option (List Action)
  branches : Option (List Branch)

/-- A conditional continuation of a choice. -/
structure Branch where
  checks : List Check
  lines : Option (List Line)
  actions : Option (List Action)

end

/-- A conditional variant of a whole document. -/
structure Fork where
  checks : List Check
  lines : List Line
  actions : Option (List Action)

/-- The conversation of one character. -/
structure Document where
  id : String
  lines : Option (List Line)
  forks : Option (List Fork)
  actions : Option (List Action)

namespace Line

def hasOptions (line : Line) : Bool :=
  match line.options with
  | some (_ :: _) => true
  | _ => false

/-- Whether the speaker's visuals are hidden: as the line says, else while choices are shown. -/
def effectiveHide (line : Line) : Json :=
  if line.hideSpeakerVisuals.isNull then .bool line.hasOptions else line.hideSpeakerVisuals

end Line

namespace Document

def hasAnyLines (d : Document) : Bool :=
  !(d.lines.getD []).isEmpty || (d.forks.getD []).any fun f => !f.lines.isEmpty

end Document
end Parley
