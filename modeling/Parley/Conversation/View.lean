import Parley.Fault

/-!
# What a view shows

A conversation drives a view: it enters a mode, shows lines, plays cues, and leaves the mode again.
-/

namespace Parley

/-- A place in the world, with a name if it is not null. -/
structure Position where
  x : Number
  y : Number
  name : Json
deriving Repr

/-- An answer as it is shown. -/
structure RenderOption where
  id : String
  text : String
deriving DecidableEq, Repr

/-- A line as it is shown, with all texts translated. -/
structure RenderLine where
  speaker : Json
  name : Json
  text : String
  emotion : Json
  npcId : Option String
  options : Option (List RenderOption)
  hideSpeakerVisuals : Json
deriving Repr

inductive ViewCall where
  | enter (focus : Option Position)
  | exit
  /-- How long the character cannot be addressed, as the settings have it. -/
  | cooldown (milliseconds : Json)
  | render (line : RenderLine)
  | advanceCue
  | endCue
deriving Repr

def ViewCall.name : ViewCall → String
  | .enter _ => "enter"
  | .exit => "exit"
  | .cooldown _ => "cooldown"
  | .render _ => "render"
  | .advanceCue => "advance_cue"
  | .endCue => "end_cue"

/-- Where the player and the characters are. -/
structure Positions where
  player : Option Position
  npcs : List (String × Position)
deriving Repr

/-- The sum of two numbers. An integer that meets a `Double` becomes one first. -/
def Number.add : Number → Number → Except Fault Number
  | .int m, .int n => .ok (.int (m + n))
  | .double x, .double y => .ok (.double (x.add y))
  | .int m, .double y => match Double.ofInt? m with
    | some x => .ok (.double (x.add y))
    | none => .error .integerTooLarge
  | .double x, .int n => match Double.ofInt? n with
    | some y => .ok (.double (x.add y))
    | none => .error .integerTooLarge

def Number.half : Number → Except Fault Double
  | .int n =>
    let x := Double.ofSigned (n, 2)
    if x.isFinite then .ok x else .error .quotientTooLarge
  | .double x => .ok x.half

def Double.oneHalf : Double := Double.ofRatio false 1 2

/-- The middle of two coordinates, rounded to an integer, halves upwards. -/
def Number.middle (a b : Number) : Except Fault Number := do
  let sum ← a.add b
  let x ← sum.half
  let n ← (Number.double (x.add Double.oneHalf)).floor
  return .int n

def Position.between (a b : Position) : Except Fault Position := do
  let x ← a.x.middle b.x
  let y ← a.y.middle b.y
  return ⟨x, y, .null⟩

end Parley
