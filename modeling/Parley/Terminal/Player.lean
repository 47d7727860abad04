import Parley.Conversation.Engine
import Parley.Repository
import Parley.Terminal.Box
import Parley.Terminal.Stream

/-!
# Playing in a terminal

A player runs one conversation: lines appear in boxes, numbers select choices, an empty row goes
on. What appears is read off the calls that the engine makes to its view.
-/

namespace Parley.Terminal

/-- What the player sees: a prompt, which stays on its row, or a row. -/
inductive Output where
  | prompt (text : String)
  | row (text : String)
deriving DecidableEq, Repr

/-- What the player does at a prompt. -/
inductive Input where
  | text (s : String)
  | interrupt
deriving DecidableEq, Repr

structure Screen where
  current : Option RenderLine
  inConversation : Bool
  cooldown : Json

def Screen.dark : Screen := ⟨none, false, .num 0⟩

def conversationRule : String := "\n" ++ Style.brightCyan.apply (doubleRule 60)

def lineBox (columns : Int) (line : RenderLine) : Except Fault String :=
  let style := if Engine.isNpc line.speaker then Style.brightCyan else Style.brightGreen
  box line.text line.name style.start usualWidth columns

def optionRows (options : List RenderOption) : List String :=
  if options.isEmpty then []
  else ("\n" ++ Style.dim.apply (rule 50)) :: options.zipIdx.map fun (o, i) =>
    "  " ++ Style.brightYellow.apply ("[" ++ toString (i + 1) ++ "]") ++ " " ++
      Style.yellow.apply o.text

def Screen.after (s : Screen) : ViewCall → Screen
  | .enter _ => { s with inConversation := true }
  | .exit => { s with inConversation := false, current := none }
  | .cooldown ms => { s with cooldown := ms }
  | .render line => { s with current := some line }
  | .advanceCue => s
  | .endCue => s

def callRows (columns : Int) : ViewCall → Except Fault (List String)
  | .enter _ => .ok [conversationRule]
  | .render line => (lineBox columns line).map fun b => b :: optionRows (line.options.getD [])
  | .endCue => .ok [conversationRule]
  | _ => .ok []

/-- The rows of a call that are written, and why not all of them are: a box cannot be drawn, or the
stream refuses a row. -/
def writeCall (columns : Int) (stream : Stream) (c : ViewCall) : List String × Option Fault :=
  match callRows columns c with
  | .ok rows => stream.write rows
  | .error fault => ([], some fault)

/-- The screen fails at a call whose rows are not all written. -/
def viewFault (columns : Int) (stream : Stream) (c : ViewCall) : Option Fault :=
  (writeCall columns stream c).2

/-- A conversation in a terminal. -/
structure Player where
  world : World
  columns : Int
  stream : Stream
  engine : Engine
  screen : Screen
  outputs : List Output

namespace Player

/-- A player over files, an inventory and settings, that shows itself on a stream. -/
def make (files : FileTree) (root : FilePath) (items : List (String × Int)) (equipped : Members)
    (translator : Translator) (settings : Settings) (columns : Int) (stream : Stream) : Player where
  world := {
    document := fun id => ((Repository.ofRoot root).load files id).1
    translator
    positions := none
    settings
    supply := Supply.working
    viewFault := viewFault columns stream }
  columns
  stream
  engine := Engine.start (Service.ofItems items Service.defaultSlots equipped)
  screen := Screen.dark
  outputs := []

def print (p : Player) (rows : List String) : Player :=
  { p with outputs := p.outputs ++ rows.map Output.row }

/-- Shows the calls of the view since the last time. -/
def showEvents (p : Player) : Player :=
  let p' := p.engine.events.foldl (fun p event => match event with
    | .view c =>
      { p with screen := p.screen.after c }.print (writeCall p.columns p.stream c).1
    | _ => p) p
  { p' with engine := { p'.engine with events := [] } }

/-- Runs a step of the engine and shows what it does. -/
def play (p : Player) (x : Play Unit) : Except Fault Unit × Player :=
  let (r, engine) := x p.engine
  (r, { p with engine }.showEvents)

def inventoryRows (s : Snapshot) : List String :=
  let held := (s.slots.filter fun slot => slot.item.truthy).map fun slot =>
    slot.item.display ++ " x" ++ toString slot.count
  let equipped := s.extra.filter fun (name, v) => namesEquipment name && v.truthy
  ("\n" ++ Style.brightBlue.apply "🎒 Inventory:" ++ " " ++
      if held.isEmpty then "(empty)" else ", ".intercalate held) ::
    equipped.map fun (name, v) => "  " ++ Style.cyan.apply "•" ++ " " ++ name ++ ": " ++ v.display

/-- Writes rows up to the first that the stream refuses. -/
def write (p : Player) (rows : List String) : Except Fault Unit × Player :=
  let (written, fault) := p.stream.write rows
  (match fault with
    | some fault => .error fault
    | none => .ok (), p.print written)

def showInventory (p : Player) : Except Fault Unit × Player :=
  p.write (inventoryRows p.engine.stock.service.stored)

def options (p : Player) : List RenderOption :=
  match p.screen.current with
  | some line => line.options.getD []
  | none => []

def promptText (p : Player) : String :=
  if p.options.isEmpty then Style.dim.apply "[Enter]" ++ " "
  else "\n" ++ Style.brightMagenta.apply ">" ++ " "

/-- What a row that was entered asks for. -/
inductive Request where
  | quit
  | state
  | advance
  | select (id : String)
  | unreadable
  | outOfRange
deriving DecidableEq, Repr

/-- Reads a row that was entered while choices are on screen or not. Commands are ASCII words in
letters of any case. -/
def readRequest (options : List RenderOption) (entered : String) : Request :=
  let word := String.ofList ((Text.strip entered).toList.map Char.toLower)
  if ["quit", "exit", "q"].contains word then .quit
  else if word == "state" then .state
  else if options.isEmpty then .advance
  else match Text.readInteger word with
    | .error _ => .unreadable
    | .ok n =>
      if 1 ≤ n ∧ n ≤ options.length then
        match options[(n - 1).toNat]? with
        | some o => .select o.id
        | none => .outOfRange
      else .outOfRange

/-- Does what was asked for. The result tells whether the player goes on. -/
def obey (p : Player) : Request → Except Fault Bool × Player
  | .quit => (.ok false, p)
  | .state =>
    let (r, p) := p.showInventory
    (r.map fun _ => true, p)
  | .advance =>
    let (r, p) := p.play (Engine.advance p.world)
    (r.map fun _ => true, p)
  | .select id =>
    let (r, p) := p.play (Engine.select p.world id)
    (r.map fun _ => true, p)
  | .unreadable =>
    (.ok true, p.print [Style.red.apply "❌ Please enter a valid number or command."])
  | .outOfRange =>
    (.ok true,
      p.print [Style.red.apply "❌ Invalid choice. Please enter a number from the list."])

def ask (p : Player) : Player := { p with outputs := p.outputs ++ [.prompt p.promptText] }

/-- Does what an input asks for; nothing stands for the end of the input. -/
def reply (p : Player) (input : Option Input) : Except Fault Bool × Player :=
  match input with
  | some (.text s) => p.obey (readRequest p.options s)
  | _ => (.ok false, p)

def step (p : Player) (input : Option Input) : Except Fault Bool × Player := p.ask.reply input

/-- The end of a conversation that the player left. -/
def abandon (p : Player) : Player :=
  p.print ["\n" ++ Style.brightYellow.apply "👋 Conversation abandoned."]

/-- The row that tells that a character has nothing to say. -/
def silenceRow (npcId : String) : String :=
  Style.red.apply ("❌ '" ++ npcId ++ "' has nothing to say.")

/-- Starts the conversation. The result tells whether there is one. -/
def begin (p : Player) (npcId : String) (npcName : Json) : Except Fault Bool × Player :=
  let p := { p with engine := p.engine.interact p.world npcId npcName }.showEvents
  if p.engine.session.active then (.ok true, p)
  else
    let (r, p) := p.write [silenceRow npcId]
    (r.map fun _ => false, p)

/-- Plays on with inputs, up to the end of the conversation or of the inputs. -/
def playOn : List Input → Player → Except Fault Unit × Player
  | inputs, p =>
    if !p.engine.session.active then (.ok (), p)
    else match inputs with
      | [] => match p.step none with
        | (.error fault, p) => (.error fault, p)
        | (.ok _, p) => (.ok (), p.abandon)
      | input :: rest => match p.step (some input) with
        | (.error fault, p) => (.error fault, p)
        | (.ok true, p) => p.playOn rest
        | (.ok false, p) => (.ok (), p.abandon)

/-- Takes the engine off the bus. -/
def close (p : Player) : Player := { p with engine := p.engine.destroy }

/-- Runs one conversation. The result tells whether there was one. -/
def run (p : Player) (npcId : String) (npcName : Json) (inputs : List Input) :
    Except Fault Bool × Player :=
  match p.begin npcId npcName with
  | (.error fault, p) => (.error fault, p.close)
  | (.ok false, p) => (.ok false, p.close)
  | (.ok true, p) => match p.playOn inputs with
    | (.error fault, p) => (.error fault, p.close)
    | (.ok (), p) =>
      let (r, p) := p.showInventory
      (r.map fun _ => true, p.close)

end Player
end Parley.Terminal
