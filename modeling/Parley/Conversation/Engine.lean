import Parley.Bus
import Parley.Catalogue
import Parley.Conversation.Session
import Parley.Conversation.View
import Parley.Inventory.Grant
import Parley.Settings

/-!
# The conversation engine

The engine runs at most one conversation at a time. It starts on an interaction, shows one line
after another, splices in what a selected choice leads to, and gives the items that wait at the end.
Everything that it does to others is recorded as an event.

A start is in two parts: `Engine.begin` passes the guard or not, `Engine.finish` goes on once the
document is there. Between the two others may act.
-/

namespace Parley

inductive Listener where
  /-- The engine itself. -/
  | manager
  /-- One who notes every inventory. -/
  | recorder
  /-- One who answers an inventory with a newer one. -/
  | relay (news : Snapshot)
deriving Repr

namespace Listener

/-- Only the engine's own subscriptions are ever taken away. -/
def isManager : Listener → Bool
  | .manager => true
  | _ => false

end Listener

/-- What the engine does to others, as they see it. -/
inductive Event where
  | view (call : ViewCall)
  | write (slots : List Slot)
  | broadcast (inventory : Option Snapshot)
deriving Repr

/-- What the engine asks of a translator: the message of a key, or what stands for it, as a value or
as a text. -/
class Translation (τ : Type) where
  translate : τ → Json → Json → Except Fault Json
  translateText : τ → Json → String → Except Fault String

instance : Translation Translator := ⟨Translator.translate, Translator.translateText⟩

structure Surroundings (τ : Type) where
  document : String → Except Fault (Option Document)
  translator : τ
  positions : Option Positions
  settings : Settings
  supply : Supply
  viewFault : ViewCall → Option Fault

abbrev World := Surroundings Translator

structure Engine where
  session : Session
  starting : Bool
  stock : Stock
  bus : Bus Topic Listener
  /-- How many documents were asked for. -/
  requests : Nat
  events : List Event

/-- A step of the engine: its outcome and the state after it. A step that fails keeps what it did
before. -/
def Play (α : Type) : Type := Engine → Except Fault α × Engine

namespace Play

instance : Monad Play where
  pure a e := (.ok a, e)
  bind x f e := match x e with
    | (.ok a, e) => f a e
    | (.error fault, e) => (.error fault, e)

def lift (r : Except Fault α) : Play α := fun e => (r, e)

def get : Play Engine := fun e => (.ok e, e)

def modify (f : Engine → Engine) : Play Unit := fun e => (.ok (), f e)

/-- Runs a step and then another, whatever the outcome of the first; a fault of the second wins. -/
def followedBy (x : Play α) (after : Play Unit) : Play α := fun e =>
  match x e with
  | (r, e) => match after e with
    | (.error fault, e) => (.error fault, e)
    | (.ok (), e) => (r, e)

@[simp] theorem pure_apply (a : α) (e : Engine) : (pure a : Play α) e = (.ok a, e) := rfl

@[simp] theorem lift_apply (r : Except Fault α) (e : Engine) : lift r e = (r, e) := rfl

@[simp] theorem get_apply (e : Engine) : get e = (.ok e, e) := rfl

@[simp] theorem modify_apply (f : Engine → Engine) (e : Engine) : modify f e = (.ok (), f e) := rfl

theorem bind_apply (x : Play α) (f : α → Play β) (e : Engine) :
    (x >>= f) e = match x e with
      | (.ok a, e) => f a e
      | (.error fault, e) => (.error fault, e) := rfl

end Play

namespace Engine

variable {τ : Type}

/-- An engine over an inventory service, listening to both topics. -/
def start (service : Service) : Engine where
  session := .idle
  starting := false
  stock := .ofService service
  bus := (Bus.empty.subscribe .interaction .manager).subscribe .inventory .manager
  requests := 0
  events := []

def record (event : Event) (e : Engine) : Engine := { e with events := e.events ++ [event] }

def addListener (l : Listener) (e : Engine) : Engine :=
  { e with bus := e.bus.subscribe .inventory l }

/-- Takes the engine's own subscriptions away. -/
def destroy (e : Engine) : Engine :=
  { e with bus := ⟨e.bus.registrations.filter fun r => !r.2.isManager⟩ }

/-- Calls the view, which may fail after the call is recorded. -/
def call (w : Surroundings τ) (c : ViewCall) : Play Unit := fun e =>
  let e := e.record (.view c)
  match w.viewFault c with
  | some fault => (.error fault, e)
  | none => (.ok (), e)

/-- A listener takes an inventory, without answering it. -/
def receive (inventory : Option Snapshot) (l : Listener) (e : Engine) : Except Fault Unit × Engine :=
  match l with
  | .manager => (.ok (), { e with stock := e.stock.replace inventory })
  | .recorder => (.ok (), e.record (.broadcast inventory))
  | .relay _ => (.ok (), e)

/-- A listener takes an inventory; a relay publishes its news, which no relay answers. -/
def hear (inventory : Option Snapshot) (l : Listener) (e : Engine) : Except Fault Unit × Engine :=
  match l with
  | .relay news => (.ok (), Bus.publish Engine.bus (receive (some news)) .inventory e)
  | l => receive inventory l e

def publishInventory (inventory : Option Snapshot) (e : Engine) : Engine :=
  Bus.publish Engine.bus (hear inventory) .inventory e

/-- Grants happen on the engine's stock, and inventories go over the bus. -/
def site : GrantSite Engine where
  stock := Engine.stock
  setStock e stock := { e with stock }
  notify event e := match event with
    | .broadcast inventory => e.publishInventory (some inventory)
    | .write slots => e.record (.write slots)

def executeActions (supply : Supply) (actions : List Action) : Play Unit :=
  site.execute supply actions

/-- The position of the session's character, if it is known. -/
def npcPosition (w : Surroundings τ) (s : Session) : Option Position := do
  let positions ← w.positions
  let id ← s.npcId
  if id == "" then none else positions.npcs.lookup id

/-- Where the view looks: between the player and the character if both are placed. -/
def focus (w : Surroundings τ) (s : Session) : Except Fault (Option Position) :=
  match w.positions with
  | none => .ok none
  | some positions => match positions.player, npcPosition w s with
    | some player, some npc => (player.between npc).map some
    | player, npc => .ok (npc <|> player)

/-- Whether a start passes the guard; then a document is asked for. -/
def begin (e : Engine) : Bool × Engine :=
  if e.session.active || e.starting then (false, e)
  else (true, { e with starting := true, requests := e.requests + 1 })

/-- Opens a session on a character's document, if it has one that resolves to lines. -/
def openSession (w : Surroundings τ) (npcId : String) (npcName : Json) : Play Bool := fun e =>
  match w.document npcId with
  | .error fault => (.error fault, e)
  | .ok none => (.ok false, e)
  | .ok (some d) =>
    let (r, stock) := d.resolve w.supply e.stock
    let e := { e with stock }
    if r.lines.isEmpty then (.ok false, e)
    else (.ok true, { e with session := Session.opened npcId npcName r })

def teardown (w : Surroundings τ) : Play Unit := do
  call w .exit
  call w (.cooldown w.settings.interactionCooldown)
  Play.modify fun e => { e with session := .idle }

/-- Ends the conversation after its last line: the actions are executed, and whatever their outcome
the session is torn down. -/
def conclude (execute : List Action → Play Unit) (w : Surroundings τ) (actions : List Action) :
    Play Unit := do
  call w .endCue
  Play.followedBy (execute actions) (teardown w)

variable [Translation τ]

def localize (w : Surroundings τ) (key : Json) (text : String) : Except Fault String :=
  if key.truthy then Translation.translateText w.translator key text else .ok text

/-- The name of the session's character: as given at the start, else as its position has it, else
that of an unknown speaker; a message for the character goes before all of these. -/
def npcName (w : Surroundings τ) (s : Session) : Except Fault Json := do
  let placed := match npcPosition w s with
    | some p => p.name
    | none => .null
  let given := s.npcName.orElse placed
  let unknown := w.settings.unknownSpeakerName
  let name ← if given.truthy then .ok given
    else Translation.translate w.translator (.str "dialogue.unknownSpeaker") unknown
  match s.npcId with
  | some id =>
    if id == "" then return name
    else Translation.translate w.translator (.str ("npc." ++ id ++ ".name")) name
  | none => return name

def isNpc (speaker : Json) : Bool :=
  match speaker with
  | .str "npc" => true
  | _ => false

def speakerName (w : Surroundings τ) (s : Session) (line : Line) : Except Fault Json := do
  let usual ← if isNpc line.speaker then npcName w s
    else Translation.translate w.translator (.str "dialogue.playerName") w.settings.playerName
  let name := line.name.orElse usual
  if line.nameKey.truthy then Translation.translate w.translator line.nameKey name else return name

def renderOptions (w : Surroundings τ) : List Choice → Except Fault (List RenderOption)
  | [] => .ok []
  | c :: rest => do
    let text ← localize w c.textKey c.text
    let others ← renderOptions w rest
    return ⟨c.id, text⟩ :: others

def renderLine (w : Surroundings τ) (s : Session) (line : Line) : Except Fault RenderLine := do
  let options ← match line.options with
    | some cs => (renderOptions w cs).map some
    | none => .ok none
  let name ← speakerName w s line
  let text ← localize w line.textKey line.text
  return {
    speaker := line.speaker
    name
    text
    emotion := line.emotion.orElse w.settings.defaultEmotion
    npcId := if isNpc line.speaker then s.npcId else none
    options
    hideSpeakerVisuals := line.effectiveHide }

/-- Shows the current line, with a cue unless it is the first of the conversation. -/
def renderCurrent (w : Surroundings τ) : Play Unit := do
  let e ← Play.get
  match e.session.current? with
  | none => return ()
  | some line => do
    let shown ← Play.lift (renderLine w e.session line)
    if e.session.shown then call w .advanceCue
    Play.modify fun e => { e with session := { e.session with shown := true } }
    call w (.render shown)

/-- Brings an opened session on screen. -/
def present (w : Surroundings τ) : Play Unit := do
  let e ← Play.get
  let point ← Play.lift (focus w e.session)
  call w (.enter point)
  renderCurrent w

/-- What follows a start that passed the guard. -/
def finish (w : Surroundings τ) (npcId : String) (npcName : Json) : Play Unit := do
  let opened ← (openSession w npcId npcName).followedBy
    (Play.modify fun e => { e with starting := false })
  if opened then present w

/-- Starts a conversation, unless one is running or starting. -/
def converse (w : Surroundings τ) (npcId : String) (npcName : Json) : Play Unit := fun e =>
  match e.begin with
  | (false, e) => (.ok (), e)
  | (true, e) => finish w npcId npcName e

/-- Goes on to the next line, or after the last one hands the waiting actions to an executor. -/
def advanceWith (execute : List Action → Play Unit) (w : Surroundings τ) : Play Unit := do
  let e ← Play.get
  if !e.session.active then return ()
  else if e.session.lines.isEmpty then teardown w
  else if !e.session.isLast then
    Play.modify fun e => { e with session := { e.session with index := e.session.index + 1 } }
    renderCurrent w
  else conclude execute w e.session.pending

/-- Goes on to the next line; after the last one the waiting actions are executed on the stock and
the conversation ends. -/
def advance (w : Surroundings τ) : Play Unit := advanceWith (executeActions w.supply) w

/-- Selects a choice of the current line: the line becomes the answer, and what the choice resolves
to follows it. -/
def select (w : Surroundings τ) (id : String) : Play Unit := do
  let e ← Play.get
  if !e.session.active then return ()
  else match e.session.current? with
    | none => return ()
    | some line => match (line.options.getD []).find? (·.id == id) with
      | none => return ()
      | some choice => do
        let text ← Play.lift (localize w choice.textKey choice.text)
        let place := e.session.index.toNat
        Play.modify fun e => { e with session := { e.session with
          lines := e.session.lines.set place (line.answered text) } }
        Play.modify fun e =>
          let (r, stock) := choice.resolve w.supply e.stock
          { e with
            stock
            session := { e.session with
              lines := spliceAfter place (Line.copyList r.lines) e.session.lines
              pending := e.session.pending ++ r.actions } }
        renderCurrent w

def hearInteraction (w : Surroundings τ) (npcId : String) (npcName : Json) (l : Listener)
    (e : Engine) : Except Fault Unit × Engine :=
  match l with
  | .manager => if npcId == "" then (.ok (), e) else converse w npcId npcName e
  | _ => (.ok (), e)

def interact (w : Surroundings τ) (npcId : String) (npcName : Json) (e : Engine) : Engine :=
  Bus.publish Engine.bus (hearInteraction w npcId npcName) .interaction e

/-- Starts several conversations at once: all pass or miss the guard before any goes on. The outcome
is the first fault, if there is one. -/
def converseAll (w : Surroundings τ) (npcs : List String) : Play Unit := fun e =>
  let (begun, e) := npcs.foldl (fun (acc : List String × Engine) id =>
    match acc.2.begin with
    | (true, e) => (acc.1 ++ [id], e)
    | (false, e) => (acc.1, e)) ([], e)
  begun.foldl (fun (acc : Except Fault Unit × Engine) id =>
    match finish w id .null acc.2 with
    | (.error fault, e) => (acc.1.bind fun _ => .error fault, e)
    | (.ok (), e) => (acc.1, e)) (.ok (), e)

end Engine
end Parley
