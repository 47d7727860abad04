import Parley.Proofs.Conversation.Steps

/-!
# Conversations that wait

The operations of an engine wait: for a document, for an inventory that is fetched, for a listener
that takes its time. Here they are tasks that stop at each of these places, hand the engine over to
whatever happens meanwhile, and go on with any answer from the engine as it is then. A task that is
answered at once does what the operation of the engine does.
-/

namespace Parley

inductive Query where
  | document (npcId : String)
  | inventory
  | listener

/-- What may be answered: a document, none or a fault; an inventory, none or a fault; and listeners
come to an end. -/
@[reducible] def Query.Answer : Query → Type
  | .document _ => Except Fault (Option Document)
  | .inventory => Except Fault (Option Snapshot)
  | .listener => Unit

/-- How far a task has come, with the engine as it leaves it there. A task that waits goes on with
any answer, in any surroundings, from any engine. -/
inductive Progress (τ α : Type) where
  | ended (r : Except Fault α) (e : Engine)
  | waits (q : Query) (e : Engine) (resume : q.Answer → Surroundings τ → Engine → Progress τ α)

/-- What is done from an engine until the first wait. -/
def Task (τ α : Type) : Type := Surroundings τ → Engine → Progress τ α

variable {τ α β : Type}

namespace Progress

/-- Goes on with another task after the end, whatever the outcome. -/
def andThen (f : Except Fault α → Task τ β) (w : Surroundings τ) : Progress τ α → Progress τ β
  | .ended r e => f r w e
  | .waits q e resume => .waits q e fun answer w e => andThen f w (resume answer w e)

end Progress

namespace Task

def fail (fault : Fault) : Task τ α := fun _ e => .ended (.error fault) e

instance : Monad (Task τ) where
  pure a _ e := .ended (.ok a) e
  bind t f w e := Progress.andThen (fun r => match r with
    | .ok a => f a
    | .error fault => fail fault) w (t w e)

def play (p : Surroundings τ → Play α) : Task τ α := fun w e => .ended (p w e).1 (p w e).2

def ask (q : Query) : Task τ q.Answer := fun _ e =>
  .waits q e fun answer _ e => .ended (.ok answer) e

/-- Runs a step after a task, whatever its outcome; a fault of the step wins. -/
def followedBy (t : Task τ α) (after : Surroundings τ → Play Unit) : Task τ α := fun w e =>
  Progress.andThen (fun r => play fun w => (Play.lift r).followedBy (after w)) w (t w e)

/-- A task whose faults concern nobody. -/
def settled (t : Task τ Unit) : Task τ Unit := fun w e =>
  Progress.andThen (fun _ => pure ()) w (t w e)

/-- What a fetch brings becomes known, whatever became known meanwhile. A fetch that fails brings
nothing. -/
def learn : Except Fault (Option Snapshot) → Task τ (Option Snapshot)
  | .ok inventory => do
    play fun _ => Play.modify fun e => { e with stock := e.stock.replace inventory }
    return inventory
  | .error _ => return none

/-- The known inventory, fetched first if there is none. -/
def inventory : Task τ (Option Snapshot) := do
  let e ← play fun _ => Play.get
  match e.stock.cache with
  | some inventory => return some inventory
  | none => do
    play fun _ => Play.modify fun e => { e with stock := { e.stock with
      service := { e.stock.service with fetches := e.stock.service.fetches + 1 } } }
    learn (← ask .inventory)

def passes : List Check → Task τ Bool
  | [] => return true
  | c :: rest => do
    if c.passes (← inventory) then passes rest else return false

def firstPassing (checks : α → List Check) : List α → Task τ (Option α)
  | [] => return none
  | a :: rest => do
    if ← passes (checks a) then return some a else firstPassing checks rest

def tell (hear : Listener → Task τ Unit) : List Listener → Task τ Unit
  | [] => return ()
  | l :: rest => do
    settled (hear l)
    tell hear rest

/-- Publishes an inventory event to those who listen now. -/
def publish (hear : Listener → Task τ Unit) : Task τ Unit := do
  let e ← play fun _ => Play.get
  tell hear (e.bus.handlers .inventory)

/-- A listener takes an inventory, without answering it. All but the engine may take their time. -/
def receive (inventory : Option Snapshot) (l : Listener) : Task τ Unit := do
  play fun _ => Engine.receive inventory l
  if l.isManager then return () else ask .listener

/-- A listener takes an inventory; a relay publishes its news. -/
def hear (inventory : Option Snapshot) : Listener → Task τ Unit
  | .relay news => do
    publish (receive (some news))
    ask .listener
  | l => receive inventory l

def publishInventory (inventory : Option Snapshot) : Task τ Unit := publish (hear inventory)

def write (inventory : Snapshot) (slots : List Slot) (w : Surroundings τ) : Play Unit := fun e =>
  match e.stock.write w.supply slots with
  | (.error fault, stock) => (.error fault, { e with stock })
  | (.ok (), stock) => (.ok (), { ({ e with stock } : Engine).record (.write slots) with
      stock := stock.replace (some (inventory.withSlots slots)) })

def store (inventory : Snapshot) (slots : List Slot) : Task τ Unit := do
  play (write inventory slots)
  publishInventory (some (inventory.withSlots slots))

/-- Gives an item. The result tells whether a slot was filled. -/
def give (item : String) (amount : Option Number) (ifMissing : Bool) : Task τ Bool := do
  match ← inventory with
  | none => return false
  | some inventory => do
    publishInventory (some inventory)
    if ifMissing && inventory.holdsInSlot item then return false
    else if !inventory.slots.any Slot.isEmpty then return false
    else match grantAmount amount with
      | .error fault => fail fault
      | .ok count => match fillFirstEmpty item count inventory.slots with
        | none => return false
        | some slots => do
          store inventory slots
          return true

def execute : List Action → Task τ Unit
  | [] => return ()
  | .unknown .. :: rest => execute rest
  | .giveItem item amount ifMissing :: rest => do
    let _ ← give item amount ifMissing
    execute rest

def openSession (npcId : String) (npcName : Json) :
    Except Fault (Option Document) → Task τ Bool
  | .error fault => fail fault
  | .ok none => return false
  | .ok (some d) => do
    let fork ← firstPassing Fork.checks (d.forks.getD [])
    let r := Resolution.ofFork d fork
    if r.lines.isEmpty then return false
    else do
      play fun _ => Play.modify fun e => { e with session := Session.opened npcId npcName r }
      return true

/-- Ends the conversation after its last line. -/
def conclude (actions : List Action) : Task τ Unit := do
  play fun w => Engine.call w .endCue
  (execute actions).followedBy Engine.teardown

variable [Translation τ]

/-- What follows a start that passed the guard, with the answer to its request. -/
def finish (npcId : String) (npcName : Json) (answer : Except Fault (Option Document)) :
    Task τ Unit := do
  let opened ← (openSession npcId npcName answer).followedBy fun _ =>
    Play.modify fun e => { e with starting := false }
  if opened then play Engine.present else return ()

def begin : Play Bool := fun e => (.ok e.begin.1, e.begin.2)

/-- Starts a conversation, unless one is running or starting. -/
def converse (npcId : String) (npcName : Json) : Task τ Unit := do
  if ← play fun _ => begin then finish npcId npcName (← ask (.document npcId)) else return ()

def forward (w : Surroundings τ) : Play Unit := do
  Play.modify Engine.next
  Engine.renderCurrent w

/-- Goes on to the next line; after the last one the waiting actions are executed and the
conversation ends. -/
def advance : Task τ Unit := do
  let e ← play fun _ => Play.get
  if !e.session.active then return ()
  else if e.session.lines.isEmpty then play Engine.teardown
  else if !e.session.isLast then play forward
  else conclude e.session.pending

/-- Puts a choice in the place of the line that offers it. -/
def take (line : Line) (choice : Choice) (w : Surroundings τ) : Play Unit := do
  let text ← Play.lift (Engine.localize w choice.textKey choice.text)
  Play.modify fun e => { e with session := { e.session with
    lines := e.session.lines.set e.session.index.toNat (line.answered text) } }

def follow (r : Resolution) (w : Surroundings τ) : Play Unit := do
  Play.modify fun e => { e with session := { e.session with
    lines := spliceAfter e.session.index.toNat (Line.copyList r.lines) e.session.lines
    pending := e.session.pending ++ r.actions } }
  Engine.renderCurrent w

def select (id : String) : Task τ Unit := do
  let e ← play fun _ => Play.get
  match e.offered id with
  | none => return ()
  | some (line, choice) => do
    play (take line choice)
    let branch ← firstPassing Branch.checks (choice.branches.getD [])
    play (follow (Resolution.ofBranch choice branch))

variable (w : Surroundings τ) (e : Engine)

theorem converse_apply (npcId : String) (npcName : Json) :
    converse npcId npcName w e =
      (if e.begin.1 then ask (.document npcId) >>= finish npcId npcName else pure () : Task τ Unit)
        w e.begin.2 := rfl

theorem advance_apply :
    advance w e = (if !e.session.active then pure ()
      else if e.session.lines.isEmpty then play Engine.teardown
      else if !e.session.isLast then play forward
      else conclude e.session.pending : Task τ Unit) w e := rfl

theorem select_apply (id : String) :
    select id w e = (match e.offered id with
      | none => pure ()
      | some (line, choice) => do
        play (take line choice)
        let branch ← firstPassing Branch.checks (choice.branches.getD [])
        play (follow (Resolution.ofBranch choice branch)) : Task τ Unit) w e := rfl

end Task

/-- What the surroundings answer while nothing else happens. -/
def Query.answer (w : Surroundings τ) (e : Engine) : (q : Query) → q.Answer
  | .document npcId => w.document npcId
  | .inventory => match w.supply.fetch (e.stock.service.fetches - 1) with
    | .stored => .ok (some e.stock.service.stored)
    | .nothing => .ok none
    | .failure => .error .repositoryDown
  | .listener => ()

/-- A task that is answered at once wherever it waits. -/
def Progress.serve (w : Surroundings τ) : Progress τ α → Except Fault α × Engine
  | .ended r e => (r, e)
  | .waits q e resume => (resume (q.answer w e) w e).serve w

def Task.serve (t : Task τ α) (w : Surroundings τ) : Play α := fun e => (t w e).serve w

theorem Progress.serve_andThen (f : Except Fault α → Task τ β) (w : Surroundings τ)
    (p : Progress τ α) :
    (p.andThen f w).serve w = (f (p.serve w).1).serve w (p.serve w).2 := by
  induction p with
  | ended r e => rfl
  | waits q e resume ih => exact ih (q.answer w e) w e

namespace Task

variable (w : Surroundings τ)

@[simp] theorem serve_pure (a : α) : (pure a : Task τ α).serve w = pure a := rfl

@[simp] theorem serve_fail (fault : Fault) :
    (fail fault : Task τ α).serve w = Play.lift (.error fault) := rfl

@[simp] theorem serve_play (p : Surroundings τ → Play α) : (play p).serve w = p w := rfl

@[simp] theorem serve_bind (t : Task τ α) (f : α → Task τ β) :
    (t >>= f).serve w = t.serve w >>= fun a => (f a).serve w := by
  funext e
  refine (Progress.serve_andThen _ w (t w e)).trans ?_
  rw [Play.bind_apply]
  unfold serve
  generalize (t w e).serve w = r
  obtain ⟨_ | _, _⟩ := r <;> rfl

@[simp] theorem serve_followedBy (t : Task τ α) (after : Surroundings τ → Play Unit) :
    (t.followedBy after).serve w = (t.serve w).followedBy (after w) := by
  funext e
  refine (Progress.serve_andThen _ w (t w e)).trans ?_
  rfl

theorem serve_settled (t : Task τ Unit) (e : Engine) :
    t.settled.serve w e = (.ok (), (t.serve w e).2) :=
  Progress.serve_andThen _ w (t w e)

theorem serve_inventory (e : Engine) :
    (inventory : Task τ _).serve w e =
      (.ok (e.stock.get w.supply).1, { e with stock := (e.stock.get w.supply).2 }) := by
  obtain ⟨session, starting, ⟨service, cache⟩, bus, requests, events⟩ := e
  cases cache with
  | some inventory => rfl
  | none =>
    have hlearn : (inventory : Task τ _).serve w
        ⟨session, starting, ⟨service, none⟩, bus, requests, events⟩ =
      (learn (Query.answer w ⟨session, starting, ⟨{ service with fetches := service.fetches + 1 },
        none⟩, bus, requests, events⟩ .inventory)).serve w ⟨session, starting,
          ⟨{ service with fetches := service.fetches + 1 }, none⟩, bus, requests, events⟩ := rfl
    rw [hlearn, Query.answer, Stock.get]
    simp only [Nat.add_sub_cancel]
    cases w.supply.fetch service.fetches <;> rfl

theorem serve_passes (checks : List Check) (e : Engine) :
    (passes checks : Task τ _).serve w e = (.ok (Resolution.passes w.supply checks e.stock).1,
      { e with stock := (Resolution.passes w.supply checks e.stock).2 }) := by
  induction checks generalizing e with
  | nil => rfl
  | cons c rest ih =>
    simp only [passes, serve_bind, Play.bind_apply, serve_inventory, Resolution.passes]
    split
    · rw [ih]
    · rfl

theorem serve_firstPassing (checks : α → List Check) (as : List α) (e : Engine) :
    (firstPassing checks as : Task τ _).serve w e =
      (.ok (Resolution.firstPassing w.supply checks as e.stock).1,
        { e with stock := (Resolution.firstPassing w.supply checks as e.stock).2 }) := by
  induction as generalizing e with
  | nil => rfl
  | cons a rest ih =>
    simp only [firstPassing, serve_bind, Play.bind_apply, serve_passes, Resolution.firstPassing]
    generalize Resolution.passes w.supply (checks a) e.stock = found
    obtain ⟨_ | _, stock⟩ := found
    · exact ih { e with stock }
    · rfl

theorem serve_tell {hear : Listener → Task τ Unit}
    {heard : Listener → Engine → Except Fault Unit × Engine}
    (h : ∀ l e, ((hear l).serve w e).2 = (heard l e).2) (ls : List Listener) (e : Engine) :
    (tell hear ls).serve w e = (.ok (), Bus.dispatch heard ls e) := by
  induction ls generalizing e with
  | nil => rfl
  | cons l rest ih =>
    rw [tell, serve_bind, Play.bind_apply, serve_settled]
    dsimp only
    rw [ih, h]
    rfl

theorem serve_publish {hear : Listener → Task τ Unit}
    {heard : Listener → Engine → Except Fault Unit × Engine}
    (h : ∀ l e, ((hear l).serve w e).2 = (heard l e).2) (e : Engine) :
    (publish hear).serve w e = (.ok (), Bus.publish Engine.bus heard .inventory e) := by
  rw [publish, serve_bind, serve_play, Play.bind_apply]
  exact serve_tell w h _ e

theorem serve_receive (news : Option Snapshot) (l : Listener) (e : Engine) :
    ((receive news l : Task τ _).serve w e).2 = (Engine.receive news l e).2 := by
  cases l <;> rfl

theorem serve_hear (news : Option Snapshot) (l : Listener) (e : Engine) :
    ((hear news l : Task τ _).serve w e).2 = (Engine.hear news l e).2 := by
  cases l with
  | relay later =>
    rw [hear, serve_bind, Play.bind_apply, serve_publish w (serve_receive w (some later))]
    rfl
  | manager => exact serve_receive w news .manager e
  | recorder => exact serve_receive w news .recorder e

theorem serve_publishInventory (news : Option Snapshot) (e : Engine) :
    (publishInventory news : Task τ _).serve w e = (.ok (), e.publishInventory news) :=
  serve_publish w (serve_hear w news) e

theorem serve_store (inventory : Snapshot) (slots : List Slot) :
    (store inventory slots : Task τ _).serve w = write inventory slots w >>= fun _ =>
      Play.modify (Engine.publishInventory (some (inventory.withSlots slots))) := by
  rw [store, serve_bind, serve_play]
  congr 1
  funext _ e
  exact serve_publishInventory w _ e

theorem serve_give (item : String) (amount : Option Number) (ifMissing : Bool) (e : Engine) :
    (give item amount ifMissing : Task τ _).serve w e =
      Engine.site.give w.supply item amount ifMissing e := by
  rw [give, serve_bind, Play.bind_apply, serve_inventory]
  unfold GrantSite.give
  simp only [Engine.site]
  cases (e.stock.get w.supply).1 with
  | none => rfl
  | some inventory =>
    simp only [serve_bind, Play.bind_apply, serve_publishInventory]
    generalize Engine.publishInventory (some inventory) _ = told
    split
    · rfl
    split
    · rfl
    cases grantAmount amount with
    | error fault => rfl
    | ok count =>
      dsimp only
      cases fillFirstEmpty item count inventory.slots with
      | none => rfl
      | some slots =>
        dsimp only
        rw [serve_bind, serve_store, Play.bind_apply, Play.bind_apply, write]
        cases told.stock.write w.supply slots with
        | mk r stock => cases r <;> rfl

theorem serve_execute (actions : List Action) :
    (execute actions : Task τ _).serve w = Engine.executeActions w.supply actions := by
  unfold Engine.executeActions
  induction actions with
  | nil => rfl
  | cons action rest ih =>
    cases action with
    | unknown type source => exact ih
    | giveItem item amount ifMissing =>
      funext e
      rw [execute, serve_bind, Play.bind_apply, serve_give, GrantSite.execute]
      cases Engine.site.give w.supply item amount ifMissing e with
      | mk r given =>
        cases r with
        | error fault => rfl
        | ok filled => exact congrFun ih given

theorem serve_openSession (npcId : String) (npcName : Json) :
    (openSession npcId npcName (w.document npcId)).serve w =
      Engine.openSession w npcId npcName := by
  funext e
  unfold Engine.openSession
  cases w.document npcId with
  | error fault => rfl
  | ok document =>
    cases document with
    | none => rfl
    | some d =>
      dsimp only
      rw [openSession, serve_bind, Play.bind_apply, serve_firstPassing]
      unfold Document.resolve
      dsimp only
      split <;> rfl

variable [Translation τ]

theorem serve_finish (npcId : String) (npcName : Json) :
    (finish npcId npcName (w.document npcId)).serve w = Engine.finish w npcId npcName := by
  rw [finish, serve_bind, serve_followedBy, serve_openSession]
  unfold Engine.finish
  congr 1
  funext opened
  cases opened <;> rfl

theorem serve_converse (npcId : String) (npcName : Json) :
    (converse npcId npcName : Task τ _).serve w = Engine.converse w npcId npcName := by
  funext e
  rw [converse, serve_bind, Play.bind_apply, serve_play]
  unfold Engine.converse begin
  obtain ⟨passed, begun⟩ := e.begin
  cases passed with
  | false => rfl
  | true => exact congrFun (serve_finish w npcId npcName) begun

theorem serve_advance : (advance : Task τ _).serve w = Engine.advance w := by
  funext e
  rw [advance, serve_bind, Play.bind_apply, Engine.advance, Engine.advanceWith, Play.bind_apply]
  simp only [serve_play, Play.get_apply]
  split
  · rfl
  split
  · rfl
  split
  · rfl
  simp only [conclude, serve_bind, serve_play, serve_followedBy, serve_execute, Engine.conclude]

theorem serve_select (id : String) : (select id : Task τ _).serve w = Engine.select w id := by
  funext e
  rw [select, serve_bind, Play.bind_apply]
  simp only [serve_play, Play.get_apply]
  cases hoffered : e.offered id with
  | none =>
    rw [Engine.select_of_not_offered hoffered]
    rfl
  | some p =>
    obtain ⟨line, choice⟩ := p
    rw [Engine.select_of_offered hoffered]
    simp only [serve_bind, serve_play, Play.bind_apply, Play.lift_apply, take]
    cases Engine.localize w choice.textKey choice.text with
    | error fault => rfl
    | ok text =>
      simp only [Play.modify_apply, serve_firstPassing, follow, Play.bind_apply, Engine.answered,
        Choice.resolve, Line.copyList_eq]

end Task

end Parley
