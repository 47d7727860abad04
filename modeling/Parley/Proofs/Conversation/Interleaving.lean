import Parley.Proofs.Conversation.Protocol
import Parley.Proofs.Conversation.Segments

/-!
# Starts that overlap

Any number of starts and one stream of turns share an engine: each goes on until it waits, and while
it waits the others go on, in any order and with any answers. At every moment the engine is quiet,
or one start waits, or one turn of a running conversation does; all else that is started is dropped.
-/

namespace Parley

variable {τ : Type}

/-- A start or a turn that waits. -/
structure Waiting (τ : Type) where
  query : Query
  resume : query.Answer → Surroundings τ → Engine → Progress τ Unit

/-- Something to say to whatever is asked. -/
abbrev Answers : Type := (q : Query) → q.Answer

/-- What may happen while others wait. -/
inductive Happening where
  | start (npcId : String) (npcName : Json)
  /-- The conversation goes on, unless its last turn still waits. -/
  | advance
  | select (id : String)
  /-- One of the starts that wait is answered. -/
  | answerStart (i : Nat) (answers : Answers)
  /-- The turn that waits is answered. -/
  | answerTurn (answers : Answers)
  /-- Others leave the inventory and the listeners as they please. -/
  | aside (stock : Stock) (bus : Bus Topic Listener)

def Happening.isOfStart : Happening → Bool
  | .start .. => true
  | .answerStart .. => true
  | _ => false

/-- An engine with the starts that wait, in the order in which they were made, and the turn that
waits. -/
structure Scene (τ : Type) where
  engine : Engine
  starts : List (Waiting τ)
  turn : Option (Waiting τ)

namespace Waiting

def answered (t : Waiting τ) (answers : Answers) : Task τ Unit := t.resume (answers t.query)

def fetches (t : Waiting τ) : Bool :=
  match t.query with
  | .inventory => true
  | _ => false

end Waiting

namespace Progress

variable {α : Type}

def engine : Progress τ α → Engine
  | .ended _ e => e
  | .waits _ e _ => e

def waiting? : Progress τ Unit → Option (Waiting τ)
  | .ended .. => none
  | .waits q _ resume => some ⟨q, resume⟩

end Progress

namespace Scene

def quiet (e : Engine) : Scene τ := ⟨e, [], none⟩

def waiting (s : Scene τ) : List (Waiting τ) := s.starts ++ s.turn.toList

/-- A start has come so far, between those made before it and those made after it. -/
def started (before after : List (Waiting τ)) (p : Progress τ Unit) (s : Scene τ) : Scene τ :=
  { s with engine := p.engine, starts := before ++ p.waiting?.toList ++ after }

def turned (p : Progress τ Unit) (s : Scene τ) : Scene τ :=
  { s with engine := p.engine, turn := p.waiting? }

def turnBy (w : Surroundings τ) (t : Task τ Unit) (s : Scene τ) : Scene τ :=
  match s.turn with
  | none => s.turned (t w s.engine)
  | some _ => s

variable [Translation τ]

def happen (w : Surroundings τ) (s : Scene τ) : Happening → Scene τ
  | .start npcId npcName => s.started s.starts [] (Task.converse npcId npcName w s.engine)
  | .advance => s.turnBy w Task.advance
  | .select id => s.turnBy w (Task.select id)
  | .answerStart i answers => match s.starts[i]? with
    | none => s
    | some t => s.started (s.starts.take i) (s.starts.drop (i + 1)) (t.answered answers w s.engine)
  | .answerTurn answers => match s.turn with
    | none => s
    | some t => s.turned (t.answered answers w s.engine)
  | .aside stock bus => { s with engine := { s.engine with stock, bus } }

/-- The scene after all that happened, each in its surroundings. -/
def run (steps : List (Surroundings τ × Happening)) (s : Scene τ) : Scene τ :=
  steps.foldl (fun s step => s.happen step.1 step.2) s

/-- How many steps change the engine in a certain way. -/
def tally (p : Surroundings τ → Engine → Engine → Bool) :
    List (Surroundings τ × Happening) → Scene τ → Nat
  | [], _ => 0
  | (w, c) :: rest, s =>
    (p w s.engine (s.happen w c).engine).toNat + tally p rest (s.happen w c)

end Scene

namespace Engine

def opens (e e' : Engine) : Bool := !e.session.active && e'.session.active

/-- A session has become active that the view cannot be told where to look at. -/
def opensBlindly (w : Surroundings τ) (e e' : Engine) : Bool := e.opens e' && !sees w e'.session

end Engine

namespace Engine

/-- The view enters what opens, unless it opens blindly, and leaves whatever ends. -/
structure Moves (w : Surroundings τ) (e e' : Engine) : Prop where
  enters : e'.enters + (opensBlindly w e e').toNat = e.enters + (e.opens e').toNat
  ends : e.session.active.toNat + e.exits + (e.opens e').toNat ≤
    e'.session.active.toNat + e'.exits

variable {w : Surroundings τ} {e e' : Engine}

theorem Moves.of_not_begun (henters : e'.enters = e.enters)
    (hbegins : e'.session.active = true → e.session.active = true)
    (hends : e.session.active.toNat + e.exits ≤ e'.session.active.toNat + e'.exits) :
    Moves w e e' := by
  have hopens : e.opens e' = false := by
    unfold opens
    cases hactive : e'.session.active with
    | true => rw [hbegins hactive]; rfl
    | false => exact Bool.and_false _
  refine ⟨?_, ?_⟩
  · rw [opensBlindly, hopens, henters]
    rfl
  · rw [hopens]
    exact hends

theorem Continues.moves (h : Continues e e') : Moves w e e' :=
  .of_not_begun h.enters h.begins h.ends

theorem Settles.moves (hactive : e.session.active = false) (h : Settles w e e') :
    Moves w e e' := by
  have hopens : e.opens e' = e'.session.active := by rw [opens, hactive]; rfl
  refine ⟨?_, ?_⟩
  · rw [opensBlindly, hopens, h.enters]
    cases e'.session.active <;> cases sees w e'.session <;> rfl
  · rw [hopens, hactive, h.exits]
    simp only [Bool.toNat_false]
    omega

end Engine

namespace Task

variable {w : Surroundings τ} {e : Engine} {npcId : String} {npcName : Json} [Translation τ]

theorem converse_of_busy (h : e.session.active = true ∨ e.starting = true) :
    converse npcId npcName w e = .ended (.ok ()) e := by
  rw [converse_apply, Engine.begin_of_busy h]
  rfl

theorem converse_of_free (hactive : e.session.active = false) (hstarting : e.starting = false) :
    converse npcId npcName w e =
      .waits (.document npcId) e.begun (finish npcId npcName) := by
  rw [converse_apply, Engine.begin_of_free hactive hstarting]
  rfl

theorem advance_of_idle (h : e.session.active = false) : advance w e = .ended (.ok ()) e := by
  rw [advance_apply, h]
  rfl

theorem select_of_idle {id : String} (h : e.session.active = false) :
    select id w e = .ended (.ok ()) e := by
  have hoffered : e.offered id = none := by
    simp [Engine.offered, h]
  rw [select_apply, hoffered]
  rfl

end Task

namespace Waiting

/-- The start, wherever it goes on while it is alone, waits behind the stage and settles. -/
def Prepares (t : Waiting τ) : Prop := ∀ answer w e, Task.Preparing e →
  (t.resume answer w e).Obeys Task.Preparing (fun w e₀ _ e => e₀.Settles w e) w e

/-- The turn, wherever it goes on in a running conversation, waits behind the stage and at most ends
the conversation. -/
def Proceeds (t : Waiting τ) : Prop := ∀ answer w e, Task.Running e →
  (t.resume answer w e).Obeys Task.Running (fun _ e₀ _ e => e₀.Continues e) w e

end Waiting

namespace Scene

/-- All that a scene may be: the engine is quiet, or one start waits, or one turn does. -/
inductive Shape : Scene τ → Prop
  | quiet {e : Engine} (starting : e.starting = false) : Shape ⟨e, [], none⟩
  | starting {e : Engine} {t : Waiting τ} (preparing : Task.Preparing e) (prepares : t.Prepares) :
    Shape ⟨e, [t], none⟩
  | turning {e : Engine} {t : Waiting τ} (running : Task.Running e) (proceeds : t.Proceeds) :
    Shape ⟨e, [], some t⟩

variable {w : Surroundings τ} {e : Engine} {p : Progress τ Unit}

/-- However far a start comes, it waits alone or has settled. -/
theorem shape_started (he : Task.Preparing e)
    (hp : p.Obeys Task.Preparing (fun w e₀ _ e => e₀.Settles w e) w e) :
    Shape ⟨p.engine, p.waiting?.toList, none⟩ ∧ e.Moves w p.engine := by
  cases p with
  | ended r e' => exact ⟨.quiet hp.starting, hp.moves he.active⟩
  | waits q e' resume =>
    have hpreparing : Task.Preparing e' :=
      ⟨hp.1.starting.trans he.starting, hp.1.active.trans he.active⟩
    exact ⟨.starting hpreparing fun answer w e h => hp.2 answer w e h, hp.1.continues.moves⟩

/-- However far a turn comes, it waits in the running conversation or is over. -/
theorem shape_turned (he : Task.Running e)
    (hp : p.Obeys Task.Running (fun _ e₀ _ e => e₀.Continues e) w e) :
    Shape ⟨p.engine, [], p.waiting?⟩ ∧ e.Moves w p.engine := by
  cases p with
  | ended r e' => exact ⟨.quiet (hp.starting.trans he.starting), hp.moves⟩
  | waits q e' resume =>
    have hrunning : Task.Running e' :=
      ⟨hp.1.starting.trans he.starting, hp.1.active.trans he.active⟩
    exact ⟨.turning hrunning fun answer w e h => hp.2 answer w e h, hp.1.continues.moves⟩

theorem Shape.stays {s : Scene τ} (h : s.Shape) (w : Surroundings τ) :
    s.Shape ∧ s.engine.Moves w s.engine :=
  ⟨h, (Engine.Continues.refl s.engine).moves⟩

/-- A turn goes on only in a running conversation, and only if none waits. -/
theorem Shape.turnBy {s : Scene τ} (h : s.Shape) (w : Surroundings τ) {t : Task τ Unit}
    (hrunning : ∀ e, Task.Running e →
      (t w e).Obeys Task.Running (fun _ e₀ _ e => e₀.Continues e) w e)
    (hidle : ∀ e, e.session.active = false → t w e = .ended (.ok ()) e) :
    (s.turnBy w t).Shape ∧ s.engine.Moves w (s.turnBy w t).engine := by
  have hkept {e : Engine} {starts : List (Waiting τ)} (h : e.session.active = false) :
      Scene.turnBy w t ⟨e, starts, none⟩ = ⟨e, starts, none⟩ := by
    simp only [Scene.turnBy, turned, hidle e h]
    rfl
  have hstays := h.stays w
  cases h with
  | @quiet e hstarting =>
    cases hactive : e.session.active with
    | true => exact shape_turned ⟨hstarting, hactive⟩ (hrunning e ⟨hstarting, hactive⟩)
    | false =>
      rw [hkept hactive]
      exact hstays
  | starting hpreparing =>
    rw [hkept hpreparing.active]
    exact hstays
  | turning => exact hstays

variable [Translation τ]

theorem happen_start_of_busy {s : Scene τ}
    (h : s.engine.session.active = true ∨ s.engine.starting = true) (npcId : String)
    (npcName : Json) : s.happen w (.start npcId npcName) = s := by
  simp [happen, Task.converse_of_busy h, started, Progress.engine, Progress.waiting?]

theorem happen_start_of_free (hactive : e.session.active = false) (hstarting : e.starting = false)
    (npcId : String) (npcName : Json) :
    (quiet e).happen w (.start npcId npcName) =
      ⟨e.begun, [⟨.document npcId, Task.finish npcId npcName⟩], none⟩ := by
  simp only [happen, quiet, started, Task.converse_of_free hactive hstarting]
  rfl

theorem Shape.happen_start {s : Scene τ} (h : s.Shape) (w : Surroundings τ) (npcId : String)
    (npcName : Json) :
    (s.happen w (.start npcId npcName)).Shape ∧
      s.engine.Moves w (s.happen w (.start npcId npcName)).engine := by
  by_cases hbusy : s.engine.session.active = true ∨ s.engine.starting = true
  · rw [happen_start_of_busy hbusy]
    exact h.stays w
  · obtain ⟨hactive, hstarting⟩ := not_or.mp hbusy
    rw [Bool.not_eq_true] at hactive hstarting
    cases h with
    | quiet =>
      have hbegun := happen_start_of_free (w := w) hactive hstarting npcId npcName
      rw [Scene.quiet] at hbegun
      rw [hbegun]
      refine ⟨.starting ⟨rfl, hactive⟩ fun answer w e he => ?_, ?_⟩
      · exact Task.obeys_finish npcId npcName answer w he
      · exact .of_not_begun rfl id (Nat.le_refl _)
    | starting hpreparing => exact absurd hpreparing.starting (Bool.eq_false_iff.mp hstarting)
    | turning hrunning => exact absurd hrunning.active (Bool.eq_false_iff.mp hactive)

/-- Whatever happens, at most one start or turn waits afterwards. -/
theorem Shape.happen {s : Scene τ} (h : s.Shape) (w : Surroundings τ) (c : Happening) :
    (s.happen w c).Shape ∧ s.engine.Moves w (s.happen w c).engine := by
  have hstays := h.stays w
  cases c with
  | start npcId npcName => exact h.happen_start w npcId npcName
  | advance =>
    exact h.turnBy w (fun _ => Task.obeys_advance w) fun _ => Task.advance_of_idle
  | select id =>
    exact h.turnBy w (fun _ => Task.obeys_select id w) fun _ => Task.select_of_idle
  | answerStart i answers =>
    cases h with
    | starting hpreparing hprepares =>
      cases i with
      | zero =>
        have hcame := shape_started hpreparing (hprepares (answers _) w _ hpreparing)
        rwa [← List.append_nil (Progress.waiting? _).toList] at hcame
      | succ i => exact hstays
    | quiet => exact hstays
    | turning => exact hstays
  | answerTurn answers =>
    cases h with
    | turning hrunning hproceeds =>
      exact shape_turned hrunning (hproceeds (answers _) w _ hrunning)
    | quiet => exact hstays
    | starting => exact hstays
  | aside stock bus =>
    have hsteady : s.engine.Steady { s.engine with stock, bus } := ⟨rfl, rfl, rfl, rfl⟩
    refine ⟨?_, hsteady.continues.moves⟩
    cases h with
    | quiet hstarting => exact .quiet hstarting
    | starting hpreparing hprepares => exact .starting ⟨hpreparing.1, hpreparing.2⟩ hprepares
    | turning hrunning hproceeds => exact .turning ⟨hrunning.1, hrunning.2⟩ hproceeds

theorem run_cons (w : Surroundings τ) (c : Happening) (rest : List (Surroundings τ × Happening))
    (s : Scene τ) : run ((w, c) :: rest) s = run rest (s.happen w c) := rfl

/-- Starts made at once, in the same surroundings. -/
def starting (w : Surroundings τ) (npcs : List String) : List (Surroundings τ × Happening) :=
  npcs.map fun npcId => (w, .start npcId .null)

theorem run_starting_of_busy {s : Scene τ} (h : s.engine.starting = true)
    (npcs : List String) : s.run (starting w npcs) = s := by
  induction npcs with
  | nil => rfl
  | cons npcId rest ih =>
    rw [starting, List.map_cons, run_cons, happen_start_of_busy (.inr h)]
    exact ih

/-- Of starts made at once on a free engine the first waits alone. -/
theorem run_starting {e : Engine} (hactive : e.session.active = false)
    (hstarting : e.starting = false) (npcId : String) (rest : List String) :
    (quiet e).run (starting w (npcId :: rest)) =
      ⟨e.begun, [⟨.document npcId, Task.finish npcId .null⟩], none⟩ := by
  rw [starting, List.map_cons, run_cons, happen_start_of_free hactive hstarting]
  exact run_starting_of_busy rfl rest

theorem serve_starting {e : Engine} (hactive : e.session.active = false)
    (hstarting : e.starting = false) (npcId : String) (rest : List String) :
    (Task.finish npcId .null (w.document npcId)).serve w e.begun =
      Engine.converseAll w (npcId :: rest) e := by
  rw [Engine.converseAll_of_free hactive hstarting, Task.serve_finish, Engine.converse,
    Engine.begin_of_free hactive hstarting]

/-- Nothing that happens, in whatever order, leads to another shape. -/
theorem Shape.run {s : Scene τ} (h : s.Shape) (steps : List (Surroundings τ × Happening)) :
    (s.run steps).Shape := by
  induction steps generalizing s with
  | nil => exact h
  | cons step rest ih => exact ih (h.happen step.1 step.2).1

/-- Over a run the view has entered once for each session that became active, but for those that
opened blindly. -/
theorem Shape.enters_run {s : Scene τ} (h : s.Shape) (steps : List (Surroundings τ × Happening)) :
    (s.run steps).engine.enters + tally Engine.opensBlindly steps s =
      s.engine.enters + tally (fun _ => Engine.opens) steps s := by
  induction steps generalizing s with
  | nil => rfl
  | cons step rest ih =>
    obtain ⟨w, c⟩ := step
    obtain ⟨hshape, hmoves⟩ := h.happen w c
    have hrest := ih hshape
    have hfirst := hmoves.enters
    simp only [tally, run_cons]
    omega

/-- Over a run sessions that became active were left before others did. -/
theorem Shape.opens_run {s : Scene τ} (h : s.Shape) (steps : List (Surroundings τ × Happening)) :
    s.engine.session.active.toNat + s.engine.exits + tally (fun _ => Engine.opens) steps s ≤
      (s.run steps).engine.session.active.toNat + (s.run steps).engine.exits := by
  induction steps generalizing s with
  | nil => exact Nat.le_refl _
  | cons step rest ih =>
    obtain ⟨w, c⟩ := step
    obtain ⟨hshape, hmoves⟩ := h.happen w c
    have hrest := ih hshape
    have hfirst := hmoves.ends
    simp only [tally, run_cons]
    omega

/-- The engine runs a conversation or starts one, not both; it is starting as long as a start waits;
no two starts wait, and no two inventories are fetched. -/
structure Exclusive (s : Scene τ) : Prop where
  apart : ¬ (s.engine.starting = true ∧ s.engine.session.active = true)
  alone : s.starts.length ≤ 1
  starting : s.engine.starting = true ↔ s.starts ≠ []
  fetches : s.waiting.countP Waiting.fetches ≤ 1

omit [Translation τ] in
theorem Shape.exclusive {s : Scene τ} (h : s.Shape) : s.Exclusive := by
  have hone (t : Waiting τ) : [t].countP Waiting.fetches ≤ 1 := List.countP_le_length
  cases h with
  | quiet hstarting =>
    exact ⟨by simp [hstarting], Nat.zero_le _, by simp [hstarting], Nat.zero_le _⟩
  | starting hpreparing hprepares =>
    exact ⟨by simp [hpreparing.active], Nat.le_refl _, by simp [hpreparing.starting], hone _⟩
  | turning hrunning hproceeds =>
    exact ⟨by simp [hrunning.starting], Nat.zero_le _, by simp [hrunning.starting], hone _⟩

theorem Shape.happen_start_eq_self {s : Scene τ} (h : s.Shape) (npcId : String) (npcName : Json) :
    s.happen w (.start npcId npcName) = s ↔
      s.engine.session.active = true ∨ s.engine.starting = true := by
  constructor
  · intro hkept
    by_contra hfree
    obtain ⟨hactive, hstarting⟩ := not_or.mp hfree
    rw [Bool.not_eq_true] at hactive hstarting
    cases h with
    | quiet =>
      have hbegun := happen_start_of_free (w := w) hactive hstarting npcId npcName
      exact List.cons_ne_nil _ _ (congrArg Scene.starts (hbegun.symm.trans hkept))
    | starting hpreparing => exact Bool.false_ne_true (hstarting.symm.trans hpreparing.starting)
    | turning hrunning => exact Bool.false_ne_true (hactive.symm.trans hrunning.active)
  · exact fun hbusy => happen_start_of_busy hbusy npcId npcName

/-- No start changes anything while a conversation runs. -/
theorem Shape.happen_of_active {s : Scene τ} (h : s.Shape) (w : Surroundings τ) {c : Happening}
    (hc : c.isOfStart = true) (hactive : s.engine.session.active = true) : s.happen w c = s := by
  cases c with
  | start npcId npcName => exact happen_start_of_busy (.inl hactive) npcId npcName
  | answerStart i answers =>
    cases h with
    | quiet hstarting => rfl
    | starting hpreparing => exact absurd hactive (by simp [hpreparing.active])
    | turning hrunning => rfl
  | _ => cases hc

/-- However starts and turns overlap and whatever they are answered, starts exclude each other: a
start is dropped exactly if the engine runs or starts a conversation, and none touches a running
one. As long as the view leaves nothing, at most one session becomes active, and for each that does
the view enters once, unless the session opens blindly. -/
theorem exclusive_of_run {e : Engine} (h : e.Fresh)
    (before : List (Surroundings τ × Happening)) :
    let s := (quiet e).run before
    s.Exclusive ∧
    (∀ w npcId npcName, s.happen w (.start npcId npcName) = s ↔
      s.engine.session.active = true ∨ s.engine.starting = true) ∧
    (∀ w c, c.isOfStart = true → s.engine.session.active = true → s.happen w c = s) ∧
    ∀ steps : List (Surroundings τ × Happening),
      (s.run steps).engine.enters + tally Engine.opensBlindly steps s =
        s.engine.enters + tally (fun _ => Engine.opens) steps s ∧
      ((s.run steps).engine.exits = s.engine.exits →
        tally (fun _ => Engine.opens) steps s ≤ 1) := by
  intro s
  have hshape : s.Shape := (Shape.quiet h.starting).run before
  refine ⟨hshape.exclusive, fun w npcId npcName => hshape.happen_start_eq_self npcId npcName,
    fun w c hc hactive => hshape.happen_of_active w hc hactive, fun steps => ?_⟩
  refine ⟨hshape.enters_run steps, fun hexits => ?_⟩
  have hopens := hshape.opens_run steps
  have hactive := (s.run steps).engine.session.active.toNat_le
  omega

def answers (document : Option Document) (inventory : Except Fault (Option Snapshot)) : Answers
  | .document _ => .ok document
  | .inventory => inventory
  | .listener => ()

def guarded : Document where
  id := "gate"
  lines := some [.said "Halt." none]
  forks := some [⟨[.hasItem "pass" false], [.said "Welcome." none], none⟩]
  actions := some [.giveItem "key" none false]

/-- Again and again someone starts a conversation: while the first start waits for its document and
for the inventory, while the conversation runs, and while its last turn waits for the inventory. -/
def rush : List (World × Happening) :=
  [.start "gate" .null, .start "inn" .null, .answerStart 0 (answers guarded (.ok none)), .advance,
    .start "inn" .null, .answerStart 0 (answers none (.ok none)), .start "inn" .null, .advance,
    .start "inn" .null, .select "more"].map fun c => (.plain guarded, c)

theorem exclusive_of_rush :
    ((quiet Engine.visitor).run rush).Exclusive ∧
      ((quiet Engine.visitor).run rush).waiting.map Waiting.fetches = [true] ∧
      ((quiet Engine.visitor).run rush).engine.viewCalls.map ViewCall.name =
        ["enter", "render", "end_cue"] ∧
      tally (fun _ => Engine.opens) rush (quiet Engine.visitor) = 1 := by
  obtain ⟨hexclusive, -⟩ := exclusive_of_run (Engine.fresh_start _ : Engine.visitor.Fresh) rush
  exact ⟨hexclusive, rfl, rfl, rfl⟩

def visit (w : World) : List (World × Happening) :=
  [(w, .start "gate" .null), (w, .answerStart 0 (answers Engine.gift (.ok none)))]

theorem run_visit (w : World) :
    ((quiet Engine.visitor).run (visit w)).engine = (Engine.present w { Engine.visitor with
      session := .opened "gate" .null ⟨Engine.gift.lines.getD [], Engine.gift.actions.getD []⟩
      requests := 1 }).2 := rfl

theorem tally_visit (w : World) :
    tally (fun _ => Engine.opens) (visit w) (quiet Engine.visitor) =
      (Engine.visitor.opens ((quiet Engine.visitor).run (visit w)).engine).toNat :=
  Nat.zero_add _

/-- At the far gate a session becomes active and the view never enters it. -/
theorem not_entered_farGate :
    tally (fun _ => Engine.opens) (visit Engine.farGate) (quiet Engine.visitor) = 1 ∧
      ((quiet Engine.visitor).run (visit Engine.farGate)).engine.exits = 0 ∧
      ((quiet Engine.visitor).run (visit Engine.farGate)).engine.enters = 0 := by
  rw [tally_visit, run_visit, Engine.present_eq fun _ => rfl, Engine.focus_farGate]
  exact ⟨rfl, rfl, rfl⟩

end Scene
end Parley
