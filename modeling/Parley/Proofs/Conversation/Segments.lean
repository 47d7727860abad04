import Parley.Proofs.Conversation.Keeping
import Parley.Proofs.Conversation.Suspension

/-!
# From one wait to the next

What a conversation does between two waits, whatever others did while it waited: looking at
inventories and giving items happens behind the stage, a start opens a session and enters the view
only in its last stretch, and a turn ends a session only by leaving the view.
-/

namespace Parley

namespace ViewCall

def isEnter : ViewCall → Bool
  | .enter _ => true
  | _ => false

def isExit : ViewCall → Bool
  | .exit => true
  | _ => false

end ViewCall

variable {τ α β : Type}

namespace Engine

def enters (e : Engine) : Nat := e.viewCalls.countP ViewCall.isEnter

/-- How often the view has left a conversation. -/
def exits (e : Engine) : Nat := e.viewCalls.countP ViewCall.isExit

def sees (w : Surroundings τ) (s : Session) : Bool := (focus w s).isOk

/-- No start passed its guard meanwhile, no conversation began, and one ended only if the view left
it. -/
structure Continues (e e' : Engine) : Prop where
  starting : e'.starting = e.starting
  enters : e'.enters = e.enters
  begins : e'.session.active = true → e.session.active = true
  ends : e.session.active.toNat + e.exits ≤ e'.session.active.toNat + e'.exits

theorem Continues.refl (e : Engine) : Continues e e := ⟨rfl, rfl, id, Nat.le_refl _⟩

theorem Continues.trans {e e' e'' : Engine} (h : Continues e e') (h' : Continues e' e'') :
    Continues e e'' :=
  ⟨h'.starting.trans h.starting, h'.enters.trans h.enters, h.begins ∘ h'.begins,
    Nat.le_trans h.ends h'.ends⟩

instance : IsPreorder Engine Continues where
  refl := Continues.refl
  trans _ _ _ := Continues.trans

/-- Besides, the view left nothing, but a conversation may have ended. -/
structure Lapses (e e' : Engine) : Prop where
  starting : e'.starting = e.starting
  enters : e'.enters = e.enters
  exits : e'.exits = e.exits
  begins : e'.session.active = true → e.session.active = true

instance : IsPreorder Engine Lapses where
  refl _ := ⟨rfl, rfl, rfl, id⟩
  trans _ _ _ h h' := ⟨h'.starting.trans h.starting, h'.enters.trans h.enters,
    h'.exits.trans h.exits, h.begins ∘ h'.begins⟩

/-- A conversation runs exactly if one ran, and the view neither entered nor left one. -/
structure Steady (e e' : Engine) : Prop where
  starting : e'.starting = e.starting
  enters : e'.enters = e.enters
  exits : e'.exits = e.exits
  active : e'.session.active = e.session.active

theorem Steady.refl (e : Engine) : Steady e e := ⟨rfl, rfl, rfl, rfl⟩

theorem Steady.trans {e e' e'' : Engine} (h : Steady e e') (h' : Steady e' e'') : Steady e e'' :=
  ⟨h'.starting.trans h.starting, h'.enters.trans h.enters, h'.exits.trans h.exits,
    h'.active.trans h.active⟩

instance : IsPreorder Engine Steady where
  refl := Steady.refl
  trans _ _ _ := Steady.trans

theorem Steady.lapses {e e' : Engine} (h : Steady e e') : Lapses e e' :=
  ⟨h.starting, h.enters, h.exits, fun hactive => h.active ▸ hactive⟩

theorem Steady.continues {e e' : Engine} (h : Steady e e') : Continues e e' :=
  ⟨h.starting, h.enters, fun hactive => h.active ▸ hactive, by simp [h.active, h.exits]⟩

theorem Offstage.steady {e e' : Engine} (h : Offstage e e') : Steady e e' :=
  ⟨h.starting, by rw [enters, h.viewCalls, enters], by rw [exits, h.viewCalls, exits],
    by rw [h.session]⟩

/-- At most, it was noted that a line was shown. -/
structure Glances (e e' : Engine) : Prop extends Steady e e' where
  session : ∃ shown, e'.session = { e.session with shown }

instance : IsPreorder Engine Glances where
  refl e := ⟨.refl e, e.session.shown, rfl⟩
  trans e e' e'' h h' := by
    obtain ⟨shown, hshown⟩ := h.session
    obtain ⟨shown', hshown'⟩ := h'.session
    exact ⟨h.toSteady.trans h'.toSteady, shown', by rw [hshown', hshown]⟩

variable {w : Surroundings τ}

theorem enters_record {c : ViewCall} (e : Engine) :
    (e.record (.view c)).enters = e.enters + c.isEnter.toNat := by
  rw [enters, viewCalls_record_view, List.countP_append, List.countP_singleton, enters]
  cases c.isEnter <;> rfl

theorem exits_record {c : ViewCall} (e : Engine) :
    (e.record (.view c)).exits = e.exits + c.isExit.toNat := by
  rw [exits, viewCalls_record_view, List.countP_append, List.countP_singleton, exits]
  cases c.isExit <;> rfl

theorem glances_call {c : ViewCall} (henter : c.isEnter = false) (hexit : c.isExit = false) :
    Play.Rel Glances (call w c) := by
  intro e
  have hrecorded : Glances e (e.record (.view c)) :=
    ⟨⟨rfl, by rw [enters_record, henter]; rfl, by rw [exits_record, hexit]; rfl, rfl⟩,
      e.session.shown, rfl⟩
  unfold call
  dsimp only
  split <;> exact hrecorded

theorem steady_call {c : ViewCall} (henter : c.isEnter = false) (hexit : c.isExit = false) :
    Play.Rel Steady (call w c) := fun e => (glances_call henter hexit e).toSteady

theorem call_snd (c : ViewCall) (e : Engine) : (call w c e).2 = e.record (.view c) := by
  unfold call
  dsimp only
  split <;> rfl

/-- However far a teardown comes, the view leaves first. -/
theorem continues_teardown (w : Surroundings τ) : Play.Rel Continues (teardown w) := by
  intro e
  have hrest : Lapses (e.record (.view .exit)) (teardown w e).2 := by
    have hcooled : Play.Rel Lapses (call w (.cooldown w.settings.interactionCooldown)) :=
      fun e => (steady_call rfl rfl e).lapses
    have hidle : Play.Rel Lapses (Play.modify fun e => { e with session := .idle }) :=
      fun e => ⟨rfl, rfl, rfl, nofun⟩
    rw [← call_snd (w := w)]
    exact Play.Rel.rest (fun _ => .bind hcooled fun _ => hidle) e
  have hexits : (e.record (.view .exit)).exits = e.exits + 1 := exits_record e
  refine ⟨hrest.starting, hrest.enters.trans (enters_record e), hrest.begins, ?_⟩
  rw [hrest.exits, hexits]
  have hactive := e.session.active.toNat_le
  omega

variable [Translation τ]

theorem glances_renderCurrent : Play.Rel Glances (renderCurrent w) :=
  .renderCurrent (glances_call rfl rfl) (fun _ => glances_call rfl rfl)
    fun _ => ⟨⟨rfl, rfl, rfl, rfl⟩, true, rfl⟩

/-- What a start ends with: it is not starting any more, and if it opened a session, the view
entered it once, unless the view could not be told where to look. -/
structure Settles (w : Surroundings τ) (e e' : Engine) : Prop where
  starting : e'.starting = false
  exits : e'.exits = e.exits
  enters : e'.enters = e.enters + (e'.session.active && sees w e'.session).toNat

theorem settles_present {e₀ e : Engine} (hactive : e.session.active = true)
    (hstarting : e.starting = false) (henters : e.enters = e₀.enters)
    (hexits : e.exits = e₀.exits) : Settles w e₀ (present w e).2 := by
  -- Whether the line was shown makes no difference to where the view looks.
  have hglance {e₁ : Engine} (h : Glances e₁ (present w e).2) (hsession : e₁.session = e.session)
      (hstarting : e₁.starting = false) (hexits : e₁.exits = e₀.exits)
      (henters : e₁.enters = e₀.enters + (sees w e.session).toNat) :
      Settles w e₀ (present w e).2 := by
    obtain ⟨shown, hshown⟩ := h.session
    rw [hsession] at hshown
    have hsees : sees w (present w e).2.session = sees w e.session := by
      rw [hshown, sees, focus_withShown, sees]
    refine ⟨h.starting.trans hstarting, h.exits.trans hexits, ?_⟩
    rw [h.enters, henters, hsees, hshown, hactive, Bool.true_and]
  cases hfocus : focus w e.session with
  | error fault =>
    have hkept : (present w e).2 = e := by
      simp [present, Play.bind_apply, hfocus]
    have hglances : Glances e (present w e).2 := by
      rw [hkept]
      exact refl_of Glances e
    refine hglance hglances rfl hstarting hexits ?_
    simp [henters, sees, hfocus, Except.isOk, Except.toBool]
  | ok point =>
    have hglances : Glances (e.record (.view (.enter point))) (present w e).2 := by
      have hentered : present w e =
          (call w (.enter point) >>= fun _ => renderCurrent w) e := by
        simp only [present, Play.bind_apply, Play.get_apply, Play.lift_apply, hfocus]
      rw [hentered, ← call_snd (w := w)]
      exact Play.Rel.rest (fun _ => glances_renderCurrent) e
    refine hglance hglances rfl hstarting ((exits_record e).trans hexits) ?_
    rw [enters_record, henters]
    simp [sees, hfocus, Except.isOk, Except.toBool, ViewCall.isEnter]

end Engine

/-- Every stretch of the progress happens behind the stage, the first after an engine. -/
def Progress.Backstage : Progress τ α → Engine → Prop
  | .ended _ e, e₀ => e₀.Offstage e
  | .waits _ e resume, e₀ => e₀.Offstage e ∧ ∀ answer w e', (resume answer w e').Backstage e'

def Task.Backstage (t : Task τ α) : Prop := ∀ w e, (t w e).Backstage e

namespace Progress

theorem Backstage.after {p : Progress τ α} {e₀ e : Engine} (hp : p.Backstage e)
    (h : e₀.Offstage e) : p.Backstage e₀ := by
  cases p with
  | ended r e' => exact h.trans hp
  | waits q e' resume => exact ⟨h.trans hp.1, hp.2⟩

theorem Backstage.andThen {p : Progress τ α} {f : Except Fault α → Task τ β} {e₀ : Engine}
    (hp : p.Backstage e₀) (hf : ∀ r, (f r).Backstage) (w : Surroundings τ) :
    (p.andThen f w).Backstage e₀ := by
  induction p generalizing w e₀ with
  | ended r e => exact (hf r w e).after hp
  | waits q e resume ih => exact ⟨hp.1, fun answer w e' => ih answer w e' (hp.2 answer w e') w⟩

end Progress

namespace Task

theorem backstage_pure (a : α) : (pure a : Task τ α).Backstage := fun _ e => .refl e

theorem backstage_fail (fault : Fault) : (fail fault : Task τ α).Backstage := fun _ e => .refl e

theorem backstage_play {p : Surroundings τ → Play α} (hp : ∀ w, Play.Rel Engine.Offstage (p w)) :
    (play p).Backstage := fun w e => hp w e

theorem backstage_ask (q : Query) : (ask q : Task τ _).Backstage :=
  fun _ e => ⟨.refl e, fun _ _ e' => .refl e'⟩

theorem backstage_bind {t : Task τ α} {f : α → Task τ β} (ht : t.Backstage)
    (hf : ∀ a, (f a).Backstage) : (t >>= f).Backstage := by
  intro w e
  refine (ht w e).andThen (fun r => ?_) w
  cases r with
  | ok a => exact hf a
  | error fault => exact backstage_fail fault

theorem backstage_settled {t : Task τ Unit} (ht : t.Backstage) : t.settled.Backstage :=
  fun w e => (ht w e).andThen (fun _ => backstage_pure ()) w

theorem backstage_learn (answer : Except Fault (Option Snapshot)) :
    (learn answer : Task τ _).Backstage := by
  cases answer with
  | error fault => exact backstage_pure none
  | ok inventory =>
    exact backstage_bind (backstage_play fun _ e => .setStock e _) fun _ => backstage_pure inventory

theorem backstage_inventory : (inventory : Task τ _).Backstage := by
  refine backstage_bind (backstage_play fun _ e => .refl e) fun e => ?_
  cases e.stock.cache with
  | some inventory => exact backstage_pure _
  | none =>
    exact backstage_bind (backstage_play fun _ e => .setStock e _) fun _ =>
      backstage_bind (backstage_ask .inventory) backstage_learn

theorem backstage_passes (checks : List Check) : (passes checks : Task τ _).Backstage := by
  induction checks with
  | nil => exact backstage_pure true
  | cons c rest ih =>
    refine backstage_bind backstage_inventory fun inventory => ?_
    split
    · exact ih
    · exact backstage_pure false

theorem backstage_firstPassing (checks : α → List Check) (as : List α) :
    (firstPassing checks as : Task τ _).Backstage := by
  induction as with
  | nil => exact backstage_pure none
  | cons a rest ih =>
    refine backstage_bind (backstage_passes (checks a)) fun passed => ?_
    split
    · exact backstage_pure (some a)
    · exact ih

theorem backstage_publish {hear : Listener → Task τ Unit} (h : ∀ l, (hear l).Backstage) :
    (publish hear).Backstage := by
  have htell (ls : List Listener) : (tell hear ls).Backstage := by
    induction ls with
    | nil => exact backstage_pure ()
    | cons l rest ih => exact backstage_bind (backstage_settled (h l)) fun _ => ih
  exact backstage_bind (backstage_play fun _ e => .refl e) fun _ => htell _

theorem backstage_receive (news : Option Snapshot) (l : Listener) :
    (receive news l : Task τ _).Backstage := by
  refine backstage_bind (backstage_play fun _ e => Engine.offstage_receive news l e) fun _ => ?_
  split
  · exact backstage_pure ()
  · exact backstage_ask .listener

theorem backstage_publishInventory (news : Option Snapshot) :
    (publishInventory news : Task τ _).Backstage := by
  refine backstage_publish fun l => ?_
  cases l with
  | relay later =>
    exact backstage_bind (backstage_publish (backstage_receive (some later))) fun _ =>
      backstage_ask .listener
  | manager => exact backstage_receive news .manager
  | recorder => exact backstage_receive news .recorder

theorem backstage_store (inventory : Snapshot) (slots : List Slot) :
    (store inventory slots : Task τ _).Backstage := by
  refine backstage_bind (backstage_play fun w e => ?_) fun _ => backstage_publishInventory _
  unfold write
  split
  · exact .setStock e _
  · exact (Engine.Offstage.setStock e _).trans
      ((Engine.Offstage.record rfl _).trans (.setStock _ _))

theorem backstage_give (item : String) (amount : Option Number) (ifMissing : Bool) :
    (give item amount ifMissing : Task τ _).Backstage := by
  refine backstage_bind backstage_inventory fun inventory => ?_
  cases inventory with
  | none => exact backstage_pure false
  | some inventory =>
    refine backstage_bind (backstage_publishInventory _) fun _ => ?_
    split
    · exact backstage_pure false
    split
    · exact backstage_pure false
    split
    · exact backstage_fail _
    split
    · exact backstage_pure false
    · exact backstage_bind (backstage_store inventory _) fun _ => backstage_pure true

/-- Executing actions happens behind the stage, however often it waits. -/
theorem backstage_execute (actions : List Action) : (execute actions : Task τ _).Backstage := by
  induction actions with
  | nil => exact backstage_pure ()
  | cons action rest ih =>
    cases action with
    | unknown type source => exact ih
    | giveItem item amount ifMissing =>
      exact backstage_bind (backstage_give item amount ifMissing) fun _ => ih

end Task

/-- In every stretch but the last only what no one notices happens, wherever the others leave the
engine within `I`; of the last, which starts at an engine and ends with an outcome at another, `E`
tells. -/
def Progress.Obeys (I : Engine → Prop)
    (E : Surroundings τ → Engine → Except Fault α → Engine → Prop) :
    Progress τ α → Surroundings τ → Engine → Prop
  | .ended r e, w, e₀ => E w e₀ r e
  | .waits _ e resume, _, e₀ =>
    e₀.Steady e ∧ ∀ answer w e', I e' → (resume answer w e').Obeys I E w e'

namespace Progress

variable {I : Engine → Prop}

theorem Obeys.andThen {E₁ : Surroundings τ → Engine → Except Fault α → Engine → Prop}
    {E : Surroundings τ → Engine → Except Fault β → Engine → Prop} {p : Progress τ α}
    {f : Except Fault α → Task τ β} {w : Surroundings τ} {e₀ : Engine} (hp : p.Obeys I E₁ w e₀)
    (h₀ : I e₀)
    (hf : ∀ r w e₀ e, I e₀ → E₁ w e₀ r e → (f r w e).Obeys I E w e₀) :
    (p.andThen f w).Obeys I E w e₀ := by
  induction p generalizing w e₀ with
  | ended r e => exact hf r w e₀ e h₀ hp
  | waits q e resume ih =>
    exact ⟨hp.1, fun answer w e' h' => ih answer w e' (hp.2 answer w e' h') h'⟩

/-- What happens behind the stage after a steady beginning. -/
theorem Backstage.obeys {p : Progress τ α} {e₀ e : Engine} (hp : p.Backstage e)
    (h : e₀.Steady e) (w : Surroundings τ) :
    p.Obeys I (fun _ e₀ _ e => e₀.Steady e) w e₀ := by
  induction p generalizing w e₀ e with
  | ended r e' => exact h.trans hp.steady
  | waits q e' resume ih =>
    refine ⟨h.trans hp.1.steady, fun answer w e'' _ => ?_⟩
    exact ih answer w e'' (hp.2 answer w e'') (.refl e'') w

end Progress

namespace Task

variable [Translation τ]

/-- A start that waits is alone: it has passed the guard, and no conversation runs. -/
structure Preparing (e : Engine) : Prop where
  starting : e.starting = true
  active : e.session.active = false

/-- A conversation runs and no start has passed the guard. -/
structure Running (e : Engine) : Prop where
  starting : e.starting = false
  active : e.session.active = true

/-- A start has opened a session exactly if it says so. -/
structure Opens (e : Engine) (r : Except Fault Bool) (e' : Engine) : Prop where
  enters : e'.enters = e.enters
  exits : e'.exits = e.exits
  active : e'.session.active = true ↔ r = .ok true

omit [Translation τ] in
theorem obeys_openSession (npcId : String) (npcName : Json)
    (answer : Except Fault (Option Document)) (w : Surroundings τ) {e : Engine}
    (he : Preparing e) :
    (openSession npcId npcName answer w e).Obeys Preparing (fun _ => Opens) w e := by
  have hclosed {e₀ e : Engine} (he₀ : Preparing e₀) (h : e₀.Steady e) {r : Except Fault Bool}
      (hr : r ≠ .ok true) : Opens e₀ r e := by
    refine ⟨h.enters, h.exits, iff_of_false ?_ hr⟩
    rw [h.active, he₀.active]
    exact Bool.false_ne_true
  match answer with
  | .error fault => exact hclosed he (.refl e) nofun
  | .ok none => exact hclosed he (.refl e) nofun
  | .ok (some d) =>
    have hresolved := (backstage_firstPassing Fork.checks (d.forks.getD []) w e).obeys
      (I := Preparing) (.refl e) w
    refine hresolved.andThen he fun r w e₀ e he₀ h => ?_
    match r with
    | .error fault => exact hclosed he₀ h nofun
    | .ok fork =>
      dsimp only
      split
      · exact hclosed he₀ h nofun
      · exact ⟨h.enters, h.exits, iff_of_true rfl rfl⟩

/-- Between its guard and its end a start waits behind the stage, and then it settles. -/
theorem obeys_finish (npcId : String) (npcName : Json) (answer : Except Fault (Option Document))
    (w : Surroundings τ) {e : Engine} (he : Preparing e) :
    (finish npcId npcName answer w e).Obeys Preparing (fun w e₀ _ e => e₀.Settles w e) w e := by
  have hopened : ((openSession npcId npcName answer).followedBy (fun _ =>
      Play.modify fun e => { e with starting := false }) w e).Obeys Preparing
        (fun _ e₀ r e => Opens e₀ r e ∧ e.starting = false) w e := by
    refine (obeys_openSession npcId npcName answer w he).andThen he fun r w e₀ e _ h => ?_
    exact ⟨⟨h.enters, h.exits, h.active⟩, rfl⟩
  refine hopened.andThen he fun r w e₀ e _ ⟨h, hstarting⟩ => ?_
  have hclosed (hr : r ≠ .ok true) : e₀.Settles w e := by
    refine ⟨hstarting, h.exits, ?_⟩
    rw [Bool.eq_false_iff.mpr (mt h.active.mp hr), Bool.false_and]
    exact h.enters
  match r with
  | .error fault => exact hclosed nofun
  | .ok false => exact hclosed nofun
  | .ok true => exact Engine.settles_present (h.active.mpr rfl) hstarting h.enters h.exits

omit [Translation τ] in
theorem obeys_conclude (actions : List Action) (w : Surroundings τ) {e : Engine} (he : Running e) :
    (conclude actions w e).Obeys Running (fun _ e₀ _ e => e₀.Continues e) w e := by
  have hcue : ((play fun w => Engine.call w .endCue : Task τ Unit) w e).Obeys Running
      (fun _ e₀ _ e => e₀.Steady e) w e := Engine.steady_call rfl rfl e
  unfold conclude
  refine hcue.andThen he fun r w e₀ e he₀ h => ?_
  match r with
  | .error fault => exact h.continues
  | .ok () =>
    have hexecuted := (backstage_execute actions w e).obeys (I := Running) h w
    refine hexecuted.andThen he₀ fun r w e₀ e _ h => ?_
    have hended : Play.Rel Engine.Continues ((Play.lift r).followedBy (Engine.teardown w)) :=
      .followedBy (.lift r) (Engine.continues_teardown w)
    exact h.continues.trans (hended e)

theorem steady_forward (w : Surroundings τ) : Play.Rel Engine.Steady (forward w) :=
  .bind (fun _ => ⟨rfl, rfl, rfl, rfl⟩) fun _ e => (Engine.glances_renderCurrent e).toSteady

theorem obeys_advance (w : Surroundings τ) {e : Engine} (he : Running e) :
    (advance w e).Obeys Running (fun _ e₀ _ e => e₀.Continues e) w e := by
  rw [advance_apply, he.active]
  simp only [Bool.not_true, Bool.false_eq_true, if_false]
  split
  · exact Engine.continues_teardown w e
  split
  · exact (steady_forward w e).continues
  · exact obeys_conclude _ w he

theorem steady_take (line : Line) (choice : Choice) (w : Surroundings τ) :
    Play.Rel Engine.Steady (take line choice w) :=
  .bind (.lift _) fun _ _ => ⟨rfl, rfl, rfl, rfl⟩

theorem steady_follow (r : Resolution) (w : Surroundings τ) :
    Play.Rel Engine.Steady (follow r w) :=
  .bind (fun _ => ⟨rfl, rfl, rfl, rfl⟩) fun _ e => (Engine.glances_renderCurrent e).toSteady

theorem obeys_select (id : String) (w : Surroundings τ) {e : Engine} (he : Running e) :
    (select id w e).Obeys Running (fun _ e₀ _ e => e₀.Continues e) w e := by
  rw [select_apply]
  match e.offered id with
  | none => exact Engine.Continues.refl e
  | some (line, choice) =>
    have htaken : ((play (take line choice) : Task τ Unit) w e).Obeys Running
        (fun _ e₀ _ e => e₀.Steady e) w e := steady_take line choice w e
    refine htaken.andThen he fun r w e₀ e he₀ h => ?_
    match r with
    | .error fault => exact h.continues
    | .ok () =>
      have hresolved := (backstage_firstPassing Branch.checks (choice.branches.getD []) w e).obeys
        (I := Running) h w
      refine hresolved.andThen he₀ fun r w e₀ e _ h => ?_
      match r with
      | .error fault => exact h.continues
      | .ok branch =>
        exact (h.trans (steady_follow _ w e)).continues

end Task

end Parley
