import Parley.Proofs.Conversation.Bookkeeping

/-!
# Engines between deeds

Between deeds no start is under way, and a session that is not idle has its place in its lines. This
is so whatever the view, the translator, the documents and the writes do: where an operation can
fail, the session is in order already.
-/

namespace Parley.Engine

structure Settled (e : Engine) : Prop where
  sound : e.session.Sound
  starting : e.starting = false

def KeepsSettled (e e' : Engine) : Prop := e.Settled → e'.Settled

/-- The sessions differ in nothing but whether a line was shown. -/
structure Restaged (e e' : Engine) : Prop where
  session : ∃ shown, e'.session = { e.session with shown }
  starting : e'.starting = e.starting

instance : IsPreorder Engine KeepsSettled where
  refl _ h := h
  trans _ _ _ h h' := h' ∘ h

instance : IsPreorder Engine Restaged where
  refl e := ⟨⟨e.session.shown, rfl⟩, rfl⟩
  trans _ _ _ h h' := by
    obtain ⟨⟨shown, hshown⟩, hstarting⟩ := h
    obtain ⟨⟨shown', hshown'⟩, hstarting'⟩ := h'
    exact ⟨⟨shown', by rw [hshown', hshown]⟩, hstarting'.trans hstarting⟩

theorem KeepsSettled.of_same {e e' : Engine} (hsession : e'.session = e.session)
    (hstarting : e'.starting = e.starting) : KeepsSettled e e' := by
  intro h
  exact ⟨hsession ▸ h.sound, hstarting.trans h.starting⟩

theorem Restaged.running {e e' : Engine} (h : Restaged e e') (hrunning : e.session.Running) :
    e'.session.Running := by
  obtain ⟨shown, hshown⟩ := h.session
  exact hshown ▸ hrunning.withShown shown

theorem Restaged.settled {e e' : Engine} (h : Restaged e e') (hrunning : e.session.Running)
    (hstarting : e.starting = false) : e'.Settled :=
  ⟨.inr (h.running hrunning), h.starting.trans hstarting⟩

variable {τ : Type} {w : Surroundings τ} {e : Engine}

theorem call_fields (c : ViewCall) (e : Engine) :
    (call w c e).2.session = e.session ∧ (call w c e).2.starting = e.starting := by
  unfold call
  dsimp only
  split <;> exact ⟨rfl, rfl⟩

theorem keepsSettled_call (c : ViewCall) : Play.Rel KeepsSettled (call w c) := by
  intro e
  obtain ⟨hsession, hstarting⟩ := call_fields (w := w) c e
  exact .of_same hsession hstarting

theorem restaged_call (c : ViewCall) : Play.Rel Restaged (call w c) := by
  intro e
  obtain ⟨hsession, hstarting⟩ := call_fields (w := w) c e
  exact ⟨⟨e.session.shown, hsession⟩, hstarting⟩

theorem keepsSettled_teardown : Play.Rel KeepsSettled (teardown w) :=
  .teardown (keepsSettled_call _) (fun _ => keepsSettled_call _) fun _ h => ⟨.inl rfl, h.starting⟩

theorem keepsSettled_conclude (supply : Supply) (actions : List Action) :
    Play.Rel KeepsSettled (conclude (executeActions supply) w actions) := by
  apply Play.Rel.bind (keepsSettled_call _)
  intro _
  refine .followedBy ?_ keepsSettled_teardown
  intro e
  have hkept := offstage_executeActions supply actions e
  exact .of_same hkept.session hkept.starting

variable [Translation τ]

theorem restaged_renderCurrent : Play.Rel Restaged (renderCurrent w) :=
  .renderCurrent (restaged_call _) (fun _ => restaged_call _) fun _ => ⟨⟨true, rfl⟩, rfl⟩

theorem restaged_present : Play.Rel Restaged (present w) :=
  .present (fun _ => restaged_call _) restaged_renderCurrent

theorem keepsSettled_renderCurrent : Play.Rel KeepsSettled (renderCurrent w) := by
  intro e h
  rcases h.sound with hidle | hrunning
  · -- There is no line to show.
    have hnone : renderCurrent w e = (.ok (), e) := by
      simp only [renderCurrent, Play.bind_apply, Play.get_apply, hidle]
      rfl
    rw [hnone]
    exact h
  · exact (restaged_renderCurrent e).settled hrunning h.starting

theorem keepsSettled_advance : Play.Rel KeepsSettled (advance w) := by
  apply Play.Rel.advance
  · intro e hactive hlast h
    exact ⟨.inr ((h.sound.running hactive).next hlast), h.starting⟩
  · exact keepsSettled_renderCurrent
  · exact keepsSettled_teardown
  · exact fun e => keepsSettled_conclude w.supply e.session.pending e

theorem keepsSettled_select (id : String) : Play.Rel KeepsSettled (select w id) := by
  apply Play.Rel.select
  · intro e l choice text hoffered h
    have hrunning := h.sound.running (of_offered hoffered).1
    exact ⟨.inr (running_answered w.supply l choice text hrunning), h.starting⟩
  · exact keepsSettled_renderCurrent

theorem keepsSettled_converse (npcId : String) (npcName : Json) :
    Play.Rel KeepsSettled (converse w npcId npcName) := by
  intro e h
  cases hactive : e.session.active with
  | true =>
    rw [converse_of_busy (.inl hactive)]
    exact h
  | false =>
    rw [converse_of_free hactive h.starting]
    cases w.document npcId with
    | error fault => exact ⟨h.sound, h.starting⟩
    | ok document =>
      cases document with
      | none => exact ⟨h.sound, h.starting⟩
      | some d =>
        dsimp only
        split
        · exact ⟨h.sound, h.starting⟩
        · next hlines =>
          exact (restaged_present _).settled (Session.running_opened npcId npcName hlines)
            h.starting

theorem keepsSettled_interact (npcId : String) (npcName : Json) (e : Engine) :
    KeepsSettled e (interact w npcId npcName e) := by
  refine Bus.dispatch_rel (refl_of KeepsSettled) (trans_of KeepsSettled) ?_ _ e
  intro l e
  cases l with
  | manager =>
    simp only [hearInteraction]
    split
    · exact refl_of KeepsSettled e
    · exact keepsSettled_converse npcId npcName e
  | recorder => exact refl_of KeepsSettled e
  | relay news => exact refl_of KeepsSettled e

theorem Settled.perform (h : e.Settled) (w : Surroundings τ) (d : Deed) :
    (d.perform w e).Settled := by
  cases d with
  | call c =>
    cases c with
    | start npcId npcName => exact keepsSettled_converse npcId npcName e h
    | turn t =>
      cases t with
      | advance => exact keepsSettled_advance e h
      | select id => exact keepsSettled_select id e h
      | news inventory =>
        have hkept := offstage_publishInventory inventory e
        exact KeepsSettled.of_same hkept.session hkept.starting h
    | interact npcId npcName => exact keepsSettled_interact npcId npcName e h
    | destroy => exact ⟨h.sound, h.starting⟩
  | together npcs =>
    cases hactive : e.session.active with
    | true =>
      rw [Deed.perform, converseAll_of_busy (.inl hactive)]
      exact h
    | false =>
      cases npcs with
      | nil => exact h
      | cons npcId rest =>
        rw [Deed.perform, converseAll_of_free hactive h.starting]
        exact keepsSettled_converse npcId .null e h
  | listen => exact ⟨h.sound, h.starting⟩
  | equip name item => exact ⟨h.sound, h.starting⟩

theorem Settled.afterDeeds (h : e.Settled) (steps : List (Surroundings τ × Deed)) :
    (e.afterDeeds steps).Settled := by
  induction steps generalizing e with
  | nil => exact h
  | cons step rest ih => exact ih (h.perform step.1 step.2)

end Parley.Engine
