import Parley.Proofs.Conversation.Steps

/-!
# The effects of calls

Everything that happens to an engine is one of a few calls, and every call has one of a few effects
on its session, each with its own calls of the view. What holds of a session throughout a run, or of
what the view sees of it, is proved from these effects and not from the operations.
-/

namespace Parley

/-- What may happen in a running conversation: the player goes on or names a choice, or an inventory
is published. -/
inductive Turn where
  | advance
  | select (id : String)
  | news (inventory : Option Snapshot)

/-- What may happen to an engine: a conversation is started or taken a turn further, an interaction
is published, or the engine stops listening. -/
inductive Call where
  | start (npcId : String) (npcName : Json)
  | turn (t : Turn)
  | interact (npcId : String) (npcName : Json)
  | destroy

namespace Call

/-- Whom a call may start a conversation with. -/
def who? : Call → Option (String × Json)
  | .start npcId npcName | .interact npcId npcName => some (npcId, npcName)
  | _ => none

end Call

namespace Session

/-- A conversation whose place is in its lines. -/
structure Running (s : Session) : Prop where
  active : s.active = true
  lower : 0 ≤ s.index
  upper : s.index < s.lines.length

def Sound (s : Session) : Prop := s = .idle ∨ s.Running

variable {s : Session}

theorem Running.current (h : s.Running) : ∃ l, s.current? = some l := by
  have hindex : s.index.toNat < s.lines.length := by
    have := h.lower
    have := h.upper
    omega
  exact ⟨s.lines[s.index.toNat], by simp [current?, h.lower, hindex]⟩

theorem Running.lines_ne_nil (h : s.Running) : s.lines ≠ [] := by
  intro hnil
  have hlower := h.lower
  have hupper := h.upper
  rw [hnil, List.length_nil] at hupper
  omega

theorem Sound.running (h : s.Sound) (hactive : s.active = true) : s.Running := by
  rcases h with rfl | h
  · cases hactive
  · exact h

theorem Sound.idle (h : s.Sound) (hidle : s.active = false) : s = .idle := by
  rcases h with h | h
  · exact h
  · rw [h.active] at hidle
    cases hidle

theorem Running.withShown (h : s.Running) (shown : Bool) : { s with shown }.Running :=
  ⟨h.active, h.lower, h.upper⟩

theorem Running.next (h : s.Running) (hlast : s.isLast = false) :
    { s with index := s.index + 1 }.Running := by
  have hlower := h.lower
  simp only [isLast, decide_eq_false_iff_not] at hlast
  refine ⟨h.active, ?_, ?_⟩
  · change 0 ≤ s.index + 1
    omega
  · change s.index + 1 < s.lines.length
    omega

theorem running_opened (npcId : String) (npcName : Json) {r : Resolution} (h : r.lines ≠ []) :
    (opened npcId npcName r).Running := by
  have hlength := List.length_pos_iff.mpr h
  refine ⟨rfl, Int.le_refl 0, ?_⟩
  simp only [opened, Line.copyList_eq]
  omega

end Session

variable {τ : Type} [Translation τ]

/-- The engine after a turn; an executor gets the waiting actions after the last line. -/
def Turn.perform (execute : List Action → Play Unit) (w : Surroundings τ) (e : Engine) :
    Turn → Engine
  | .advance => (Engine.advanceWith execute w e).2
  | .select id => (Engine.select w id e).2
  | .news inventory => e.publishInventory inventory

/-- The engine after a call, whatever the outcome of the call. -/
def Call.perform (w : Surroundings τ) (e : Engine) : Call → Engine
  | .start npcId npcName => (Engine.converse w npcId npcName e).2
  | .turn t => t.perform (Engine.executeActions w.supply) w e
  | .interact npcId npcName => Engine.interact w npcId npcName e
  | .destroy => e.destroy

/-- The current line is shown, or it cannot be. -/
inductive Renders (w : Surroundings τ) (s : Session) : Session → List ViewCall → Prop where
  | failed {l : Line} {fault : Fault} (current : s.current? = some l)
      (h : Engine.renderLine w s l = .error fault) : Renders w s s []
  | shown {l : Line} {r : RenderLine} (current : s.current? = some l)
      (h : Engine.renderLine w s l = .ok r) : Renders w s { s with shown := true }
        ((if s.shown then [.advanceCue] else []) ++ [.render r])

/-- A start finds no lines or a conversation that runs; or it opens a conversation, and then cannot
tell where the view should look, or brings the first line on screen. -/
inductive Opening (w : Surroundings τ) (who : String × Json) (s : Session) :
    Session → List ViewCall → Prop where
  | missed : Opening w who s s []
  | blind {r : Resolution} {fault : Fault} (idle : s.active = false) (lines : r.lines ≠ [])
      (h : Engine.focus w (.opened who.1 who.2 r) = .error fault) :
      Opening w who s (.opened who.1 who.2 r) []
  | entered {r : Resolution} {point : Option Position} {s' : Session} {calls : List ViewCall}
      (idle : s.active = false) (lines : r.lines ≠ [])
      (h : Engine.focus w (.opened who.1 who.2 r) = .ok point)
      (renders : Renders w (.opened who.1 who.2 r) s' calls) :
      Opening w who s s' (.enter point :: calls)

/-- What calls do to a session and what the view sees of it. -/
inductive Effect (w : Surroundings τ) (who : Option (String × Json)) (s : Session) :
    Session → List ViewCall → Prop where
  | kept : Effect w who s s []
  | opening {p : String × Json} {s' : Session} {calls : List ViewCall} (h : who = some p)
      (opens : Opening w p s s' calls) : Effect w who s s' calls
  | going {t s' : Session} {calls : List ViewCall} (active : s.active = true) (running : t.Running)
      (npcId : t.npcId = s.npcId) (npcName : t.npcName = s.npcName) (shown : t.shown = s.shown)
      (renders : Renders w t s' calls) : Effect w who s s' calls
  | ended (active : s.active = true) :
      Effect w who s .idle [.endCue, .exit, .cooldown w.settings.interactionCooldown]

theorem Renders.session_eq {w : Surroundings τ} {s s' : Session} {calls : List ViewCall}
    (h : Renders w s s' calls) : ∃ shown, s' = { s with shown } := by
  cases h with
  | failed current h => exact ⟨s.shown, rfl⟩
  | shown current h => exact ⟨true, rfl⟩

theorem Opening.session_eq {w : Surroundings τ} {who : String × Json} {s s' : Session}
    {calls : List ViewCall} (h : Opening w who s s' calls) :
    s' = s ∨ ∃ r shown, s.active = false ∧ r.lines ≠ [] ∧
      s' = { Session.opened who.1 who.2 r with shown } := by
  cases h with
  | missed => exact .inl rfl
  | blind idle lines h => exact .inr ⟨_, false, idle, lines, rfl⟩
  | entered idle lines h renders =>
    obtain ⟨shown, hshown⟩ := renders.session_eq
    exact .inr ⟨_, shown, idle, lines, hshown⟩

theorem Opening.trans {w : Surroundings τ} {who : String × Json} {s s' s'' : Session}
    {calls calls' : List ViewCall} (h : Opening w who s s' calls)
    (h' : Opening w who s' s'' calls') : Opening w who s s'' (calls ++ calls') := by
  -- A conversation that was opened keeps the second start out.
  have hbusy : s'.active = true → s'' = s' ∧ calls' = [] := by
    intro hactive
    cases h' with
    | missed => exact ⟨rfl, rfl⟩
    | blind idle => rw [hactive] at idle; cases idle
    | entered idle => rw [hactive] at idle; cases idle
  cases h with
  | missed => exact h'
  | blind idle lines hfocus =>
    obtain ⟨rfl, rfl⟩ := hbusy rfl
    exact .blind idle lines hfocus
  | entered idle lines hfocus renders =>
    obtain ⟨shown, hshown⟩ := renders.session_eq
    obtain ⟨rfl, rfl⟩ := hbusy (by rw [hshown]; rfl)
    rw [List.append_nil]
    exact .entered idle lines hfocus renders

/-- The second engine is the first after something was done to its session that the view saw. -/
def Engine.Acts (R : Session → List ViewCall → Prop) (e e' : Engine) : Prop :=
  ∃ calls, R e'.session calls ∧ e'.viewCalls = e.viewCalls ++ calls ∧ e'.starting = e.starting

namespace Engine

variable {w : Surroundings τ} {e e' : Engine}

theorem Acts.mono {R R' : Session → List ViewCall → Prop} (h : Acts R e e')
    (hR : ∀ s calls, R s calls → R' s calls) : Acts R' e e' := by
  obtain ⟨calls, hacts, hcalls, hstarting⟩ := h
  exact ⟨calls, hR _ _ hacts, hcalls, hstarting⟩

theorem Acts.of_offstage {R : Session → List ViewCall → Prop} (h : Offstage e e')
    (hR : R e.session []) : Acts R e e' :=
  ⟨[], h.session ▸ hR, by simp [h.viewCalls], h.starting⟩

/-- Before the session, what happens behind the stage makes no difference. -/
theorem Acts.after {R : Session → List ViewCall → Prop} {e₁ : Engine} (h : Acts R e₁ e')
    (hcalls : e₁.viewCalls = e.viewCalls) (hstarting : e₁.starting = e.starting) : Acts R e e' := by
  obtain ⟨calls, hacts, hseen, hbegun⟩ := h
  exact ⟨calls, hacts, hcalls ▸ hseen, hbegun.trans hstarting⟩

theorem acts_renderCurrent (hw : w.ViewWorks) (h : e.session.Running) :
    Acts (Renders w e.session) e (renderCurrent w e).2 := by
  obtain ⟨l, hcurrent⟩ := h.current
  rw [renderCurrent_eq hw, hcurrent]
  dsimp only
  cases hshown : renderLine w e.session l with
  | error fault => exact ⟨[], .failed hcurrent hshown, by simp, rfl⟩
  | ok shown =>
    exact ⟨_, .shown hcurrent hshown, by simp [viewCalls_showing, List.append_assoc], rfl⟩

theorem acts_converse (hw : w.ViewWorks) (npcId : String) (npcName : Json)
    (hstarting : e.starting = false) :
    Acts (Opening w (npcId, npcName) e.session) e (converse w npcId npcName e).2 := by
  have hmissed : ∀ e' : Engine, e'.session = e.session → e'.viewCalls = e.viewCalls →
      e'.starting = e.starting → Acts (Opening w (npcId, npcName) e.session) e e' := by
    intro e' hsession hcalls hstarting
    exact ⟨[], hsession ▸ .missed, by simp [hcalls], hstarting⟩
  cases hactive : e.session.active with
  | true =>
    rw [converse_of_busy (.inl hactive)]
    exact hmissed e rfl rfl rfl
  | false =>
    rw [converse_of_free hactive hstarting]
    split
    · exact hmissed _ rfl rfl rfl
    · exact hmissed _ rfl rfl rfl
    · rename_i d _
      dsimp only
      by_cases hlines : (d.resolve w.supply e.stock).1.lines = []
      · rw [if_pos hlines]
        exact hmissed _ rfl rfl rfl
      · rw [if_neg hlines, present_eq hw]
        dsimp only
        cases hfocus : focus w (.opened npcId npcName (d.resolve w.supply e.stock).1) with
        | error fault => exact ⟨[], .blind hactive hlines hfocus, by simp [viewCalls, asked], rfl⟩
        | ok point =>
          have hrunning := Session.running_opened npcId npcName hlines
          obtain ⟨calls, hrenders, hcalls, hbegun⟩ := acts_renderCurrent hw
            (e := { e.asked with
              stock := (d.resolve w.supply e.stock).2
              session := .opened npcId npcName (d.resolve w.supply e.stock).1 }.record
                (.view (.enter point))) hrunning
          refine ⟨.enter point :: calls, .entered hactive hlines hfocus hrenders, ?_, hbegun⟩
          rw [hcalls, viewCalls_record_view, List.append_assoc]
          rfl

theorem acts_interact (hw : w.ViewWorks) (npcId : String) (npcName : Json)
    (hstarting : e.starting = false) :
    Acts (Opening w (npcId, npcName) e.session) e (interact w npcId npcName e) := by
  refine Bus.dispatch_rel
    (R := fun e e' => e.starting = false → Acts (Opening w (npcId, npcName) e.session) e e')
    ?_ ?_ ?_ _ e hstarting
  · intro e _
    exact .of_offstage (.refl e) .missed
  · intro e e' e'' h h' hstarting
    obtain ⟨calls, hopens, hcalls, hbegun⟩ := h hstarting
    obtain ⟨calls', hopens', hcalls', hbegun'⟩ := h' (hbegun.trans hstarting)
    refine ⟨calls ++ calls', hopens.trans hopens', ?_, hbegun'.trans hbegun⟩
    rw [hcalls', hcalls, List.append_assoc]
  · intro l e hstarting
    have hdeaf : Acts (Opening w (npcId, npcName) e.session) e e := .of_offstage (.refl e) .missed
    cases l with
    | manager =>
      by_cases hid : (npcId == "") = true
      · simp only [hearInteraction, if_pos hid]
        exact hdeaf
      · simp only [hearInteraction, if_neg hid]
        exact acts_converse hw npcId npcName hstarting
    | recorder => exact hdeaf
    | relay news => exact hdeaf

/-- A choice that was taken leaves the place in the lines, of which there are no fewer. -/
theorem running_answered (supply : Supply) (l : Line) (choice : Choice) (text : String)
    (h : e.session.Running) : (e.answered supply l choice text).session.Running := by
  have hlower := h.lower
  have hupper := h.upper
  refine ⟨h.active, hlower, ?_⟩
  simp only [answered, spliceAfter, List.length_append, List.length_take, List.length_drop,
    List.length_set]
  omega

theorem acts_advance (hw : w.ViewWorks) (h : e.session.Sound) (who : Option (String × Json)) :
    Acts (Effect w who e.session) e (advance w e).2 := by
  cases hactive : e.session.active with
  | false =>
    rw [advance, advanceWith_of_idle hactive]
    exact .of_offstage (.refl e) .kept
  | true =>
    have hrunning := h.running hactive
    cases hlast : e.session.isLast with
    | false =>
      have hnext : e.next.session.Running := hrunning.next hlast
      rw [advance, advanceWith_of_not_isLast hactive hrunning.lines_ne_nil hlast]
      refine ((acts_renderCurrent hw hnext).after rfl rfl).mono ?_
      intro s calls hrenders
      exact .going hactive hnext rfl rfl rfl hrenders
    | true =>
      rw [advance, advanceWith_of_isLast hactive hrunning.lines_ne_nil hlast]
      refine ⟨[.endCue, .exit, .cooldown w.settings.interactionCooldown], ?_,
        viewCalls_conclude hw _ _ e, ?_⟩
      · rw [session_conclude hw]
        exact .ended hactive
      · rw [conclude_eq hw]
        exact (offstage_executeActions w.supply e.session.pending
          (e.record (.view .endCue))).starting

theorem acts_select (hw : w.ViewWorks) (h : e.session.Sound) (id : String)
    (who : Option (String × Json)) :
    Acts (Effect w who e.session) e (select w id e).2 := by
  cases hoffered : e.offered id with
  | none =>
    rw [select_of_not_offered hoffered]
    exact .of_offstage (.refl e) .kept
  | some p =>
    obtain ⟨l, choice⟩ := p
    have hactive := (of_offered hoffered).1
    have hrunning := h.running hactive
    rw [select_of_offered hoffered]
    cases localize w choice.textKey choice.text with
    | error fault => exact .of_offstage (.refl e) .kept
    | ok text =>
      have hanswered := running_answered w.supply l choice text hrunning
      refine ((acts_renderCurrent hw hanswered).after rfl rfl).mono ?_
      intro s calls hrenders
      exact .going hactive hanswered rfl rfl rfl hrenders

theorem acts_perform (hw : w.ViewWorks) (h : e.session.Sound) (hstarting : e.starting = false)
    (c : Call) : Acts (Effect w c.who? e.session) e (c.perform w e) := by
  cases c with
  | start npcId npcName =>
    refine (acts_converse hw npcId npcName hstarting).mono ?_
    intro s calls hopens
    exact .opening rfl hopens
  | turn t =>
    cases t with
    | advance => exact acts_advance hw h _
    | select id => exact acts_select hw h id _
    | news inventory => exact .of_offstage (offstage_publishInventory inventory e) .kept
  | interact npcId npcName =>
    refine (acts_interact hw npcId npcName hstarting).mono ?_
    intro s calls hopens
    exact .opening rfl hopens
  | destroy => exact ⟨[], .kept, (List.append_nil _).symm, rfl⟩

end Engine
end Parley
