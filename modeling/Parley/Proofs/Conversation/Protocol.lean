import Mathlib.Data.List.Induction
import Parley.Proofs.Conversation.Rendering
import Parley.Proofs.Conversation.Shape

/-!
# What a view goes through

A view sees one conversation after another: it enters a mode, is shown lines, each but the first
after a cue, and leaves the mode again. Only the conversation that is running has no end yet. The
one way out of this order is a start that opens a conversation and then cannot tell where the view
should look: the engine plays on, and the view has entered nothing.
-/

namespace Parley

/-- A conversation without its end, as a view sees it. -/
inductive Opened : List ViewCall → Prop where
  | enter (point : Option Position) (l : RenderLine) : Opened [.enter point, .render l]
  | more {calls : List ViewCall} (h : Opened calls) (l : RenderLine) :
      Opened (calls ++ [.advanceCue, .render l])

/-- A whole conversation, as a view sees it. -/
inductive Block : List ViewCall → Prop where
  | ended {calls : List ViewCall} (h : Opened calls) (cooldown : Json) :
      Block (calls ++ [.endCue, .exit, .cooldown cooldown])

/-- Whole conversations one after another, and then one without its end exactly while one is
running. -/
def Protocol (active : Bool) (calls : List ViewCall) : Prop :=
  ∃ (blocks : List (List ViewCall)) (last : List ViewCall), (∀ block ∈ blocks, Block block) ∧
    calls = blocks.flatten ++ last ∧ if active then Opened last else last = []

namespace Protocol

variable {calls : List ViewCall}

theorem nil : Protocol false [] := ⟨[], [], nofun, rfl, rfl⟩

theorem enter (h : Protocol false calls) (point : Option Position) (l : RenderLine) :
    Protocol true (calls ++ [.enter point, .render l]) := by
  obtain ⟨blocks, last, hblocks, rfl, rfl⟩ := h
  rw [List.append_nil]
  exact ⟨blocks, [.enter point, .render l], hblocks, rfl, .enter point l⟩

theorem more (h : Protocol true calls) (l : RenderLine) :
    Protocol true (calls ++ [.advanceCue, .render l]) := by
  obtain ⟨blocks, last, hblocks, rfl, hlast⟩ := h
  have hmore : Opened (last ++ [.advanceCue, .render l]) := .more hlast l
  exact ⟨blocks, _, hblocks, List.append_assoc .., hmore⟩

theorem ended (h : Protocol true calls) (cooldown : Json) :
    Protocol false (calls ++ [.endCue, .exit, .cooldown cooldown]) := by
  obtain ⟨blocks, last, hblocks, rfl, hlast⟩ := h
  refine ⟨blocks ++ [last ++ [.endCue, .exit, .cooldown cooldown]], [], ?_, ?_, rfl⟩
  · intro block hblock
    rcases List.mem_append.mp hblock with hblock | hblock
    · exact hblocks block hblock
    · obtain rfl := List.mem_singleton.mp hblock
      exact .ended hlast cooldown
  · simp

end Protocol

theorem Opened.getLast? {calls : List ViewCall} (h : Opened calls) :
    ∃ l, calls.getLast? = some (.render l) := by
  cases h with
  | enter point l => exact ⟨l, rfl⟩
  | more h l => exact ⟨l, by simp⟩

theorem getLast?_flatten_blocks {blocks : List (List ViewCall)} (h : ∀ block ∈ blocks, Block block)
    {c : ViewCall} (hlast : blocks.flatten.getLast? = some c) :
    ∃ cooldown, c = .cooldown cooldown := by
  induction blocks with
  | nil => cases hlast
  | cons block blocks ih =>
    rw [List.flatten_cons, List.getLast?_append] at hlast
    cases hrest : blocks.flatten.getLast? with
    | some c' =>
      rw [hrest] at hlast
      cases hlast
      exact ih (fun b hb => h b (List.mem_cons_of_mem _ hb)) hrest
    | none =>
      rw [hrest] at hlast
      cases h block List.mem_cons_self with
      | ended _ cooldown =>
        simp at hlast
        exact ⟨cooldown, hlast.symm⟩

theorem not_protocol_of_protocol {calls : List ViewCall} (h : Protocol false calls) :
    ¬ Protocol true calls := by
  rintro ⟨blocks', last', -, hcalls', hopened⟩
  obtain ⟨blocks, last, hblocks, hcalls, rfl⟩ := h
  obtain ⟨l, hl⟩ := Opened.getLast? hopened
  have hrender : blocks.flatten.getLast? = some (.render l) := by
    rw [List.append_nil] at hcalls
    rw [← hcalls, hcalls', List.getLast?_append, hl]
    rfl
  obtain ⟨cooldown, hcooldown⟩ := getLast?_flatten_blocks hblocks hrender
  cases hcooldown

variable {τ : Type} [Translation τ]

/-- What a view has seen is in order, and while a conversation is running its first line was shown.
-/
structure Orderly (s : Session) (calls : List ViewCall) : Prop where
  protocol : Protocol s.active calls
  shown : s.active = true → s.shown = true

theorem Renders.of_answers {w : Surroundings τ} {s s' : Session} {calls : List ViewCall}
    (h : Renders w s s' calls) (hanswers : w.Answers s') :
    ∃ r, s' = { s with shown := true } ∧
      calls = (if s.shown then [.advanceCue] else []) ++ [.render r] := by
  cases h with
  | failed hcurrent hfault =>
    obtain ⟨r, hr⟩ := hanswers _ hcurrent
    rw [hfault] at hr
    cases hr
  | shown => exact ⟨_, rfl, rfl⟩

/-- A call keeps the order if the view can be told where to look when a conversation opens, and what
is on screen can be translated. -/
theorem Orderly.effect {w : Surroundings τ} {who : Option (String × Json)} {s s' : Session}
    {calls more : List ViewCall} (h : Orderly s calls) (heffect : Effect w who s s' more)
    (hsees : ∀ fault, s.active = false → s'.active = true → Engine.focus w s' ≠ .error fault)
    (hanswers : w.Answers s') : Orderly s' (calls ++ more) := by
  cases heffect with
  | kept =>
    rw [List.append_nil]
    exact h
  | opening hwho opens =>
    cases opens with
    | missed =>
      rw [List.append_nil]
      exact h
    | blind idle lines hfocus => exact absurd hfocus (hsees _ idle rfl)
    | entered idle lines hfocus renders =>
      obtain ⟨r, rfl, rfl⟩ := renders.of_answers hanswers
      exact ⟨(idle ▸ h.protocol).enter _ r, fun _ => rfl⟩
  | going active running npcId npcName shown renders =>
    obtain ⟨r, rfl, rfl⟩ := renders.of_answers hanswers
    rw [shown, h.shown active]
    refine ⟨?_, fun _ => rfl⟩
    rw [running.active]
    exact (active ▸ h.protocol).more r
  | ended active => exact ⟨(active ▸ h.protocol).ended _, nofun⟩

namespace Engine

variable {w : Surroundings τ} {e : Engine}

/-- A call that opens a conversation without a place for the view to look at. -/
def Blind (w : Surroundings τ) (c : Call) (e : Engine) : Prop :=
  e.session.active = false ∧ (c.perform w e).session.active = true ∧
    ∃ fault, focus w (c.perform w e).session = .error fault

/-- The view sees nothing of a conversation that is opened without a place to look at. -/
theorem viewCalls_of_blind (hw : w.ViewWorks) (hsound : e.session.Sound)
    (hstarting : e.starting = false) {c : Call} (h : Blind w c e) :
    (c.perform w e).viewCalls = e.viewCalls := by
  obtain ⟨hidle, hactive, fault, hfault⟩ := h
  obtain ⟨calls, heffect, hcalls, -⟩ := acts_perform hw hsound hstarting c
  generalize (c.perform w e).session = s' at heffect hactive hfault
  cases heffect with
  | kept => rw [hidle] at hactive; cases hactive
  | opening hwho opens =>
    cases opens with
    | missed => rw [hidle] at hactive; cases hactive
    | blind => rw [hcalls, List.append_nil]
    | entered idle lines hfocus renders =>
      obtain ⟨shown, rfl⟩ := renders.session_eq
      rw [focus_withShown, hfocus] at hfault
      cases hfault
  | going active => rw [hidle] at active; cases active
  | ended => cases hactive

theorem run_concat (steps : List (Surroundings τ × Call)) (w : Surroundings τ) (c : Call)
    (e : Engine) : run (steps ++ [(w, c)]) e = c.perform w (run steps e) := by
  simp [run, List.foldl_append]

/-- Before each call of a run the engine has its shape, and the view takes the call. -/
theorem shape_before {e₀ : Engine} (h : e₀.Fresh) {steps : List (Surroundings τ × Call)}
    (hview : ∀ step ∈ steps, step.1.ViewWorks) {before : List (Surroundings τ × Call)} {c : Call}
    (hbefore : before ++ [(w, c)] <+: steps) :
    before <+: steps ∧ w.ViewWorks ∧ (run before e₀).session.Sound ∧
      (run before e₀).starting = false := by
  have hearlier : before <+: steps := (List.prefix_append before _).trans hbefore
  have hshape : Shape (lastOpened before e₀ none) (run before e₀) :=
    Shape.run (.idle h.starting h.session) before fun step hstep =>
      hview step (hearlier.subset hstep)
  exact ⟨hearlier, hview (w, c) (hbefore.subset (by simp)), hshape.sound, hshape.starting⟩

/-- Unless a conversation is opened blindly, what the view sees stays in order. -/
theorem orderly_run {e₀ : Engine} (h : e₀.Fresh) (hcalls : e₀.viewCalls = [])
    (steps : List (Surroundings τ × Call)) (hview : ∀ step ∈ steps, step.1.ViewWorks)
    (hanswers : ∀ before w c, before ++ [(w, c)] <+: steps →
      w.Answers (run (before ++ [(w, c)]) e₀).session)
    (hsees : ∀ before w c, before ++ [(w, c)] <+: steps → ¬ Blind w c (run before e₀))
    (before : List (Surroundings τ × Call)) (hbefore : before <+: steps) :
    Orderly (run before e₀).session (run before e₀).viewCalls := by
  induction before using List.reverseRecOn with
  | nil =>
    change Orderly e₀.session e₀.viewCalls
    rw [h.session, hcalls]
    exact ⟨.nil, nofun⟩
  | append_singleton before step ih =>
    obtain ⟨w, c⟩ := step
    obtain ⟨hearlier, hw, hsound, hstarting⟩ := shape_before h hview hbefore
    obtain ⟨calls, heffect, hcalls, -⟩ := acts_perform hw hsound hstarting c
    have hblind := hsees before w c hbefore
    have hanswers := hanswers before w c hbefore
    rw [run_concat] at hanswers ⊢
    rw [hcalls]
    refine (ih hearlier).effect heffect ?_ hanswers
    intro fault hidle hactive hfault
    exact hblind ⟨hidle, hactive, fault, hfault⟩

/-- While the translator answers, what the view sees is in order throughout a run if and only if no
call of the run opens a conversation without a place for the view to look at. -/
theorem protocol_iff {e₀ : Engine} (h : e₀.Fresh) (hcalls : e₀.viewCalls = [])
    (steps : List (Surroundings τ × Call)) (hview : ∀ step ∈ steps, step.1.ViewWorks)
    (hanswers : ∀ before w c, before ++ [(w, c)] <+: steps →
      w.Answers (run (before ++ [(w, c)]) e₀).session) :
    (∀ before, before <+: steps →
      Protocol (run before e₀).session.active (run before e₀).viewCalls) ↔
    ∀ before w c, before ++ [(w, c)] <+: steps → ¬ Blind w c (run before e₀) := by
  constructor
  · intro hprotocol before w c hbefore hblind
    obtain ⟨hearlier, hw, hsound, hstarting⟩ := shape_before h hview hbefore
    have hunseen := viewCalls_of_blind hw hsound hstarting hblind
    have hclosed := hprotocol before hearlier
    have hopen := hprotocol (before ++ [(w, c)]) hbefore
    rw [hblind.1] at hclosed
    rw [run_concat, hblind.2.1, hunseen] at hopen
    exact not_protocol_of_protocol hclosed hopen
  · intro hsees before hbefore
    exact (orderly_run h hcalls steps hview hanswers hsees before hbefore).protocol

theorem protocol_of_visits :
    (∀ before, before <+: visits →
      Protocol (run before visitor).session.active (run before visitor).viewCalls) ∧
    (run visits visitor).viewCalls.map ViewCall.name =
      ["enter", "render", "advance_cue", "render", "end_cue", "exit", "cooldown"] := by
  have hplain : ∀ step ∈ visits,
      step.1.viewFault = (fun _ => none) ∧ step.1.translator = .none ∧ step.1.positions = none := by
    intro step hstep
    simp only [visits, List.mem_cons, List.not_mem_nil, or_false] at hstep
    rcases hstep with rfl | rfl | rfl | rfl <;> exact ⟨rfl, rfl, rfl⟩
  have hfresh : visitor.Fresh := fresh_start _
  have hiff := protocol_iff hfresh rfl visits
    (fun step hstep c => by rw [(hplain step hstep).1])
    (fun before w c hbefore =>
      (World.translates_of_none (hplain (w, c) (hbefore.subset (by simp))).2.1).answers _)
  refine ⟨hiff.mpr ?_, rfl⟩
  rintro before w c hbefore ⟨-, -, fault, hfault⟩
  have hnowhere : w.positions = none := (hplain (w, c) (hbefore.subset (by simp))).2.2
  simp only [focus, hnowhere] at hfault
  cases hfault

/-- So far away that the sum of two such coordinates is beyond all numbers. -/
def farAway : Position := ⟨.double (.ofDecimal false 1 308), 0, .null⟩

def farGate : World :=
  { World.plain gift with positions := some ⟨some farAway, [("gate", farAway)]⟩ }

theorem focus_farGate (r : Resolution) :
    focus farGate (.opened "gate" .null r) = .error .infiniteInteger := by
  have hsum : (Double.ofDecimal false 1 308).add (.ofDecimal false 1 308) = .infinite false := by
    decide +kernel
  have hmiddle : farAway.x.middle farAway.x = .error .infiniteInteger := by
    simp only [farAway, Number.middle, Number.add, hsum]
    rfl
  have hbetween : farAway.between farAway = .error .infiniteInteger := by
    unfold Position.between
    rw [hmiddle]
    rfl
  have hthere : focus farGate (.opened "gate" .null r) = (farAway.between farAway).map some := rfl
  rw [hthere, hbetween]
  rfl

/-- At the far gate the engine plays, and the view is shown the second line of a conversation that
it has never entered. -/
theorem not_protocol_farGate :
    ¬ Protocol (run [(farGate, .start "gate" .null)] visitor).session.active
        (run [(farGate, .start "gate" .null)] visitor).viewCalls ∧
      (run [(farGate, .start "gate" .null), (farGate, .turn .advance)] visitor).viewCalls.map
        ViewCall.name = ["render"] := by
  have hview : farGate.ViewWorks := fun _ => rfl
  have hdocument : farGate.document "gate" = .ok (some gift) := rfl
  have hresolved : gift.resolve farGate.supply visitor.stock =
    (⟨gift.lines.getD [], gift.actions.getD []⟩, visitor.stock) := rfl
  have hlines : gift.lines.getD [] ≠ [] := List.cons_ne_nil _ _
  have hopened : (converse farGate "gate" .null visitor).2 = { visitor.asked with
      session := .opened "gate" .null ⟨gift.lines.getD [], gift.actions.getD []⟩ } := by
    rw [converse_of_free rfl rfl, hdocument]
    dsimp only
    rw [hresolved, if_neg hlines, present_eq hview, focus_farGate]
    rfl
  have hfirst : run [(farGate, .start "gate" .null)] visitor =
    (converse farGate "gate" .null visitor).2 := rfl
  have hsecond : run [(farGate, .start "gate" .null), (farGate, .turn .advance)] visitor =
    (advance farGate (converse farGate "gate" .null visitor).2).2 := rfl
  rw [hfirst, hsecond, hopened]
  exact ⟨not_protocol_of_protocol .nil, rfl⟩

end Engine
end Parley
