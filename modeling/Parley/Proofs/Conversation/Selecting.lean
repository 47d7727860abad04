import Parley.Proofs.Conversation.Bookkeeping
import Parley.Proofs.Conversation.Calm
import Parley.Proofs.Conversation.Ending

/-!
# What selecting a choice does

A choice that is on the current line replaces the line by what was shown of the choice, puts what it
resolves to after it, and shows the line again. Whatever happened before, what was shown is the
choice's text as it is translated now, and until the conversation goes on no other choice can be
selected.
-/

namespace Parley

/-- What is on display after a call of the view: a line stays there until a cue leads to the next
one, or until another conversation is entered. -/
def ViewCall.display (before : Option RenderLine) : ViewCall → Option RenderLine
  | .render shown => some shown
  | .advanceCue => none
  | .enter _ => none
  | .exit => before
  | .cooldown _ => before
  | .endCue => before

variable {τ : Type}

/-- How a view takes a line, after a cue or without one: it may fail at the cue, or at the line. -/
inductive Presented (w : Surroundings τ) (cue : Bool) (shown : RenderLine) :
    Except Fault Unit → List ViewCall → Prop where
  | cut {fault : Fault} (hcue : cue = true) (hfails : w.viewFault .advanceCue = some fault) :
    Presented w cue shown (.error fault) [.advanceCue]
  | taken (hworks : cue = true → w.viewFault .advanceCue = none) :
    Presented w cue shown (Engine.outcomeAt w shown)
      ((if cue then [.advanceCue] else []) ++ [.render shown])

namespace Engine

def display (e : Engine) : Option RenderLine := e.viewCalls.foldl ViewCall.display none

/-- The engine after calls of the view to show its line. -/
def shownBy (calls : List ViewCall) (e : Engine) : Engine :=
  { e with
    session := { e.session with shown := true }
    events := e.events ++ calls.map Event.view }

theorem viewCalls_shownBy (calls : List ViewCall) (e : Engine) :
    (e.shownBy calls).viewCalls = e.viewCalls ++ calls := by
  have hcalls : (calls.map Event.view).filterMap Event.viewCall? = calls := by
    induction calls with
    | nil => rfl
    | cons c rest ih => exact congrArg (c :: ·) ih
  rw [viewCalls, shownBy, List.filterMap_append, hcalls, viewCalls]

theorem display_record (c : ViewCall) (e : Engine) :
    (e.record (.view c)).display = c.display e.display := by
  rw [display, viewCalls_record_view, List.foldl_append]
  rfl

theorem display_shownBy (calls : List ViewCall) (e : Engine) :
    (e.shownBy calls).display = calls.foldl ViewCall.display e.display := by
  rw [display, viewCalls_shownBy, List.foldl_append]
  rfl

variable [Translation τ] {w w' : Surroundings τ} {e e' : Engine}

theorem renderCurrent_presented {l : Line} {shown : RenderLine}
    (hcurrent : e.session.current? = some l) (hshown : renderLine w e.session l = .ok shown) :
    ∃ outcome calls, renderCurrent w e = (outcome, e.shownBy calls) ∧
      Presented w e.session.shown shown outcome calls := by
  simp only [renderCurrent, Play.bind_apply, Play.get_apply, hcurrent, Play.lift_apply, hshown]
  obtain ⟨⟨npcId, npcName, lines, index, pending, active, cue⟩, starting, stock, bus, requests,
    events⟩ := e
  cases cue with
  | false =>
    refine ⟨_, _, ?_, .taken fun hcue => absurd hcue Bool.false_ne_true⟩
    simp [Play.bind_apply, call_render, shownBy, record]
  | true =>
    cases hcue : w.viewFault .advanceCue with
    | some fault =>
      refine ⟨_, _, ?_, .cut rfl hcue⟩
      simp [Play.bind_apply, call, hcue, shownBy, record]
    | none =>
      have hcall (e : Engine) : call w .advanceCue e = (.ok (), e.record (.view .advanceCue)) := by
        simp only [call, hcue]
      refine ⟨_, _, ?_, .taken fun _ => hcue⟩
      simp [Play.bind_apply, hcall, call_render, shownBy, record]

end Engine

/-- A translator that does not fail, and answers every text as another does. -/
structure Surroundings.AnswersAs [Translation τ] (w' w : Surroundings τ) : Prop where
  translates : w'.Translates
  text : ∀ key text, Translation.translateText w'.translator key text =
    Translation.translateText w.translator key text

namespace Engine

variable [Translation τ] {w w' : Surroundings τ} {e e' : Engine} {works : Prop}

theorem replyText_congr (h : w'.AnswersAs w) (c : Choice) : replyText w' c = replyText w c := by
  unfold replyText localize
  rw [h.text]

/-- An engine whose current line, once a line of the conversation was shown, is on display if any
line is, with its choices as they are translated now; and it is if the view never failed. -/
structure Displays (w : Surroundings τ) (works : Prop) (e : Engine) : Prop where
  sound : e.session.Sound
  starting : e.starting = false
  options : e.session.shown = true → ∀ shown, e.display = some shown →
    ∃ l, e.session.current? = some l ∧
      shown.options.getD [] = (l.options.getD []).map fun c => ⟨c.id, replyText w c⟩
  there : works → e.session.shown = true → ∃ shown, e.display = some shown

namespace Displays

theorem of_same (h : Displays w works e) (hsession : e'.session = e.session)
    (hstarting : e'.starting = e.starting) (hdisplay : e'.display = e.display) :
    Displays w works e' := by
  obtain ⟨hsound, hfree, hoptions, hthere⟩ := h
  constructor <;> simp only [hsession, hstarting, hdisplay]
  · exact hsound
  · exact hfree
  · exact hoptions
  · exact hthere

theorem of_offstage (h : Displays w works e) (hoffstage : Offstage e e') : Displays w works e' := by
  refine h.of_same hoffstage.session hoffstage.starting ?_
  unfold display
  rw [hoffstage.viewCalls]

theorem of_unshown (hsound : e.session.Sound) (hstarting : e.starting = false)
    (hshown : e.session.shown = false) : Displays w works e := by
  refine ⟨hsound, hstarting, ?_, ?_⟩
  all_goals
    rw [hshown]
    nofun

theorem renderCurrent (hw : w'.AnswersAs w) (hworks : works → w'.ViewWorks)
    (hrunning : e.session.Running) (hstarting : e.starting = false) :
    Displays w works (Engine.renderCurrent w' e).2 := by
  obtain ⟨l, hcurrent⟩ := hrunning.current
  obtain ⟨shown, hshown⟩ := hw.translates.answers e.session l hcurrent
  obtain ⟨outcome, calls, hrender, hpresented⟩ := renderCurrent_presented hcurrent hshown
  rw [hrender]
  refine ⟨.inr (hrunning.withShown true), hstarting, ?_, ?_⟩ <;> rw [display_shownBy]
  · intro _ r hr
    cases hpresented with
    | cut => cases hr
    | taken =>
      rw [List.foldl_append] at hr
      obtain rfl := Option.some.inj hr
      refine ⟨l, hcurrent, ?_⟩
      simpa only [replyText_congr hw] using options_of_renderLine hshown
  · intro hall _
    cases hpresented with
    | cut _ hfails =>
      rw [hworks hall] at hfails
      cases hfails
    | taken =>
      rw [List.foldl_append]
      exact ⟨shown, rfl⟩

theorem record (h : Displays w works e) {c : ViewCall} (hc : ∀ before, c.display before = before) :
    Displays w works (e.record (.view c)) :=
  h.of_same rfl rfl ((display_record c e).trans (hc _))

theorem teardown (h : Displays w works e) : Displays w works (Engine.teardown w' e).2 := by
  have hexit := h.record (c := .exit) fun _ => rfl
  have hcooldown := hexit.record (c := .cooldown w'.settings.interactionCooldown) fun _ => rfl
  simp only [Engine.teardown, Play.bind_apply, call]
  cases w'.viewFault .exit with
  | some fault => exact hexit
  | none =>
    dsimp only
    cases w'.viewFault (.cooldown w'.settings.interactionCooldown) with
    | some fault => exact hcooldown
    | none => exact .of_unshown (.inl rfl) h.starting rfl

theorem conclude (h : Displays w works e) (supply : Supply) (actions : List Action) :
    Displays w works (Engine.conclude (executeActions supply) w' actions e).2 := by
  have hcue := h.record (c := .endCue) fun _ => rfl
  simp only [Engine.conclude, Play.bind_apply, call]
  cases w'.viewFault .endCue with
  | some fault => exact hcue
  | none =>
    dsimp only
    rw [Play.followedBy_snd]
    exact (hcue.of_offstage (offstage_executeActions supply actions _)).teardown

theorem advance (hw : w'.AnswersAs w) (hworks : works → w'.ViewWorks) (h : Displays w works e) :
    Displays w works (Engine.advance w' e).2 := by
  cases hactive : e.session.active with
  | false =>
    rw [Engine.advance, advanceWith_of_idle hactive]
    exact h
  | true =>
    have hrunning := h.sound.running hactive
    cases hlast : e.session.isLast with
    | false =>
      rw [Engine.advance, advanceWith_of_not_isLast hactive hrunning.lines_ne_nil hlast]
      exact renderCurrent hw hworks (hrunning.next hlast) h.starting
    | true =>
      rw [Engine.advance, advanceWith_of_isLast hactive hrunning.lines_ne_nil hlast]
      exact h.conclude w'.supply e.session.pending

theorem select (hw : w'.AnswersAs w) (hworks : works → w'.ViewWorks) (h : Displays w works e)
    (id : String) : Displays w works (Engine.select w' id e).2 := by
  cases hoffered : e.offered id with
  | none =>
    rw [select_of_not_offered hoffered]
    exact h
  | some p =>
    obtain ⟨l, c⟩ := p
    rw [select_of_offered hoffered]
    cases localize w' c.textKey c.text with
    | error fault => exact h
    | ok text =>
      have hrunning := h.sound.running (of_offered hoffered).1
      exact renderCurrent hw hworks (running_answered w'.supply l c text hrunning) h.starting

theorem present (hw : w'.AnswersAs w) (hworks : works → w'.ViewWorks)
    (hrunning : e.session.Running) (hstarting : e.starting = false)
    (hshown : e.session.shown = false) : Displays w works (Engine.present w' e).2 := by
  have hopened : Displays w works e := .of_unshown (.inr hrunning) hstarting hshown
  simp only [Engine.present, Play.bind_apply, Play.get_apply, Play.lift_apply]
  cases focus w' e.session with
  | error fault => exact hopened
  | ok point =>
    simp only [call]
    cases w'.viewFault (.enter point) with
    | some fault => exact .of_unshown (.inr hrunning) hstarting hshown
    | none => exact renderCurrent hw hworks hrunning hstarting

theorem converse (hw : w'.AnswersAs w) (hworks : works → w'.ViewWorks) (h : Displays w works e)
    (npcId : String) (npcName : Json) :
    Displays w works (Engine.converse w' npcId npcName e).2 := by
  cases hactive : e.session.active with
  | true =>
    rw [converse_of_busy (.inl hactive)]
    exact h
  | false =>
    rw [converse_of_free hactive h.starting]
    split
    · exact h.of_same rfl rfl rfl
    · exact h.of_same rfl rfl rfl
    · rename_i d _
      dsimp only
      split
      · exact h.of_same rfl rfl rfl
      · next hlines =>
        exact present hw hworks (Session.running_opened npcId npcName hlines) h.starting rfl

theorem interact (hw : w'.AnswersAs w) (hworks : works → w'.ViewWorks) (h : Displays w works e)
    (npcId : String) (npcName : Json) : Displays w works (Engine.interact w' npcId npcName e) := by
  refine Bus.dispatch_rel (R := fun e e' => Displays w works e → Displays w works e')
    (fun _ h => h) (fun h h' hs => h' (h hs)) ?_ _ e h
  intro l e h
  cases l with
  | manager =>
    simp only [hearInteraction]
    split
    · exact h
    · exact h.converse hw hworks npcId npcName
  | recorder => exact h
  | relay news => exact h

theorem perform (hw : w'.AnswersAs w) (hworks : works → w'.ViewWorks) (h : Displays w works e)
    (d : Deed) : Displays w works (d.perform w' e) := by
  cases d with
  | call c =>
    cases c with
    | start npcId npcName => exact h.converse hw hworks npcId npcName
    | turn t =>
      cases t with
      | advance => exact h.advance hw hworks
      | select id => exact h.select hw hworks id
      | news inventory => exact h.of_offstage (offstage_publishInventory inventory e)
    | interact npcId npcName => exact h.interact hw hworks npcId npcName
    | destroy => exact h.of_same rfl rfl rfl
  | together npcs =>
    cases hactive : e.session.active with
    | true =>
      rw [Deed.perform, converseAll_of_busy (.inl hactive)]
      exact h
    | false =>
      cases npcs with
      | nil => exact h
      | cons npcId rest =>
        rw [Deed.perform, converseAll_of_free hactive h.starting]
        exact h.converse hw hworks npcId .null
  | listen => exact h.of_same rfl rfl rfl
  | equip name item => exact h.of_same rfl rfl rfl

end Displays

theorem displays_afterDeeds (h : e.Fresh) {steps : List (Surroundings τ × Deed)}
    (hsteps : ∀ step ∈ steps, step.1.AnswersAs w) :
    Displays w (∀ step ∈ steps, step.1.ViewWorks) (e.afterDeeds steps) := by
  have hrun : ∀ {works : Prop} {e : Engine}, (works → ∀ step ∈ steps, step.1.ViewWorks) →
      Displays w works e → Displays w works (e.afterDeeds steps) := by
    induction steps with
    | nil => exact fun _ h => h
    | cons step rest ih =>
      obtain ⟨hfirst, hrest⟩ := List.forall_mem_cons.mp hsteps
      intro works e hworks h
      exact ih hrest (fun hall => (List.forall_mem_cons.mp (hworks hall)).2)
        (h.perform hfirst (fun hall => (List.forall_mem_cons.mp (hworks hall)).1) step.2)
  have hidle : e.session.shown = false := by rw [h.session]; rfl
  exact hrun id (.of_unshown (.inl h.session) h.starting hidle)

/-- No advance among deeds has an effect on the session that it finds. -/
def Standstill (steps : List (Surroundings τ × Deed)) (e : Engine) : Prop :=
  ∀ before w after, steps = before ++ (w, .call (.turn .advance)) :: after →
    (advance w (e.afterDeeds before)).2.session = (e.afterDeeds before).session

theorem offered_congr (h : e'.session = e.session) (id : String) :
    e'.offered id = e.offered id := by
  unfold offered
  rw [h]

theorem interact_of_busy (h : e.session.active = true) (npcId : String) (npcName : Json) :
    interact w npcId npcName e = e := by
  refine Bus.dispatch_rel (R := fun e e' => e.session.active = true → e' = e)
    (fun _ _ => rfl) ?_ ?_ _ e h
  · intro e e' e'' h h' hactive
    obtain rfl := h hactive
    exact h' hactive
  · intro l e hactive
    cases l with
    | manager =>
      simp only [hearInteraction, converse_of_busy (.inl hactive)]
      split <;> rfl
    | recorder => rfl
    | relay news => rfl

/-- A conversation whose line has nothing to select stays as it is until it goes on. -/
theorem session_of_standstill (hactive : e.session.active = true)
    (hspent : ∀ id, e.offered id = none) {steps : List (Surroundings τ × Deed)}
    (h : e.Standstill steps) : (e.afterDeeds steps).session = e.session := by
  induction steps generalizing e with
  | nil => rfl
  | cons step rest ih =>
    obtain ⟨w, d⟩ := step
    have hkept : (d.perform w e).session = e.session := by
      cases d with
      | call c =>
        cases c with
        | start npcId npcName =>
          rw [Deed.perform, Call.perform, converse_of_busy (.inl hactive)]
        | turn t =>
          cases t with
          | advance => exact h [] w rest rfl
          | select id =>
            rw [Deed.perform, Call.perform, Turn.perform, select_of_not_offered (hspent id)]
          | news inventory => exact (offstage_publishInventory inventory e).session
        | interact npcId npcName => rw [Deed.perform, Call.perform, interact_of_busy hactive]
        | destroy => rfl
      | together npcs => rw [Deed.perform, converseAll_of_busy (.inl hactive)]
      | listen => rfl
      | equip name item => rfl
    have hrest : (d.perform w e).Standstill rest := by
      intro before w' after hsplit
      exact h ((w, d) :: before) w' after (congrArg ((w, d) :: ·) hsplit)
    refine (ih (hkept ▸ hactive) (fun id => ?_) hrest).trans hkept
    rw [offered_congr hkept, hspent]

/-- The choice was selected of the current line. -/
structure Selected (w : Surroundings τ) (l : Line) (c : Choice) (text : String) (e : Engine)
    (outcome : Except Fault Unit) (e' : Engine) : Prop where
  /-- The line has become the answer, what the choice resolves to follows it, and nothing else of
  the session is different. -/
  session : ∃ front back, e.session.lines = front ++ l :: back ∧ e.session.index = front.length ∧
    e'.session = { e.session with
      lines := front ++ ⟨l.speaker, text, .null, l.emotion, l.name, l.nameKey, none, .bool false⟩ ::
        ((c.resolve w.supply e.stock).1.lines ++ back)
      pending := e.session.pending ++ (c.resolve w.supply e.stock).1.actions
      shown := true }
  /-- The inventory is known if it was looked at. -/
  stock : e'.stock = (c.resolve w.supply e.stock).2
  others : e'.starting = e.starting ∧ e'.bus = e.bus ∧ e'.requests = e.requests
  /-- The line is shown again, as far as the view takes it. -/
  shown : ∃ answer shown calls, e'.session.current? = some answer ∧
    renderLine w e'.session answer = .ok shown ∧ shown.text = text ∧ shown.options.getD [] = [] ∧
    Presented w e.session.shown shown outcome calls ∧ e'.events = e.events ++ calls.map .view
  /-- Until the conversation goes on, no other choice is selected. -/
  spent : ∀ later : List (Surroundings τ × Deed), e'.Standstill later →
    ∀ (w' : Surroundings τ) (id : String),
      select w' id (e'.afterDeeds later) = (.ok (), e'.afterDeeds later)

theorem offered_eq_none {id : String} (h : e.session.active = false ∨
    ∀ l, e.session.current? = some l → ∀ c ∈ l.options.getD [], c.id ≠ id) :
    e.offered id = none := by
  unfold offered
  cases hactive : e.session.active with
  | false => rfl
  | true =>
    rw [hactive] at h
    have hothers := h.resolve_left nofun
    cases hcurrent : e.session.current? with
    | none => rfl
    | some l =>
      have hnone : (l.options.getD []).find? (·.id == id) = none := by
        rw [List.find?_eq_none]
        intro c hc
        simpa using hothers l hcurrent c hc
      simp [hnone]

theorem offered_of_split {id : String} {l : Line} {before after : List Choice} {c : Choice}
    (hactive : e.session.active = true) (hcurrent : e.session.current? = some l)
    (hoptions : l.options = some (before ++ c :: after))
    (hbefore : ∀ earlier ∈ before, earlier.id ≠ id) (hid : c.id = id) :
    e.offered id = some (l, c) := by
  have hfirst : (before ++ c :: after).find? (·.id == id) = some c := by
    rw [List.find?_eq_some_iff_append]
    exact ⟨by simp [hid], before, after, rfl, fun earlier h => by simpa using hbefore earlier h⟩
  simp [offered, hactive, hcurrent, hoptions, hfirst]

theorem selected_of_offered (hw : w.Translates) (hsound : e.session.Sound) {id : String} {l : Line}
    {c : Choice} (hoffered : e.offered id = some (l, c)) :
    ∃ text, localize w c.textKey c.text = .ok text ∧
      Selected w l c text e (select w id e).1 (select w id e).2 := by
  obtain ⟨hactive, hcurrent, -⟩ := of_offered hoffered
  have hrunning := hsound.running hactive
  obtain ⟨text, htext⟩ := exists_localize (fun _ => hw.tells c.textKey) c.text
  have hanswer := current?_answered hrunning hcurrent w.supply c text
  obtain ⟨shown, hshown⟩ := hw.answers _ _ hanswer
  obtain ⟨outcome, calls, hrender, hpresented⟩ := renderCurrent_presented hanswer hshown
  obtain ⟨front, l', back, hlines, hindex, hl'⟩ := hrunning.exists_split
  obtain rfl := Option.some.inj (hl'.symm.trans hcurrent)
  have hselect : select w id e = (outcome, (e.answered w.supply l' c text).shownBy calls) := by
    rw [select_of_offered hoffered, htext]
    exact hrender
  rw [hselect]
  obtain ⟨-, hshownText, -⟩ := parts_of_renderLine hshown
  refine ⟨text, htext, ?_, rfl, ⟨rfl, rfl, rfl⟩, ?_, ?_⟩
  · refine ⟨front, back, hlines, hindex, ?_⟩
    simp only [shownBy, answered, hlines, hindex, Int.toNat_natCast, spliceAfter_set]
    rfl
  · refine ⟨_, shown, calls, hanswer, hshown, (Except.ok.inj hshownText).symm, ?_, hpresented, rfl⟩
    rw [options_of_renderLine hshown]
    rfl
  · intro later hstill w' id'
    have hspent (id : String) :
        ((e.answered w.supply l' c text).shownBy calls).offered id = none := by
      refine offered_eq_none (.inr fun l'' hl'' => ?_)
      obtain rfl := Option.some.inj (hanswer.symm.trans hl'')
      exact List.forall_mem_nil _
    have hactive' : ((e.answered w.supply l' c text).shownBy calls).session.active = true :=
      hactive
    have hkept := session_of_standstill hactive' hspent hstill
    rw [select_of_not_offered ((offered_congr hkept id').trans (hspent id'))]

/-- What selecting does after any deeds, whatever failed in them but the translator. Without a
conversation, or without a choice of this id on the current line, nothing happens. Otherwise the
first choice of the id is selected, and the line becomes the text that was shown of it. -/
theorem select_effect {e₀ : Engine} (hfresh : e₀.Fresh) {steps : List (Surroundings τ × Deed)}
    (hsteps : ∀ step ∈ steps, step.1.AnswersAs w) (hw : w.Translates) (id : String) :
    let e := e₀.afterDeeds steps
    ((e.session.active = false ∨
        ∀ l, e.session.current? = some l → ∀ c ∈ l.options.getD [], c.id ≠ id) →
      select w id e = (.ok (), e)) ∧
    ∀ l before c after, e.session.active = true → e.session.current? = some l →
      l.options = some (before ++ c :: after) → (∀ earlier ∈ before, earlier.id ≠ id) → c.id = id →
      ∃ text, localize w c.textKey c.text = .ok text ∧
        (e.session.shown = true → ∀ shown, e.display = some shown →
          (shown.options.getD [])[before.length]? = some ⟨id, text⟩) ∧
        ((∀ step ∈ steps, step.1.ViewWorks) → e.session.shown = true →
          ∃ shown, e.display = some shown) ∧
        Selected w l c text e (select w id e).1 (select w id e).2 := by
  intro e
  have hdisplays := displays_afterDeeds hfresh hsteps
  refine ⟨fun h => select_of_not_offered (offered_eq_none h), ?_⟩
  intro l before c after hactive hcurrent hoptions hbefore hid
  have hoffered := offered_of_split hactive hcurrent hoptions hbefore hid
  obtain ⟨text, htext, hselected⟩ := selected_of_offered hw hdisplays.sound hoffered
  refine ⟨text, htext, ?_, hdisplays.there, hselected⟩
  intro hshown shown hdisplay
  obtain ⟨l', hl', hchoices⟩ := hdisplays.options hshown shown hdisplay
  obtain rfl := Option.some.inj (hl'.symm.trans hcurrent)
  have hreply : replyText w c = text := by simp only [replyText, htext]
  rw [hchoices, hoptions]
  simp [hreply, hid]

/-- A line at which two choices go by one name. -/
def parting : Line :=
  .said "Which way?" (some [⟨"left", "Left.", .null, none, none, none⟩,
    ⟨"right", "Right.", .null, some [.said "Mind the step." none], none, none⟩,
    ⟨"right", "Up.", .null, none, none, none⟩])

/-- Surroundings in which everyone asks the way. -/
def wayside : World :=
  .plain ⟨"gate", some [parting, .said "Farewell." none], none, none⟩

theorem select_at_parting :
    let e := visitor.afterDeeds [(wayside, .call (.start "gate" .null))]
    select wayside "up" e = (.ok (), e) ∧
      (select wayside "right" e).2.session.lines.length = 3 ∧
      ∃ c shown, Selected wayside parting c "Right." e (select wayside "right" e).1
          (select wayside "right" e).2 ∧
        e.display = some shown ∧ (shown.options.getD [])[1]? = some ⟨"right", "Right."⟩ := by
  intro e
  have hcurrent : e.session.current? = some parting := rfl
  have hfresh : visitor.Fresh := fresh_start _
  have hw : wayside.Translates := World.translates_of_none rfl
  have hsteps : ∀ step ∈ [(wayside, Deed.call (.start "gate" .null))],
      step.1.AnswersAs wayside := by
    intro step hstep
    obtain rfl := List.mem_singleton.mp hstep
    exact ⟨hw, fun _ _ => rfl⟩
  have hview : ∀ step ∈ [(wayside, Deed.call (.start "gate" .null))], step.1.ViewWorks := by
    intro step hstep
    obtain rfl := List.mem_singleton.mp hstep
    exact fun _ => rfl
  have hup := (select_effect hfresh hsteps hw "up").1
  obtain ⟨text, htext, hoptions, hthere, hselected⟩ :=
    (select_effect hfresh hsteps hw "right").2 parting [_] _ [_] rfl hcurrent rfl
      (by decide) rfl
  obtain ⟨shown, hdisplay⟩ := hthere hview rfl
  obtain rfl : "Right." = text := Except.ok.inj htext
  refine ⟨hup (.inr ?_), rfl, _, shown, hselected, hdisplay, hoptions rfl shown hdisplay⟩
  intro l hl
  obtain rfl := Option.some.inj (hcurrent.symm.trans hl)
  decide

end Engine

end Parley
