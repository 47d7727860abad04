import Parley.Proofs.Conversation.Calls
import Parley.Proofs.Conversation.Recital
import Parley.Proofs.Conversation.Rendering
import Parley.Proofs.Dialogue.Resolution

/-!
# Playback follows the recital

An engine keeps one flat list of lines and a place in it, and splices in place what a choice leads
to. What it shows and what it hands to its executor are those of the recital of the document: behind
the line on screen, the list holds what the recital has still to go through.
-/

namespace Parley

/-- What is put after a line that was replaced stands between it and the lines after it. -/
theorem spliceAfter_set {α : Type} (read rest new : List α) (a b : α) :
    spliceAfter read.length new ((read ++ a :: rest).set read.length b) =
      read ++ b :: (new ++ rest) := by
  have hset : (read ++ a :: rest).set read.length b = read ++ b :: rest := by
    rw [List.set_append_right _ _ (Nat.le_refl _)]
    simp
  have htake : (read ++ b :: rest).take (read.length + 1) = read ++ [b] := by
    rw [List.take_append, List.take_of_length_le (Nat.le_succ _)]
    simp
  have hdrop : (read ++ b :: rest).drop (read.length + 1) = rest := by
    simp [List.drop_append]
  rw [spliceAfter, hset, htake, hdrop]
  simp

namespace Engine

variable {τ : Type} {w : Surroundings τ}

/-- The line on screen, and the lines that the list holds after it. -/
structure Showing (e : Engine) (l : Line) (rest : List Line) : Prop where
  active : e.session.active = true
  shown : e.session.shown = true
  place : ∃ read, e.session.lines = read ++ l :: rest ∧ e.session.index = read.length

namespace Showing

variable {e : Engine} {l : Line} {rest : List Line}

theorem of_session {e' : Engine} (h : Showing e l rest) (hs : e'.session = e.session) :
    Showing e' l rest :=
  ⟨hs ▸ h.active, hs ▸ h.shown, hs ▸ h.place⟩

theorem lines_ne_nil (h : Showing e l rest) : e.session.lines ≠ [] := by
  obtain ⟨read, hlines, -⟩ := h.place
  simp [hlines]

theorem current (h : Showing e l rest) : e.session.current? = some l := by
  obtain ⟨read, hlines, hindex⟩ := h.place
  simp [Session.current?, hlines, hindex]

theorem isLast_iff (h : Showing e l rest) : e.session.isLast = true ↔ rest = [] := by
  obtain ⟨read, hlines, hindex⟩ := h.place
  simp only [Session.isLast, hlines, hindex, decide_eq_true_eq, List.length_append,
    List.length_cons]
  rw [← List.length_eq_zero_iff]
  omega

theorem offered (h : Showing e l rest) (id : String) :
    e.offered id = ((l.options.getD []).find? (·.id == id)).map fun choice => (l, choice) := by
  simp only [Engine.offered, h.active, if_true, h.current]
  cases hfind : (l.options.getD []).find? (·.id == id) <;> simp [hfind]

theorem current_next {l' : Line} (h : Showing e l (l' :: rest)) :
    e.next.session.current? = some l' := by
  obtain ⟨read, hlines, hindex⟩ := h.place
  have hle : (0 : Int) ≤ read.length + 1 := by omega
  simp [next, Session.current?, hlines, hindex, hle]

theorem next {l' : Line} (h : Showing e l (l' :: rest)) (shown : RenderLine) :
    Showing (e.next.showing shown) l' rest := by
  obtain ⟨read, hlines, hindex⟩ := h.place
  refine ⟨h.active, rfl, read ++ [l], ?_, ?_⟩
  · simp [Engine.next, hlines]
  · simp [Engine.next, hindex]

/-- Behind an answer stands what the choice resolves to, and then what stood behind the line. -/
theorem answered (hfetch : w.supply.FetchWorks) (h : Showing e l rest) (choice : Choice)
    (text : String) (shown : RenderLine) :
    Showing ((e.answered w.supply l choice text).showing shown) (l.answered text)
      ((choice.resolveOn (some e.stock.known)).lines ++ rest) := by
  obtain ⟨read, hlines, hindex⟩ := h.place
  obtain ⟨hresolved, -⟩ := choice.resolve_eq (e.stock.offers_known hfetch)
  refine ⟨h.active, rfl, read, ?_, hindex⟩
  simp only [session_showing, Engine.answered, hresolved, hlines, hindex, Int.toNat_natCast]
  exact spliceAfter_set read rest _ l (l.answered text)

end Showing

theorem pending_answered (hfetch : w.supply.FetchWorks) (l : Line) (choice : Choice) (text : String)
    (e : Engine) :
    (e.answered w.supply l choice text).session.pending =
      e.session.pending ++ (choice.resolveOn (some e.stock.known)).actions := by
  simp only [answered, (choice.resolve_eq (e.stock.offers_known hfetch)).1]

theorem rendered_showing (shown : RenderLine) (e : Engine) :
    (e.showing shown).rendered = e.rendered ++ [shown] := by
  unfold rendered
  rw [viewCalls_showing]
  cases e.session.shown <;> simp [List.filterMap_cons, ViewCall.rendered?]

/-- The engine after some inventories were published. -/
def hearAll (news : List (Option Snapshot)) (e : Engine) : Engine :=
  news.foldl (fun e inventory => e.publishInventory inventory) e

theorem offstage_hearAll (news : List (Option Snapshot)) (e : Engine) :
    Offstage e (hearAll news e) := by
  induction news generalizing e with
  | nil => exact .refl e
  | cons inventory news ih => exact .trans (offstage_publishInventory inventory e) (ih _)

theorem rendered_conclude (hview : w.ViewWorks) (actions : List Action) (e : Engine) :
    (conclude (executeActions w.supply) w actions e).2.rendered = e.rendered := by
  rw [rendered, viewCalls_conclude hview, List.filterMap_append]
  exact List.append_nil _

variable [Translation τ]

/-- The moves of a turn, with the inventory that the engine knows at that moment. -/
def movesIn (e : Engine) : Turn → List Move
  | .advance => [.advance]
  | .select id => [.select id e.stock.known]
  | .news _ => []

def playWith (execute : List Action → Play Unit) (w : Surroundings τ) (turns : List Turn)
    (e : Engine) : Engine :=
  turns.foldl (Turn.perform execute w) e

/-- The engine after some turns, where its own stock is what actions are executed on. -/
def play (w : Surroundings τ) : List Turn → Engine → Engine := playWith (executeActions w.supply) w

def movesOf (w : Surroundings τ) : List Turn → Engine → List Move
  | [], _ => []
  | turn :: turns, e =>
    movesIn e turn ++ movesOf w turns (turn.perform (executeActions w.supply) w e)

theorem playWith_cons (execute : List Action → Play Unit) (turn : Turn) (turns : List Turn)
    (e : Engine) : playWith execute w (turn :: turns) e =
      playWith execute w turns (turn.perform execute w e) := rfl

def newsOf : List Turn → List (Option Snapshot)
  | [] => []
  | .news inventory :: turns => inventory :: newsOf turns
  | _ :: turns => newsOf turns

/-- Without a conversation, turns do no more than publish inventories. -/
theorem playWith_of_idle {e : Engine} (h : e.session.active = false)
    (execute : List Action → Play Unit) (turns : List Turn) :
    playWith execute w turns e = hearAll (newsOf turns) e := by
  induction turns generalizing e with
  | nil => rfl
  | cons turn turns ih =>
    rw [playWith_cons]
    cases turn with
    | advance =>
      simp only [Turn.perform, advanceWith_of_idle h]
      exact ih h
    | select id =>
      have hnone : e.offered id = none := by simp [offered, h]
      simp only [Turn.perform, select_of_not_offered hnone]
      exact ih h
    | news inventory =>
      have hkept := offstage_publishInventory inventory e
      exact ih (hkept.session ▸ h)

theorem mapM_cons_eq_ok {α β ε : Type} {f : α → Except ε β} {a : α} {as : List α} {bs : List β}
    (h : (a :: as).mapM f = .ok bs) :
    ∃ b bs', f a = .ok b ∧ as.mapM f = .ok bs' ∧ bs = b :: bs' := by
  rw [List.mapM_cons] at h
  obtain ⟨b, hb, h⟩ := exists_of_bind_eq_ok h
  obtain ⟨bs', hbs, h⟩ := exists_of_bind_eq_ok h
  cases h
  exact ⟨b, bs', hb, hbs, rfl⟩

/-- The turns lead through a recital: its lines are shown as `lines`, and whatever the executor is,
it gets the waiting actions with those of the recital once, when the recital is finished, and
nothing before that. -/
structure Plays (w : Surroundings τ) (turns : List Turn) (e : Engine) (r : Recital)
    (lines : List RenderLine) : Prop where
  rendered : (play w turns e).rendered = e.rendered ++ lines
  executed : ∃ last news, last.session.active = true ∧ ∀ execute, playWith execute w turns e =
    if r.finished then
      hearAll news (conclude execute w (e.session.pending ++ r.actions) last).2
    else last

namespace Plays

variable {e : Engine} {turns : List Turn} {r : Recital} {lines : List RenderLine}

theorem nil (h : e.session.active = true) : Plays w [] e .abandoned [] :=
  ⟨(List.append_nil _).symm, e, [], h, fun _ => rfl⟩

theorem unseen {turn : Turn} {e' : Engine}
    (hturn : ∀ execute, turn.perform execute w e = e') (hrendered : e'.rendered = e.rendered)
    (hpending : e'.session.pending = e.session.pending) (h : Plays w turns e' r lines) :
    Plays w (turn :: turns) e r lines := by
  obtain ⟨hlines, last, news, hlast, hend⟩ := h
  refine ⟨?_, last, news, hlast, ?_⟩
  · rw [← hrendered, ← hlines, play, playWith_cons, hturn]
  · intro execute
    rw [playWith_cons, hturn, hend, hpending]

/-- A turn that shows one more line and lets actions wait. -/
theorem seen {turn : Turn} {e' : Engine} {l : Line} {shown : RenderLine} (gained : List Action)
    (hturn : ∀ execute, turn.perform execute w e = e')
    (hrendered : e'.rendered = e.rendered ++ [shown])
    (hpending : e'.session.pending = e.session.pending ++ gained) (h : Plays w turns e' r lines) :
    Plays w (turn :: turns) e ((r.after l).gaining gained) (shown :: lines) := by
  obtain ⟨hlines, last, news, hlast, hend⟩ := h
  refine ⟨?_, last, news, hlast, ?_⟩
  · rw [play, playWith_cons, hturn]
    rw [play] at hlines
    rw [hlines, hrendered, List.append_assoc]
    rfl
  · intro execute
    rw [playWith_cons, hturn, hend, hpending, List.append_assoc]
    rfl

theorem ended (hview : w.ViewWorks) (hactive : e.session.active = true)
    (hlines : e.session.lines ≠ []) (hlast : e.session.isLast = true) (left : List Move) :
    Plays w (.advance :: turns) e (.done left) [] := by
  have hturn : ∀ execute, Turn.advance.perform execute w e =
      (conclude execute w e.session.pending e).2 := by
    intro execute
    rw [Turn.perform, advanceWith_of_isLast hactive hlines hlast]
  have hidle : ∀ execute,
      (conclude execute w e.session.pending e).2.session.active = false := by
    intro execute
    rw [session_conclude hview]
    rfl
  refine ⟨?_, e, newsOf turns, hactive, ?_⟩
  · rw [play, playWith_cons, hturn, playWith_of_idle (hidle _), (offstage_hearAll _ _).rendered,
      rendered_conclude hview, List.append_nil]
  · intro execute
    rw [playWith_cons, hturn, playWith_of_idle (hidle _)]
    simp [Recital.done, Recital.finished]

end Plays

namespace Showing

variable {e : Engine} {l l' : Line} {rest : List Line} {shown : RenderLine}

theorem advance_eq (hview : w.ViewWorks) (h : Showing e l (l' :: rest))
    (hshown : renderLine w e.session l' = .ok shown) (execute : List Action → Play Unit) :
    Turn.advance.perform execute w e = e.next.showing shown := by
  have hlast : e.session.isLast = false := by
    rw [Bool.eq_false_iff]
    exact fun hl => List.cons_ne_nil l' rest (h.isLast_iff.mp hl)
  have hsame : renderLine w e.next.session = renderLine w e.session := renderLine_congr rfl rfl
  simp only [Turn.perform, advanceWith_of_not_isLast h.active h.lines_ne_nil hlast,
    renderCurrent_eq hview, h.current_next, hsame, hshown]

theorem select_eq_self (h : Showing e l rest) {id : String}
    (hchoice : (l.options.getD []).find? (·.id == id) = none) (execute : List Action → Play Unit) :
    (Turn.select id).perform execute w e = e := by
  have hoffered := h.offered id
  rw [hchoice] at hoffered
  rw [Turn.perform, select_of_not_offered hoffered]

/-- A choice of the line on screen is taken, and the line is shown as answered. -/
theorem select_eq (hview : w.ViewWorks) (hfetch : w.supply.FetchWorks) (h : Showing e l rest)
    {before : RenderLine} (hbefore : renderLine w e.session l = .ok before) {id : String}
    {choice : Choice} (hchoice : (l.options.getD []).find? (·.id == id) = some choice)
    (hshown : renderLine w e.session (l.answered (replyText w choice)) = .ok shown)
    (execute : List Action → Play Unit) :
    (Turn.select id).perform execute w e =
      (e.answered w.supply l choice (replyText w choice)).showing shown := by
  have hoffered := h.offered id
  rw [hchoice] at hoffered
  have htext := localize_of_renderLine hbefore (List.mem_of_find?_eq_some hchoice)
  have hcurrent : (e.answered w.supply l choice (replyText w choice)).session.current? =
      some (l.answered (replyText w choice)) :=
    (h.answered hfetch choice (replyText w choice) shown).current
  have hsame : renderLine w (e.answered w.supply l choice (replyText w choice)).session =
    renderLine w e.session := renderLine_congr rfl rfl
  simp only [Turn.perform, select_of_offered hoffered, htext, renderCurrent_eq hview, hcurrent,
    hsame, hshown]

end Showing

/-- The simulation: what an engine plays behind the line on screen is what the recital goes on
with. -/
theorem plays_onward (hview : w.ViewWorks) (hfetch : w.supply.FetchWorks) {e : Engine} {l : Line}
    {rest : List Line} {shown : RenderLine} {lines : List RenderLine} {turns : List Turn}
    (h : Showing e l rest) (hshown : renderLine w e.session l = .ok shown)
    (hlines : (onward (replyText w) l rest (movesOf w turns e)).shown.mapM
      (renderLine w e.session) = .ok lines) :
    Plays w turns e (onward (replyText w) l rest (movesOf w turns e)) lines := by
  induction turns generalizing e l rest shown lines with
  | nil =>
    cases hlines
    exact .nil h.active
  | cons turn turns ih =>
    cases turn with
    | news inventory =>
      have hkept := offstage_publishInventory inventory e
      apply Plays.unseen (fun _ => rfl) hkept.rendered (by rw [hkept.session])
      apply ih (h.of_session hkept.session)
      · rw [hkept.session]
        exact hshown
      · rw [hkept.session]
        exact hlines
    | advance =>
      have hmoves : movesOf w (.advance :: turns) e =
        .advance :: movesOf w turns (Turn.advance.perform (executeActions w.supply) w e) := rfl
      rw [hmoves, onward_advance] at hlines ⊢
      cases rest with
      | nil =>
        rw [recite_nil] at hlines ⊢
        cases hlines
        exact .ended hview h.active h.lines_ne_nil (h.isLast_iff.mpr rfl) _
      | cons l' rest =>
        rw [recite_cons] at hlines ⊢
        obtain ⟨shown', lines, hshown', hmore, rfl⟩ := mapM_cons_eq_ok hlines
        have hturn := h.advance_eq hview hshown'
        rw [hturn] at hmore ⊢
        exact .seen [] hturn (rendered_showing shown' e.next)
          (List.append_nil _).symm (ih (h.next shown') hshown' hmore)
    | select id =>
      have hmoves : movesOf w (.select id :: turns) e = .select id e.stock.known ::
        movesOf w turns ((Turn.select id).perform (executeActions w.supply) w e) := rfl
      rw [hmoves] at hlines ⊢
      cases hchoice : (l.options.getD []).find? (·.id == id) with
      | none =>
        have hturn := h.select_eq_self (w := w) hchoice
        rw [hturn, onward_of_not_offered _ hchoice] at hlines ⊢
        exact .unseen hturn rfl rfl (ih h hshown hlines)
      | some choice =>
        rw [onward_of_offered _ hchoice, recite_cons] at hlines ⊢
        obtain ⟨shown', lines, hshown', hmore, rfl⟩ := mapM_cons_eq_ok hlines
        have hturn := h.select_eq hview hfetch hshown hchoice hshown'
        rw [hturn] at hmore ⊢
        have hthere := h.answered hfetch choice (replyText w choice) shown'
        exact .seen _ hturn (rendered_showing shown' _)
          (pending_answered hfetch l choice (replyText w choice) e) (ih hthere hshown' hmore)

/-- A start that succeeds shows the first line of what the document resolves to. -/
theorem showing_of_converse (hview : w.ViewWorks) (hfetch : w.supply.FetchWorks) {npcId : String}
    {npcName : Json} {d : Document} {e₀ e : Engine} (hidle : e₀.session.active = false)
    (hdocument : w.document npcId = .ok (some d))
    (hstart : converse w npcId npcName e₀ = (.ok (), e)) (hactive : e.session.active = true) :
    ∃ l rest shown, (d.resolveOn (some e₀.stock.known)).lines = l :: rest ∧ Showing e l rest ∧
      renderLine w e.session l = .ok shown ∧ e.rendered = e₀.rendered ++ [shown] ∧
      e.session.pending = (d.resolveOn (some e₀.stock.known)).actions := by
  have hfree : e₀.starting = false := by
    cases hbusy : e₀.starting with
    | false => rfl
    | true =>
      rw [converse_of_busy (.inr hbusy)] at hstart
      cases hstart
      rw [hidle] at hactive
      cases hactive
  rw [converse_of_free hidle hfree, hdocument] at hstart
  obtain ⟨hresolved, -⟩ := d.resolve_eq (e₀.stock.offers_known hfetch)
  simp only [hresolved] at hstart
  split at hstart
  · cases hstart
    rw [asked, hidle] at hactive
    cases hactive
  · rename_i hlines
    obtain ⟨l, rest, hcons⟩ := List.exists_cons_of_ne_nil hlines
    rw [present_eq hview] at hstart
    split at hstart
    · cases hstart
    · have hcurrent : (Session.opened npcId npcName
          (d.resolveOn (some e₀.stock.known))).current? = some l := by
        simp [Session.opened, Session.current?, Line.copyList_eq, hcons]
      rw [renderCurrent_eq hview] at hstart
      simp only [record, hcurrent] at hstart
      split at hstart
      · cases hstart
      · rename_i shown hshown
        cases hstart
        refine ⟨l, rest, shown, hcons, ⟨rfl, rfl, [], ?_, rfl⟩, hshown, ?_, rfl⟩
        · simp [Session.opened, Line.copyList_eq, hcons]
        · rw [rendered_showing]
          simp [rendered, viewCalls, asked, Event.viewCall?, ViewCall.rendered?,
            List.filterMap_append]

/-- Whatever the turns after a start, the lines on screen are those of the recital of the document,
as far as the translator does not fail at one of them, and the executor gets the document's actions
and those of the choices in the order of their selection: once, after the last line, and never if
the conversation is abandoned. -/
theorem plays_document (hview : w.ViewWorks) (hfetch : w.supply.FetchWorks) {npcId : String}
    {npcName : Json} {d : Document} {e₀ e : Engine} (hidle : e₀.session.active = false)
    (hdocument : w.document npcId = .ok (some d))
    (hstart : converse w npcId npcName e₀ = (.ok (), e)) (hactive : e.session.active = true)
    (turns : List Turn) {lines : List RenderLine}
    (hlines : (recite (replyText w) (d.resolveOn (some e₀.stock.known)).lines
      (movesOf w turns e)).shown.mapM (renderLine w e.session) = .ok lines) :
    let resolved := d.resolveOn (some e₀.stock.known)
    let r := recite (replyText w) resolved.lines (movesOf w turns e)
    (play w turns e).rendered = e₀.rendered ++ lines ∧
      ∃ last news, last.session.active = true ∧ ∀ execute, playWith execute w turns e =
        if r.finished then
          hearAll news (conclude execute w (resolved.actions ++ r.actions) last).2
        else last := by
  obtain ⟨l, rest, shown, hcons, hthere, hshown, hrendered, hpending⟩ :=
    showing_of_converse hview hfetch hidle hdocument hstart hactive
  rw [hcons, recite_cons] at hlines
  dsimp only
  rw [hcons, recite_cons]
  obtain ⟨shown', lines, hshown', hmore, rfl⟩ := mapM_cons_eq_ok hlines
  obtain rfl : shown = shown' := by
    rw [hshown] at hshown'
    exact Except.ok.inj hshown'
  have hplays := plays_onward hview hfetch hthere hshown hmore
  refine ⟨?_, ?_⟩
  · rw [hplays.rendered, hrendered, List.append_assoc]
    rfl
  · rw [← hpending]
    exact hplays.executed

def buy : Choice where
  id := "yes"
  text := "Yes."
  textKey := .null
  lines := some [.said "No coin." none]
  actions := none
  branches := some [⟨[.hasItem "coin" false], some [.said "Here." none],
    some [.giveItem "sword" none false]⟩]

def trade : Document where
  id := "smith"
  lines := some [.said "A sword?" (some [buy]), .said "Farewell." none]
  forks := none
  actions := some [.giveItem "map" none true]

def trader : Engine := start (.ofItems [("coin", 1)] 1 [])

/-- What the player does: ids that are not on the line have no effect, nor has one more advance. -/
def trading : List Turn :=
  [.select "no", .select "yes", .news none, .select "yes", .advance, .advance, .advance, .advance]

/-- The engine with the first line of the trade on screen. -/
def tradeOpened : Engine := (converse (World.plain trade) "smith" .null trader).2

theorem recite_trade :
    recite (replyText (World.plain trade)) (trade.resolveOn (some trader.stock.known)).lines
      (movesOf (World.plain trade) trading tradeOpened) =
    ⟨[.said "A sword?" (some [buy]), (Line.said "A sword?" none).answered "Yes.",
      .said "Here." none, .said "Farewell." none], [.giveItem "sword" none false],
      some [.advance]⟩ := by
  have hmoves : movesOf (World.plain trade) trading tradeOpened =
    [.select "no" trader.stock.known, .select "yes" trader.stock.known,
      .select "yes" trader.stock.known, .advance, .advance, .advance, .advance] := rfl
  have hresolved : (trade.resolveOn (some trader.stock.known)).lines =
    [.said "A sword?" (some [buy]), .said "Farewell." none] := rfl
  have hchoice : ((Line.said "A sword?" (some [buy])).options.getD []).find? (·.id == "yes") =
    some buy := rfl
  have hreply : buy.resolveOn (some trader.stock.known) =
    ⟨[.said "Here." none], [.giveItem "sword" none false]⟩ := rfl
  rw [hresolved, hmoves, recite_cons, onward_of_not_offered _ rfl, onward_of_offered _ hchoice,
    hreply, recite_cons, onward_of_not_offered _ rfl, onward_advance, List.singleton_append,
    recite_cons, onward_advance, recite_cons, onward_advance, recite_nil]
  rfl

theorem plays_trade :
    (play (World.plain trade) trading tradeOpened).rendered.map (·.text) =
        ["A sword?", "Yes.", "Here.", "Farewell."] ∧
      ∃ last news, last.session.active = true ∧ ∀ execute,
        playWith execute (World.plain trade) trading tradeOpened =
          hearAll news (conclude execute (World.plain trade)
            [.giveItem "map" none true, .giveItem "sword" none false] last).2 := by
  have hlines : ∃ lines : List RenderLine,
      (recite (replyText (World.plain trade)) (trade.resolveOn (some trader.stock.known)).lines
        (movesOf (World.plain trade) trading tradeOpened)).shown.mapM
          (renderLine (World.plain trade) tradeOpened.session) = .ok lines ∧
      lines.map (·.text) = ["A sword?", "Yes.", "Here.", "Farewell."] := by
    rw [recite_trade]
    exact ⟨_, rfl, rfl⟩
  obtain ⟨lines, hlines, htexts⟩ := hlines
  have hdocument : (World.plain trade).document "smith" = .ok (some trade) := rfl
  have hstart : converse (World.plain trade) "smith" .null trader = (.ok (), tradeOpened) := rfl
  obtain ⟨hrendered, last, news, hlast, hend⟩ :=
    plays_document (fun _ => rfl) (fun _ => rfl) rfl hdocument hstart rfl trading hlines
  rw [recite_trade] at hend
  refine ⟨?_, last, news, hlast, hend⟩
  rw [hrendered, ← htexts]
  rfl

end Engine
end Parley
