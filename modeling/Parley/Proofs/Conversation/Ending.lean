import Parley.Proofs.Conversation.Playback
import Parley.Proofs.Conversation.Rendering
import Parley.Proofs.Conversation.Settled
import Parley.Proofs.Conversation.Shape
import Parley.Proofs.Dialogue.ActionsWithin

/-!
# Every conversation ends

A selected choice puts lines before those that are left, so neither the place in the list nor the
number of lines left tells how far a conversation is. Their weight does: a choice weighs more than
all that it may lead to, and the line that offers it is left without it. Each turn that takes the
conversation further takes weight away, so there are at most as many of them as there is weight.
-/

namespace Parley

theorem Line.weightList_append (ls ls' : List Line) :
    Line.weightList (ls ++ ls') = Line.weightList ls + Line.weightList ls' := by
  induction ls with
  | nil => rw [List.nil_append, Line.weightList, Nat.zero_add]
  | cons l ls ih => rw [List.cons_append, weightList_cons, weightList_cons, ih, Nat.add_assoc]

theorem Line.weight_answered (l : Line) (text : String) : (l.answered text).weight = 1 := by
  rw [Line.weight_eq]
  rfl

theorem Choice.weight_resolve_lt (supply : Supply) (c : Choice) (s : Stock) :
    Line.weightList (c.resolve supply s).1.lines < c.weight := by
  obtain ⟨b, hresolve, hmem⟩ := c.exists_resolve supply s
  rw [hresolve]
  exact c.weight_ofBranch_lt hmem

namespace Session

def remaining (s : Session) : Nat := Line.weightList (s.lines.drop s.index.toNat)

@[simp] theorem remaining_withShown (s : Session) (shown : Bool) :
    { s with shown }.remaining = s.remaining := rfl

variable {s : Session}

/-- The lines before the one on screen, that line, and those after it. -/
theorem Running.exists_split (h : s.Running) : ∃ read l rest,
    s.lines = read ++ l :: rest ∧ s.index = read.length ∧ s.current? = some l := by
  obtain ⟨l, hcurrent⟩ := h.current
  have hplace := hcurrent
  rw [current?, if_pos h.lower] at hplace
  obtain ⟨hindex, rfl⟩ := List.getElem?_eq_some_iff.mp hplace
  refine ⟨s.lines.take s.index.toNat, _, s.lines.drop (s.index.toNat + 1), ?_, ?_, hcurrent⟩
  · rw [← List.drop_eq_getElem_cons hindex, List.take_append_drop]
  · have hlower := h.lower
    rw [List.length_take]
    omega

theorem remaining_eq {read rest : List Line} {l : Line} (hlines : s.lines = read ++ l :: rest)
    (hindex : s.index = read.length) : s.remaining = l.weight + Line.weightList rest := by
  rw [remaining, hlines, hindex, Int.toNat_natCast, List.drop_left, Line.weightList_cons]

theorem Running.remaining_pos (h : s.Running) : 0 < s.remaining := by
  obtain ⟨read, l, rest, hlines, hindex, -⟩ := h.exists_split
  have hpos := l.weight_pos
  rw [remaining_eq hlines hindex]
  omega

theorem Sound.idle_of_remaining (h : s.Sound) (hremaining : s.remaining = 0) : s = .idle := by
  rcases h with h | h
  · exact h
  · have hpos := h.remaining_pos
    omega

end Session

variable {τ : Type}

/-- The view takes the calls that close a conversation. -/
structure Surroundings.Closes (w : Surroundings τ) : Prop where
  endCue : w.viewFault .endCue = none
  exit : w.viewFault .exit = none
  cooldown : ∀ milliseconds, w.viewFault (.cooldown milliseconds) = none

theorem Surroundings.ViewWorks.closes {w : Surroundings τ} (h : w.ViewWorks) : w.Closes :=
  ⟨h _, h _, fun _ => h _⟩

namespace Turn

/-- Whether a turn should take the conversation further: an advance should while one runs, and so
should the selection of a choice that the line on screen offers. -/
def effective (e : Engine) : Turn → Bool
  | .advance => e.session.active
  | .select id => (e.offered id).isSome
  | .news _ => false

variable [Translation τ]

/-- The translator does not fail at the text of the choice that the turn selects. -/
def Told (w : Surroundings τ) (e : Engine) (t : Turn) : Prop :=
  ∀ id l choice, t = .select id → e.offered id = some (l, choice) →
    ∃ text, Engine.localize w choice.textKey choice.text = .ok text

theorem told_of_translates {w : Surroundings τ} (h : w.Translates) (e : Engine) (t : Turn) :
    t.Told w e := fun _ _ choice _ _ =>
  Engine.exists_localize (fun _ => h.tells choice.textKey) choice.text

end Turn

namespace Engine

variable {w : Surroundings τ} {e : Engine}

/-- A turn without effect keeps the session; one with effect leaves less weight. -/
structure Spends (spent : Bool) (s s' : Session) : Prop where
  kept : spent = false → s' = s
  lighter : spent = true → s'.remaining < s.remaining

theorem Spends.refl (s : Session) : Spends false s s := ⟨fun _ => rfl, nofun⟩

theorem Spends.of_lt {s s' : Session} (h : s'.remaining < s.remaining) : Spends true s s' :=
  ⟨nofun, fun _ => h⟩

theorem Restaged.remaining {e e' : Engine} (h : Restaged e e') :
    e'.session.remaining = e.session.remaining := by
  obtain ⟨shown, hshown⟩ := h.session
  rw [hshown, Session.remaining_withShown]

/-- Whatever the executor does, the conversation is over once the view has taken the calls that
close it. -/
theorem session_conclude_of_closes (hw : w.Closes) (execute : List Action → Play Unit)
    (actions : List Action) (e : Engine) : (conclude execute w actions e).2.session = .idle := by
  have hteardown (e : Engine) : (teardown w e).2.session = .idle := by
    simp only [teardown, Play.bind_apply, call, hw.exit, hw.cooldown, Play.modify_apply]
  simp only [conclude, Play.bind_apply, call, hw.endCue]
  rw [Play.followedBy_snd, hteardown]

variable [Translation τ]

theorem spends_advance (hw : w.Closes) (h : e.session.Sound) :
    Spends e.session.active e.session (advance w e).2.session := by
  cases hactive : e.session.active with
  | false =>
    rw [advance, advanceWith_of_idle hactive]
    exact .refl _
  | true =>
    have hrunning := h.running hactive
    apply Spends.of_lt
    cases hlast : e.session.isLast with
    | true =>
      rw [advance, advanceWith_of_isLast hactive hrunning.lines_ne_nil hlast,
        session_conclude_of_closes hw]
      exact hrunning.remaining_pos
    | false =>
      rw [advance, advanceWith_of_not_isLast hactive hrunning.lines_ne_nil hlast,
        (restaged_renderCurrent _).remaining]
      obtain ⟨read, l, rest, hlines, hindex, -⟩ := hrunning.exists_split
      have hpos := l.weight_pos
      have hafter : e.next.session.remaining = Line.weightList rest := by
        have hsplit : e.session.lines = (read ++ [l]) ++ rest := by
          rw [hlines, List.append_assoc, List.singleton_append]
        have hplace : (e.session.index + 1).toNat = (read ++ [l]).length := by
          rw [hindex, List.length_append, List.length_singleton]
          rfl
        rw [Session.remaining]
        simp only [next]
        rw [hplace, hsplit, List.drop_left]
      rw [hafter, Session.remaining_eq hlines hindex]
      omega

/-- After a choice was taken, the line on screen is the answer. -/
theorem current?_answered {l : Line} (h : e.session.Running) (hl : e.session.current? = some l)
    (supply : Supply) (c : Choice) (text : String) :
    (e.answered supply l c text).session.current? = some (l.answered text) := by
  obtain ⟨read, l', rest, hlines, hindex, hcurrent⟩ := h.exists_split
  obtain rfl := Option.some.inj (hcurrent.symm.trans hl)
  simp only [Session.current?, answered, hlines, hindex, Int.toNat_natCast, spliceAfter_set]
  simp

/-- An answer and all that follows it weigh less than the line that offered the choice. -/
theorem remaining_answered (supply : Supply) {l : Line} {choice : Choice}
    (hrunning : e.session.Running) (hcurrent : e.session.current? = some l)
    (hchoice : choice ∈ l.options.getD []) (text : String) :
    (e.answered supply l choice text).session.remaining < e.session.remaining := by
  obtain ⟨read, l', rest, hlines, hindex, hcurrent'⟩ := hrunning.exists_split
  rw [hcurrent] at hcurrent'
  cases hcurrent'
  have hanswered : (e.answered supply l choice text).session.lines =
      read ++ l.answered text :: ((choice.resolve supply e.stock).1.lines ++ rest) := by
    simp only [answered, hlines, hindex, Int.toNat_natCast]
    exact spliceAfter_set read rest _ l (l.answered text)
  have hlighter := choice.weight_resolve_lt supply e.stock
  have hoffered := Line.weight_choice_lt hchoice
  rw [Session.remaining_eq hlines hindex, Session.remaining_eq hanswered hindex,
    Line.weight_answered, Line.weightList_append]
  omega

theorem spends_select (h : e.session.Sound) {id : String}
    (htold : (Turn.select id).Told w e) :
    Spends (e.offered id).isSome e.session (select w id e).2.session := by
  cases hoffered : e.offered id with
  | none =>
    rw [select_of_not_offered hoffered]
    exact .refl _
  | some p =>
    obtain ⟨l, choice⟩ := p
    obtain ⟨text, htext⟩ := htold id l choice rfl hoffered
    obtain ⟨hactive, hcurrent, hfind⟩ := of_offered hoffered
    have hlighter := remaining_answered w.supply (h.running hactive) hcurrent
      (List.mem_of_find?_eq_some hfind) text
    apply Spends.of_lt
    rw [select_of_offered hoffered, htext]
    dsimp only
    rw [(restaged_renderCurrent _).remaining]
    exact hlighter

theorem spends_turn (hw : w.Closes) (h : e.session.Sound) {t : Turn} (htold : t.Told w e) :
    Spends (t.effective e) e.session (t.perform (executeActions w.supply) w e).session := by
  cases t with
  | advance => exact spends_advance hw h
  | select id => exact spends_select h htold
  | news inventory =>
    have hkept := (offstage_publishInventory inventory e).session
    exact ⟨fun _ => hkept, nofun⟩

def afterTurns (steps : List (Surroundings τ × Turn)) (e : Engine) : Engine :=
  run (steps.map fun step => (step.1, .turn step.2)) e

/-- How many of the turns should take the conversation further. -/
def efforts : List (Surroundings τ × Turn) → Engine → Nat
  | [], _ => 0
  | (w, t) :: steps, e =>
    (t.effective e).toNat + efforts steps (t.perform (executeActions w.supply) w e)

/-- Whenever one of the turns selects a choice, the translator does not fail at its text. -/
def Told : List (Surroundings τ × Turn) → Engine → Prop
  | [], _ => True
  | (w, t) :: steps, e => t.Told w e ∧ Told steps (t.perform (executeActions w.supply) w e)

theorem told_of_translates {steps : List (Surroundings τ × Turn)}
    (h : ∀ step ∈ steps, step.1.Translates) (e : Engine) : Told steps e := by
  induction steps generalizing e with
  | nil => exact trivial
  | cons step steps ih =>
    obtain ⟨hfirst, hrest⟩ := List.forall_mem_cons.mp h
    exact ⟨Turn.told_of_translates hfirst e step.2, ih hrest _⟩

/-- Efforts and the weight that is left after them are together no more than the weight before. -/
theorem efforts_add_remaining_le {steps : List (Surroundings τ × Turn)} (h : e.Settled)
    (htold : Told steps e) (hcloses : ∀ step ∈ steps, step.1.Closes) :
    (afterTurns steps e).Settled ∧
      efforts steps e + (afterTurns steps e).session.remaining ≤ e.session.remaining := by
  induction steps generalizing e with
  | nil => exact ⟨h, by simp [efforts, afterTurns, run]⟩
  | cons step steps ih =>
    obtain ⟨w, t⟩ := step
    obtain ⟨hw, hrestCloses⟩ := List.forall_mem_cons.mp hcloses
    obtain ⟨hfirst, hrestTold⟩ := htold
    obtain ⟨hkept, hlighter⟩ := spends_turn hw h.sound hfirst
    have hturn : (t.perform (executeActions w.supply) w e).Settled := h.perform w (.call (.turn t))
    obtain ⟨hafter, hrest⟩ := ih hturn hrestTold hrestCloses
    refine ⟨hafter, ?_⟩
    rw [efforts]
    change _ + (afterTurns steps (t.perform (executeActions w.supply) w e)).session.remaining ≤ _
    dsimp only at hlighter
    cases heffective : t.effective e with
    | false =>
      rw [hkept heffective] at hrest
      simpa using hrest
    | true =>
      have hless := hlighter heffective
      simp only [Bool.toNat_true]
      omega

/-- Whatever happened before, and whatever failed in it, the advances of a conversation that runs
and the selections of what its line on screen offers are at most as many as the weight of its lines
from the one on screen on, and after that many it has ended: each of them leaves less weight, and
any other turn leaves the session as it is. For this the translator must not fail at the text of a
choice that is selected, and the view must take the calls that close a conversation. -/
theorem ends_of_efforts {e₀ : Engine} (h : e₀.Fresh) (past : List (Surroundings τ × Deed))
    (steps : List (Surroundings τ × Turn)) (htold : Told steps (e₀.afterDeeds past))
    (hcloses : ∀ step ∈ steps, step.1.Closes) :
    let e := e₀.afterDeeds past
    let e' := afterTurns steps e
    efforts steps e ≤ e.session.remaining ∧
      (efforts steps e = e.session.remaining → e'.session = .idle) ∧
      ∀ w : Surroundings τ, w.Closes → ∀ t : Turn, t.Told w e' →
        let s := (t.perform (executeActions w.supply) w e').session
        (t.effective e' = true → s.remaining < e'.session.remaining) ∧
          (t.effective e' = false → s = e'.session) := by
  have hfresh : e₀.Settled := ⟨.inl h.session, h.starting⟩
  have hpast : (e₀.afterDeeds past).Settled := hfresh.afterDeeds past
  obtain ⟨hsettled, hefforts⟩ := efforts_add_remaining_le hpast htold hcloses
  refine ⟨by omega, ?_, ?_⟩
  · intro hall
    exact hsettled.sound.idle_of_remaining (by omega)
  · intro w hw t ht
    have hspends := spends_turn hw hsettled.sound ht
    exact ⟨hspends.lighter, hspends.kept⟩

def greeting : List (World × Deed) := [(.plain trade, .call (.start "smith" .null))]

/-- The trade from its first line on, in turns of which every other one has no effect. -/
def trades : List (World × Turn) :=
  [.select "no", .select "yes", .select "yes", .advance, .news none, .advance].map fun t =>
    (.plain trade, t)

/-- The line with the choice weighs four, since the choice may lead to either of two lines. -/
theorem ends_trades :
    (trader.afterDeeds greeting).session.remaining = 5 ∧
      efforts trades (trader.afterDeeds greeting) = 3 ∧
      (afterTurns trades (trader.afterDeeds greeting)).session.remaining = 1 ∧
      (Turn.advance.perform (executeActions .working) (World.plain trade)
        (afterTurns trades (trader.afterDeeds greeting))).session.remaining = 0 := by
  have hplain : (World.plain trade).Translates := World.translates_of_none rfl
  have hworks : (World.plain trade).ViewWorks := fun _ => rfl
  have hsteps : ∀ step ∈ trades, step.1 = World.plain trade := by
    intro step hstep
    obtain ⟨t, -, rfl⟩ := List.mem_map.mp hstep
    rfl
  have htold : Told trades (trader.afterDeeds greeting) :=
    told_of_translates (fun step hstep => hsteps step hstep ▸ hplain) _
  have hcloses : ∀ step ∈ trades, step.1.Closes :=
    fun step hstep => hsteps step hstep ▸ hworks.closes
  have hweight : (trader.afterDeeds greeting).session.remaining = 5 := rfl
  have hefforts : efforts trades (trader.afterDeeds greeting) = 3 := rfl
  have hleft : (afterTurns trades (trader.afterDeeds greeting)).session.remaining = 1 := rfl
  have hactive : Turn.advance.effective (afterTurns trades (trader.afterDeeds greeting)) = true :=
    rfl
  have hfresh : trader.Fresh := fresh_start _
  obtain ⟨-, -, hturns⟩ := ends_of_efforts hfresh greeting trades htold hcloses
  have hless := (hturns (World.plain trade) hworks.closes .advance
    (Turn.told_of_translates hplain _ .advance)).1 hactive
  rw [hleft] at hless
  exact ⟨hweight, hefforts, hleft, Nat.lt_one_iff.mp hless⟩

/-- A gate with a choice that has a number for the key of its text. -/
def numbered : Document where
  id := "gate"
  lines := some [.said "Halt." (some
    [⟨"go", "Go on.", .num 5, some [.said "Pass." none], none, none⟩])]
  forks := none
  actions := none

def outpost : World :=
  { World.plain numbered with
    translator := .catalogue ⟨[("en", .obj [])], .str "en", .str "en"⟩ }

/-- The gate is opened at the outpost, where its line cannot be shown. -/
def atOutpost : Engine := visitor.afterDeeds [(outpost, .call (.start "gate" .null))]

/-- The choice that the outpost has no text for, again and again. -/
def refusals : List (World × Turn) := List.replicate 4 (outpost, .select "go")

def atGift : Engine :=
  visitor.afterDeeds [(World.plain gift, .call (.start "gate" .null)),
    (World.plain gift, .call (.turn .advance))]

/-- Going on, again and again, where the view fails at the end of a conversation. -/
def balks : List (World × Turn) :=
  List.replicate 2 ({ World.plain gift with
    viewFault := fun c => if c.name == "end_cue" then some (.view c.name) else none }, .advance)

/-- Where the translator fails at the text of a choice, the choice stays on screen, and there can be
more selections of it than the lines weigh. Where the view fails at the end of a conversation, the
last line stays there. -/
theorem not_ends_refusals :
    (atOutpost.session.active = true ∧ atOutpost.session.remaining = 3 ∧
      efforts refusals atOutpost = 4 ∧
      (afterTurns refusals atOutpost).session = atOutpost.session) ∧
    atGift.session.active = true ∧ atGift.session.remaining = 1 ∧ efforts balks atGift = 2 ∧
      (afterTurns balks atGift).session = atGift.session :=
  ⟨⟨rfl, rfl, rfl, rfl⟩, rfl, rfl, rfl, rfl⟩

end Engine
end Parley
