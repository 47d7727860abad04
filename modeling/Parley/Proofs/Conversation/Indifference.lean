import Parley.Proofs.Conversation.Ending
import Parley.Proofs.Conversation.Repertoire
import Parley.Proofs.Inventory.Rearrangement

/-!
# What a conversation tells of the inventory

A conversation depends on the inventory only through the items that its document tests. Two
conversations on one document, each over an inventory of its own, go the same way as long as the
inventories agree on these items: the same is shown, the sessions are the same, and the same actions
are handed to the executor. Neither the order of slots nor the sizes of stacks make a difference.
-/

namespace Parley

def Line.checks (l : Line) : List Check :=
  (l.options.getD []).flatMap fun c => (c.branches.getD []).flatMap Branch.checks

def Document.checksWithin (d : Document) : List Check :=
  (d.forks.getD []).flatMap Fork.checks ++ d.linesWithin.flatMap Line.checks

variable {inventory inventory' : Option Snapshot}

/-- Checks agree on inventories that agree on the items they test: a check of an unknown type fails
on both. -/
theorem Check.agree_of_owns {checks : List Check} (h : ∀ item negate,
    .hasItem item negate ∈ checks → Snapshot.owns inventory item = Snapshot.owns inventory' item) :
    Check.Agree inventory inventory' checks := by
  intro c hc
  cases c with
  | hasItem item negate => simp only [Check.passes, h item negate hc]
  | unknown type source => rfl

variable {τ : Type}

/-- The same surroundings, where inventories are fetched and written in another way. -/
abbrev Surroundings.over (w : Surroundings τ) (supply : Supply) : Surroundings τ :=
  { w with supply }

namespace Engine

variable [Translation τ]

section

variable (w : Surroundings τ) (supply : Supply)

theorem renderOptions_over (cs : List Choice) :
    renderOptions (w.over supply) cs = renderOptions w cs := by
  induction cs with
  | nil => rfl
  | cons c cs ih =>
    rw [renderOptions, renderOptions, ih]
    rfl

theorem renderLine_over (s : Session) (l : Line) :
    renderLine (w.over supply) s l = renderLine w s l := by
  unfold renderLine
  simp only [renderOptions_over]
  rfl

theorem renderCurrent_over : renderCurrent (w.over supply) = renderCurrent w := by
  funext e
  unfold renderCurrent
  simp only [renderLine_over]
  rfl

theorem present_over : present (w.over supply) = present w := by
  unfold present
  rw [renderCurrent_over]
  rfl

end

def handed (e : Engine) : Turn → Option (List Action)
  | .advance =>
    if e.session.active && !e.session.lines.isEmpty && e.session.isLast then some e.session.pending
    else none
  | _ => none

variable {w : Surroundings τ} {e e' : Engine}

/-- Whatever the executor is, it gets these actions, and what follows is the end. -/
theorem perform_of_handed {t : Turn} {actions : List Action} (h : e.handed t = some actions)
    (execute : List Action → Play Unit) :
    t.perform execute w e = (conclude execute w actions e).2 := by
  cases t with
  | advance =>
    simp only [handed] at h
    split at h
    · rename_i hlast
      simp only [Bool.and_eq_true, Bool.not_eq_true', List.isEmpty_eq_false_iff] at hlast
      cases h
      rw [Turn.perform, advanceWith_of_isLast hlast.1.1 hlast.1.2 hlast.2]
    · cases h
  | select id => cases h
  | news inventory => cases h

theorem perform_of_not_handed {t : Turn} (h : e.handed t = none)
    (execute execute' : List Action → Play Unit) :
    t.perform execute w e = t.perform execute' w e := by
  cases t with
  | advance =>
    simp only [Turn.perform, advanceWith, Play.bind_apply, Play.get_apply]
    cases hactive : e.session.active with
    | false => rfl
    | true =>
      cases hlines : e.session.lines.isEmpty with
      | true => rfl
      | false =>
        cases hlast : e.session.isLast with
        | true => simp [handed, hactive, hlines, hlast] at h
        | false => rfl
  | select id => rfl
  | news inventory => rfl

/-- What there is to see after a turn: the state of the session, the calls of the view so far, and
the actions that the turn handed to the executor. -/
structure Sight where
  session : Session
  viewCalls : List ViewCall
  handed : Option (List Action)

def sights (w : Surroundings τ) : List Turn → Engine → List Sight
  | [], _ => []
  | t :: turns, e =>
    let e' := t.perform (executeActions w.supply) w e
    ⟨e'.session, e'.viewCalls, e.handed t⟩ :: sights w turns e'

/-- What there is to see of a conversation that is started on a new engine and taken through some
turns. -/
def conversation (w : Surroundings τ) (npcId : String) (npcName : Json) (turns : List Turn)
    (service : Service) : List Sight :=
  let e := (converse w npcId npcName (start service)).2
  ⟨e.session, e.viewCalls, none⟩ :: sights w turns e

variable {supply supply' : Supply}

/-- Two engines at the same place of the same conversation, each over an inventory of its own. All
checks that are still to come agree on the inventories. -/
structure Abreast (supply supply' : Supply) (inventory inventory' : Option Snapshot)
    (e e' : Engine) : Prop where
  sound : e.session.Sound
  session : e.session = e'.session
  viewCalls : e.viewCalls = e'.viewCalls
  checks : e.session.Throughout fun l => Check.Agree inventory inventory' l.checks
  offers : e.session.active = true → e.stock.Offers supply inventory
  offers' : e.session.active = true → e'.stock.Offers supply' inventory'

namespace Abreast

theorem of_idle (h : e.session = .idle) (h' : e'.session = .idle)
    (hcalls : e.viewCalls = e'.viewCalls) : Abreast supply supply' inventory inventory' e e' := by
  refine ⟨.inl h, h.trans h'.symm, hcalls, h ▸ Session.throughout_idle, ?_, ?_⟩
  · rw [h]
    nofun
  · rw [h]
    nofun

/-- Engines that run stay abreast while a step that asks for no inventory shows the same on both. -/
theorem of_sameShow (h : Abreast supply supply' inventory inventory' e e')
    (hrunning : e.session.Running) {x x' : Except Fault Unit × Engine}
    (hshow : SameShow e e' x x')
    (hkept : (∃ shown, x.2.session = { e.session with shown }) ∧ x.2.stock = e.stock)
    (hkept' : x'.2.stock = e'.stock) : Abreast supply supply' inventory inventory' x.2 x'.2 := by
  obtain ⟨⟨shown, hshown⟩, hstock⟩ := hkept
  obtain ⟨calls, hcalls, hcalls'⟩ := hshow.calls
  have hoffers := h.offers hrunning.active
  have hoffers' := h.offers' hrunning.active
  refine ⟨?_, hshow.session, ?_, ?_, fun _ => hstock ▸ hoffers, fun _ => hkept' ▸ hoffers'⟩
  · exact hshown ▸ .inr (hrunning.withShown shown)
  · rw [hcalls, hcalls', h.viewCalls]
  · exact hshown ▸ h.checks

theorem showing (hw : w.ViewWorks) (h : Abreast supply supply' inventory inventory' e e')
    (hrunning : e.session.Running) :
    Abreast supply supply' inventory inventory' (renderCurrent (w.over supply) e).2
      (renderCurrent (w.over supply') e').2 := by
  rw [renderCurrent_over w supply, renderCurrent_over w supply']
  exact h.of_sameShow hrunning (sameShow_renderCurrent hw e e' h.session)
    (renderCurrent_keeps hw e) (renderCurrent_keeps hw e').2

/-- A start asks for the document and evaluates the checks of its forks, on which the inventories
agree. -/
theorem converse (hw : w.ViewWorks) (h : e.Fresh) (h' : e'.Fresh)
    (hcalls : e.viewCalls = e'.viewCalls) (hoffers : e.stock.Offers supply inventory)
    (hoffers' : e'.stock.Offers supply' inventory') {npcId : String}
    (hagree : ∀ d, w.document npcId = .ok (some d) →
      Check.Agree inventory inventory' d.checksWithin) (npcName : Json) :
    Abreast supply supply' inventory inventory'
      (Engine.converse (w.over supply) npcId npcName e).2
      (Engine.converse (w.over supply') npcId npcName e').2 := by
  rw [converse_of_free (by rw [h.session]; rfl) h.starting,
    converse_of_free (by rw [h'.session]; rfl) h'.starting]
  dsimp only
  cases hdocument : w.document npcId with
  | error fault => exact of_idle h.session h'.session hcalls
  | ok document =>
    cases document with
    | none => exact of_idle h.session h'.session hcalls
    | some d =>
      have hforks : Check.Agree inventory inventory' ((d.forks.getD []).flatMap Fork.checks) :=
        fun c hc => hagree d hdocument c (List.mem_append_left _ hc)
      have hlines : ∀ l ∈ d.linesWithin, Check.Agree inventory inventory' l.checks :=
        fun l hl c hc => hagree d hdocument c
          (List.mem_append_right _ (List.mem_flatMap.mpr ⟨l, hl, hc⟩))
      obtain ⟨hresolved, hknown⟩ := d.resolve_eq hoffers
      obtain ⟨hresolved', hknown'⟩ := d.resolve_eq hoffers'
      have hsame : (d.resolve supply e.stock).1 = (d.resolve supply' e'.stock).1 := by
        rw [hresolved, hresolved', Document.resolveOn_congr hforks]
      have hplayed := Session.throughout_opened hlines npcId npcName supply e.stock
      dsimp only
      by_cases hempty : (d.resolve supply e.stock).1.lines = []
      · rw [if_pos hempty, if_pos (hsame ▸ hempty)]
        exact of_idle h.session h'.session hcalls
      · rw [if_neg hempty, if_neg (hsame ▸ hempty), present_over w supply, present_over w supply']
        have hrunning := Session.running_opened npcId npcName hempty
        have hopened : Abreast supply supply' inventory inventory'
            { e.asked with
              stock := (d.resolve supply e.stock).2
              session := .opened npcId npcName (d.resolve supply e.stock).1 }
            { e'.asked with
              stock := (d.resolve supply' e'.stock).2
              session := .opened npcId npcName (d.resolve supply' e'.stock).1 } :=
          ⟨.inr hrunning, congrArg (Session.opened npcId npcName) hsame, hcalls, hplayed,
            fun _ => hknown, fun _ => hknown'⟩
        exact hopened.of_sameShow hrunning (sameShow_present hw _ _ hopened.session)
          (present_keeps hw _) (present_keeps hw _).2

theorem advance (hw : w.ViewWorks) (h : Abreast supply supply' inventory inventory' e e') :
    Abreast supply supply' inventory inventory' (Engine.advance (w.over supply) e).2
      (Engine.advance (w.over supply') e').2 := by
  cases hactive : e.session.active with
  | false =>
    rw [Engine.advance, Engine.advance, advanceWith_of_idle hactive,
      advanceWith_of_idle (h.session ▸ hactive)]
    exact h
  | true =>
    have hrunning := h.sound.running hactive
    have hlines := hrunning.lines_ne_nil
    cases hlast : e.session.isLast with
    | false =>
      rw [Engine.advance, Engine.advance, advanceWith_of_not_isLast hactive hlines hlast,
        advanceWith_of_not_isLast (h.session ▸ hactive) (h.session ▸ hlines) (h.session ▸ hlast)]
      have hnext : Abreast supply supply' inventory inventory' e.next e'.next := by
        refine ⟨.inr (hrunning.next hlast), ?_, h.viewCalls, h.checks, h.offers, h.offers'⟩
        simp only [next, h.session]
      exact hnext.showing hw (hrunning.next hlast)
    | true =>
      rw [Engine.advance, Engine.advance, advanceWith_of_isLast hactive hlines hlast,
        advanceWith_of_isLast (h.session ▸ hactive) (h.session ▸ hlines) (h.session ▸ hlast)]
      have hcalls := viewCalls_conclude (w := w.over supply) hw supply e.session.pending e
      have hcalls' :=
        viewCalls_conclude (w := w.over supply') hw supply' e'.session.pending e'
      rw [h.viewCalls] at hcalls
      exact of_idle (session_conclude hw _ _ _) (session_conclude hw _ _ _)
        (hcalls.trans hcalls'.symm)

/-- A selection evaluates the checks of the choice, on which the inventories agree. -/
theorem select (hw : w.ViewWorks) (h : Abreast supply supply' inventory inventory' e e')
    (id : String) :
    Abreast supply supply' inventory inventory' (Engine.select (w.over supply) id e).2
      (Engine.select (w.over supply') id e').2 := by
  have hsame : e'.offered id = e.offered id := by
    unfold offered
    rw [h.session]
  cases hoffered : e.offered id with
  | none =>
    rw [select_of_not_offered hoffered, select_of_not_offered (hsame.trans hoffered)]
    exact h
  | some p =>
    obtain ⟨l, choice⟩ := p
    rw [select_of_offered hoffered, select_of_offered (hsame.trans hoffered)]
    have htext : localize (w.over supply) choice.textKey choice.text =
      localize (w.over supply') choice.textKey choice.text := rfl
    rw [htext]
    cases localize (w.over supply') choice.textKey choice.text with
    | error fault => exact h
    | ok text =>
      obtain ⟨hactive, hcurrent, hfind⟩ := of_offered hoffered
      have hrunning := h.sound.running hactive
      have hbranches : Check.Agree inventory inventory'
          ((choice.branches.getD []).flatMap Branch.checks) :=
        fun c hc => h.checks.of_current hcurrent c
          (List.mem_flatMap.mpr ⟨choice, List.mem_of_find?_eq_some hfind, hc⟩)
      obtain ⟨hresolved, hknown⟩ := choice.resolve_eq (h.offers hactive)
      obtain ⟨hresolved', hknown'⟩ := choice.resolve_eq (h.offers' hactive)
      have hanswered : Abreast supply supply' inventory inventory'
          (e.answered supply l choice text) (e'.answered supply' l choice text) := by
        refine ⟨.inr (running_answered supply l choice text hrunning), ?_, h.viewCalls, ?_,
          fun _ => hknown, fun _ => hknown'⟩
        · simp only [answered, hresolved, hresolved', h.session, Choice.resolveOn_congr hbranches]
        · -- An answer has no choices, so no checks.
          exact throughout_answered (by rintro _ _ _ _ ⟨⟩) hoffered h.checks text
      exact hanswered.showing hw (running_answered supply l choice text hrunning)

theorem turn (hw : w.ViewWorks) (h : Abreast supply supply' inventory inventory' e e') {t : Turn}
    (ht : ∀ news, t ≠ .news news) :
    Abreast supply supply' inventory inventory'
      (t.perform (executeActions supply) (w.over supply) e)
      (t.perform (executeActions supply') (w.over supply') e') := by
  cases t with
  | advance => exact h.advance hw
  | select id => exact h.select hw id
  | news inventory => exact absurd rfl (ht inventory)

/-- Engines that are abreast show the same for as long as they are taken through the same turns. -/
theorem sights_eq (hw : w.ViewWorks) (h : Abreast supply supply' inventory inventory' e e')
    {turns : List Turn} (hturns : ∀ news, Turn.news news ∉ turns) :
    sights (w.over supply) turns e = sights (w.over supply') turns e' := by
  induction turns generalizing e e' with
  | nil => rfl
  | cons t turns ih =>
    have ht : ∀ news, t ≠ .news news := fun news ht => hturns news (ht ▸ List.mem_cons_self)
    have hafter := h.turn hw ht
    have hhanded : e.handed t = e'.handed t := by
      unfold handed
      rw [h.session]
    have hrest := ih hafter fun news hnews => hturns news (List.mem_cons_of_mem _ hnews)
    rw [sights, sights]
    dsimp only
    rw [hrest, hafter.session, hafter.viewCalls, hhanded]

end Abreast

/-- Two conversations on one document, over inventories that agree on the items that it tests or of
which one is the other rearranged, show the same and hand the same actions to the executor at the
same time. -/
theorem conversation_indifferent {supply supply' : Supply} {service service' : Service}
    {inventory inventory' : Option Snapshot} (hw : w.ViewWorks)
    (hoffers : (Stock.ofService service).Offers supply inventory)
    (hoffers' : (Stock.ofService service').Offers supply' inventory') (npcId : String)
    (npcName : Json) (turns : List Turn) (hturns : ∀ news, Turn.news news ∉ turns) :
    let Same := conversation (w.over supply) npcId npcName turns service =
      conversation (w.over supply') npcId npcName turns service'
    ((∀ d, w.document npcId = .ok (some d) → ∀ item negate, .hasItem item negate ∈ d.checksWithin →
      Snapshot.owns inventory item = Snapshot.owns inventory' item) → Same) ∧
    ∀ s s', inventory = some s → inventory' = some s' → s.Rearranged s' → Same := by
  intro Same
  have hsame : (∀ d, w.document npcId = .ok (some d) → ∀ item negate,
      .hasItem item negate ∈ d.checksWithin →
        Snapshot.owns inventory item = Snapshot.owns inventory' item) → Same := by
    intro howns
    have hopened := Abreast.converse hw (fresh_start service) (fresh_start service') rfl hoffers
      hoffers' (fun d hd => Check.agree_of_owns (howns d hd)) npcName
    have hsights := hopened.sights_eq hw hturns
    simp only [Same, conversation, hsights, hopened.session, hopened.viewCalls]
  refine ⟨hsame, ?_⟩
  rintro s s' rfl rfl hrearranged
  exact hsame fun d _ item negate _ => hrearranged.hasItem_eq item

def purse : Service := .ofItems [("coin", 1)] 1 []

/-- A player with more coins among other things. -/
def chest : Service := .ofItems [("rope", 2), ("coin", 5)] 3 [("mood", .str "merry")]

def necklace : Service := ⟨⟨[.vacant], [("equippedAmulet", .str "coin")]⟩, 0, 0, 0⟩

def purchase : List Turn := [.select "yes", .advance, .advance, .advance]

theorem checksWithin_trade : trade.checksWithin = [.hasItem "coin" false] := rfl

theorem rearranged_purse : purse.stored.Rearranged necklace.stored := by
  have hname : namesEquipment "equippedAmulet" = true := by decide
  have hnone : Members.Unrelated "equippedAmulet" .null := by
    rintro - item ⟨⟩
  have hvacant : Slot.vacant.Only "coin" := by
    rintro other ⟨⟩
  refine .trans _ ⟨purse.stored.slots, [("equippedAmulet", .null)]⟩ _ (.rel _ _ ?_) (.rel _ _ ?_)
  · exact .member hnone _ _
  · exact .equip Int.one_pos hvacant hname hnone [] []

/-- The trader asks for a coin and for nothing else. -/
theorem conversation_purse :
    (conversation (World.plain trade) "smith" .null purchase purse).map (·.handed) =
        [none, none, none, none,
          some [.giveItem "map" none true, .giveItem "sword" none false]] ∧
      conversation (World.plain trade) "smith" .null purchase purse =
        conversation (World.plain trade) "smith" .null purchase chest ∧
      conversation (World.plain trade) "smith" .null purchase purse =
        conversation (World.plain trade) "smith" .null purchase necklace := by
  have hturns : ∀ news, Turn.news news ∉ purchase := by
    intro news hnews
    simp [purchase] at hnews
  have hpurse : (Stock.ofService purse).Offers .working (some purse.stored) := fun _ => rfl
  have hchest : (Stock.ofService chest).Offers .working (some chest.stored) := fun _ => rfl
  have hnecklace : (Stock.ofService necklace).Offers .working (some necklace.stored) :=
    fun _ => rfl
  have hview : (World.plain trade).ViewWorks := fun _ => rfl
  obtain ⟨hagree, -⟩ :=
    conversation_indifferent hview hpurse hchest "smith" .null purchase hturns
  obtain ⟨-, hrearranged⟩ :=
    conversation_indifferent hview hpurse hnecklace "smith" .null purchase hturns
  refine ⟨rfl, hagree ?_, hrearranged _ _ rfl rfl rearranged_purse⟩
  intro d hd item negate hcheck
  cases hd
  rw [checksWithin_trade, List.mem_singleton] at hcheck
  cases hcheck
  decide

end Engine
end Parley
