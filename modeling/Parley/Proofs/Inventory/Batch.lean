import Mathlib.Data.List.Basic
import Parley.Proofs.Conversation.Coherence
import Parley.Proofs.Dialogue.Resolution
import Parley.Proofs.Inventory.Granting
import Parley.Proofs.Inventory.History

/-!
# Granting a batch

Actions are executed one by one, and each looks at the inventory as the ones before left it. What
comes of them all can be told from the inventory at the beginning: one pass over the actions chooses
what is given, and the stacks go into the empty slots in order.
-/

namespace Parley

def unitsOf : Option Number → Int
  | none => 1
  | some n => max 1 (n.floor.toOption.getD 1)

def stackOf (gift : String × Int) : Slot := ⟨.str gift.1, gift.2⟩

def emptyPositions (slots : List Slot) : List Nat := slots.findIdxs Slot.isEmpty

/-- Whether an item is held by one of the slots or was given before. -/
def isThere (slots : List Slot) (given : List (String × Int)) (item : String) : Bool :=
  slots.any (·.holds item) || given.any (·.1 == item)

/-- What is given after an action: an item with its units, as long as there is an empty slot left,
unless the item must be missing and is there. -/
def giftsAfter (slots : List Slot) (given : List (String × Int)) : Action → List (String × Int)
  | .unknown .. => given
  | .giveItem item amount ifMissing =>
    if (emptyPositions slots).length ≤ given.length || ifMissing && isThere slots given item then given
    else given ++ [(item, unitsOf amount)]

/-- What is given in one pass over actions. -/
def giftsOf (slots : List Slot) (actions : List Action) : List (String × Int) :=
  actions.foldl (giftsAfter slots) []

/-- The slots after gifts: the stack of each is at the empty position of its turn, and all else is as
it was. -/
structure Filled (before : List Slot) (given : List (String × Int)) (after : List Slot) : Prop where
  length : after.length = before.length
  placed : ∀ (k : Nat) (gift : String × Int), given[k]? = some gift →
    ∃ p, (emptyPositions before)[k]? = some p ∧ after[p]? = some (stackOf gift)
  kept : ∀ p, p ∉ (emptyPositions before).take given.length → after[p]? = before[p]?

def fillSlots : List Slot → List (String × Int) → List Slot
  | slots, [] => slots
  | [], _ :: _ => []
  | s :: rest, gift :: given =>
    if s.isEmpty then stackOf gift :: fillSlots rest given else s :: fillSlots rest (gift :: given)

/-- Gifts of some units of an item with an id. -/
def Substantial (given : List (String × Int)) : Prop := ∀ gift ∈ given, gift.1 ≠ "" ∧ 0 < gift.2

/-- A gift has an id, and if it has an amount, then one that loading lets through. -/
def Action.Giveable : Action → Prop
  | .giveItem item amount _ => item ≠ "" ∧ ∀ n, amount = some n → n.finite = .ok true
  | .unknown .. => True

def Action.isGift : Action → Bool
  | .giveItem .. => true
  | .unknown .. => false

theorem one_le_unitsOf (amount : Option Number) : 1 ≤ unitsOf amount := by
  cases amount with
  | none => exact Int.le_refl 1
  | some n => exact Int.le_max_left ..

theorem exists_floor_of_finite {n : Number} (h : n.finite = .ok true) :
    ∃ units, n.floor = .ok units := by
  cases n with
  | int n => exact ⟨n, rfl⟩
  | double x =>
    cases x with
    | finite negative mantissa exponent => exact ⟨_, rfl⟩
    | infinite negative => cases h
    | nan => cases h

theorem grantAmount_eq {amount : Option Number} (h : ∀ n, amount = some n → n.finite = .ok true) :
    grantAmount amount = .ok (unitsOf amount) := by
  cases amount with
  | none => rfl
  | some n =>
    have hfinite := h n rfl
    obtain ⟨units, hunits⟩ := exists_floor_of_finite hfinite
    simp only [grantAmount, hfinite, unitsOf, hunits]
    rfl

theorem Action.Giveable.grantable {a : Action} (h : a.Giveable) : a.Grantable := by
  cases a with
  | unknown type source => trivial
  | giveItem item amount ifMissing => exact ⟨_, grantAmount_eq h.2⟩

theorem unitsOf_eq {n : Number} {units : Int} (h : n.floor = .ok units) :
    unitsOf (some n) = max 1 units := by
  simp [unitsOf, h, Except.toOption]

theorem exists_of_mem_giftsAfter {slots : List Slot} {given : List (String × Int)} {a : Action}
    {gift : String × Int} (h : gift ∈ giftsAfter slots given a) : gift ∈ given ∨
      ∃ amount ifMissing, a = .giveItem gift.1 amount ifMissing ∧ gift.2 = unitsOf amount := by
  cases a with
  | unknown type source => exact .inl h
  | giveItem item amount ifMissing =>
    simp only [giftsAfter] at h
    split at h
    · exact .inl h
    · rcases List.mem_append.mp h with h | h
      · exact .inl h
      · obtain rfl := List.mem_singleton.mp h
        exact .inr ⟨amount, ifMissing, rfl, rfl⟩

theorem exists_of_mem_giftsOf {slots : List Slot} {actions : List Action} {gift : String × Int}
    (h : gift ∈ giftsOf slots actions) : ∃ amount ifMissing,
      .giveItem gift.1 amount ifMissing ∈ actions ∧ gift.2 = unitsOf amount := by
  have hfold : ∀ given, gift ∈ actions.foldl (giftsAfter slots) given → gift ∈ given ∨
      ∃ amount ifMissing, .giveItem gift.1 amount ifMissing ∈ actions ∧
        gift.2 = unitsOf amount := by
    clear h
    induction actions with
    | nil => exact fun given h => .inl h
    | cons a rest ih =>
      intro given h
      rcases ih _ h with h | ⟨amount, ifMissing, ha, hunits⟩
      · rcases exists_of_mem_giftsAfter h with h | ⟨amount, ifMissing, rfl, hunits⟩
        · exact .inl h
        · exact .inr ⟨amount, ifMissing, List.mem_cons_self, hunits⟩
      · exact .inr ⟨amount, ifMissing, List.mem_cons_of_mem a ha, hunits⟩
  exact (hfold [] h).resolve_left List.not_mem_nil

theorem stackOf_isEmpty {gift : String × Int} (hitem : gift.1 ≠ "") (hcount : 0 < gift.2) :
    (stackOf gift).isEmpty = false :=
  Slot.isEmpty_of_holds hitem (Slot.holds_str.mpr ⟨rfl, hcount⟩)

@[simp] theorem fillSlots_nil_right (slots : List Slot) : fillSlots slots [] = slots := by
  cases slots <;> rfl

theorem fillFirstEmpty_eq_none_iff {item : String} {count : Int} {slots : List Slot} :
    fillFirstEmpty item count slots = none ↔ slots.any Slot.isEmpty = false := by
  induction slots with
  | nil => simp [fillFirstEmpty]
  | cons s rest ih => cases hs : s.isEmpty <;> simp [fillFirstEmpty, hs, ih]

theorem emptyPositions_cons (s : Slot) (rest : List Slot) :
    emptyPositions (s :: rest) =
      (if s.isEmpty then [0] else []) ++ (emptyPositions rest).map (· + 1) := by
  unfold emptyPositions
  rw [List.findIdxs_cons, List.findIdxs_start]
  split <;> simp

/-- Without gifts before it, a stack goes into the first empty slot. -/
theorem fillFirstEmpty_eq (item : String) (count : Int) (slots : List Slot) :
    fillFirstEmpty item count slots =
      if (emptyPositions slots).length = 0 then none else some (fillSlots slots [(item, count)]) := by
  induction slots with
  | nil => rfl
  | cons s rest ih =>
    rw [emptyPositions_cons]
    cases hs : s.isEmpty with
    | true => simp [fillFirstEmpty, fillSlots, hs, stackOf]
    | false =>
      simp only [fillFirstEmpty, fillSlots, hs, ih, List.length_append, List.length_map,
        Bool.false_eq_true, if_false, List.length_nil, Nat.zero_add]
      split <;> rfl

/-- The next stack after some goes into the next empty slot, if there is one. -/
theorem fillFirstEmpty_fillSlots (item : String) (count : Int) {slots : List Slot}
    {given : List (String × Int)} (h : Substantial given) :
    fillFirstEmpty item count (fillSlots slots given) =
      if (emptyPositions slots).length ≤ given.length then none
      else some (fillSlots slots (given ++ [(item, count)])) := by
  fun_induction fillSlots slots given with
  | case1 slots =>
    simp only [fillFirstEmpty_eq, List.length_nil, Nat.le_zero, List.nil_append]
  | case2 => rfl
  | case3 s rest gift given hs ih =>
    obtain ⟨hitem, hcount⟩ := h gift List.mem_cons_self
    have hrest := ih fun g hg => h g (List.mem_cons_of_mem _ hg)
    simp only [fillFirstEmpty, stackOf_isEmpty hitem hcount, hrest, emptyPositions_cons, fillSlots,
      hs, if_true, List.length_append, List.length_map, List.length_cons, List.length_nil,
      List.cons_append, Bool.false_eq_true, if_false, Nat.zero_add,
      Nat.add_le_add_iff_right]
    split <;> rfl
  | case4 s rest gift given hs ih =>
    have hrest := ih h
    simp only [fillFirstEmpty, hrest, emptyPositions_cons, fillSlots, hs, List.length_append,
      List.length_map, List.length_nil, List.cons_append, Bool.false_eq_true, if_false, Nat.zero_add]
    split <;> rfl

theorem holds_of_isEmpty {s : Slot} (hs : s.isEmpty = true) {item : String} (hitem : item ≠ "") :
    s.holds item = false := by
  rw [Bool.eq_false_iff]
  intro hholds
  rw [Slot.isEmpty_of_holds hitem hholds] at hs
  cases hs

theorem holds_stackOf {gift : String × Int} (hcount : 0 < gift.2) (item : String) :
    (stackOf gift).holds item = (gift.1 == item) := by
  simp [stackOf, Slot.holds, hcount]

/-- After gifts that there is room for, what was there and what was given is held, and nothing
else. -/
theorem holds_fillSlots {item : String} (hitem : item ≠ "") {slots : List Slot}
    {given : List (String × Int)} (h : Substantial given)
    (hroom : given.length ≤ (emptyPositions slots).length) :
    ((fillSlots slots given).any fun slot => slot.holds item) = isThere slots given item := by
  fun_induction fillSlots slots given with
  | case1 slots => simp [isThere]
  | case2 => cases hroom
  | case3 s rest gift given hs ih =>
    obtain ⟨-, hcount⟩ := h gift List.mem_cons_self
    have hrest := ih (fun g hg => h g (List.mem_cons_of_mem _ hg))
      (by simpa [emptyPositions_cons, hs, Nat.add_comm 1] using hroom)
    simp only [isThere, List.any_cons, holds_of_isEmpty hs hitem, holds_stackOf hcount,
      Bool.false_or] at hrest ⊢
    rw [hrest, Bool.or_left_comm]
  | case4 s rest gift given hs ih =>
    have hrest := ih h (by simpa [emptyPositions_cons, hs] using hroom)
    simp only [isThere, List.any_cons] at hrest ⊢
    rw [hrest, Bool.or_assoc]

theorem filled_fillSlots {slots : List Slot} {given : List (String × Int)}
    (hroom : given.length ≤ (emptyPositions slots).length) :
    Filled slots given (fillSlots slots given) := by
  fun_induction fillSlots slots given with
  | case1 slots => exact ⟨rfl, nofun, fun _ _ => rfl⟩
  | case2 => cases hroom
  | case3 s rest gift given hs ih =>
    have hrest := ih (by simpa [emptyPositions_cons, hs, Nat.add_comm 1] using hroom)
    have hpositions : emptyPositions (s :: rest) = 0 :: (emptyPositions rest).map (· + 1) := by
      simp [emptyPositions_cons, hs]
    refine ⟨by simp [hrest.length], fun k g hg => ?_, fun p hp => ?_⟩
    · rw [hpositions]
      cases k with
      | zero =>
        cases hg
        exact ⟨0, rfl, rfl⟩
      | succ k =>
        obtain ⟨p, hp, hplaced⟩ := hrest.placed k g hg
        exact ⟨p + 1, by simp [hp], hplaced⟩
    · rw [hpositions] at hp
      cases p with
      | zero => simp at hp
      | succ p => exact hrest.kept p (by simpa [← List.map_take] using hp)
  | case4 s rest gift given hs ih =>
    have hrest := ih (by simpa [emptyPositions_cons, hs] using hroom)
    have hpositions : emptyPositions (s :: rest) = (emptyPositions rest).map (· + 1) := by
      simp [emptyPositions_cons, hs]
    refine ⟨by simp [hrest.length], fun k g hg => ?_, fun p hp => ?_⟩
    · obtain ⟨p, hp, hplaced⟩ := hrest.placed k g hg
      exact ⟨p + 1, by simp [hpositions, hp], hplaced⟩
    · cases p with
      | zero => rfl
      | succ p => exact hrest.kept p (by simpa [hpositions, ← List.map_take] using hp)

/-- The slots that an inventory gets by an action, if it gets other slots. -/
def Snapshot.slotsAfter (inventory : Snapshot) (item : String) (count : Int) (ifMissing : Bool) :
    Option (List Slot) :=
  if ifMissing && inventory.holdsInSlot item then none
  else fillFirstEmpty item count inventory.slots

/-- After gifts, an action gives the next one, unless it must not or there is no room. -/
theorem slotsAfter_fillSlots {inventory : Snapshot} {given : List (String × Int)}
    (h : Substantial given) (hroom : given.length ≤ (emptyPositions inventory.slots).length)
    {item : String} (hitem : item ≠ "") (count : Int) (ifMissing : Bool) :
    (inventory.withSlots (fillSlots inventory.slots given)).slotsAfter item count ifMissing =
      if (emptyPositions inventory.slots).length ≤ given.length ||
          ifMissing && isThere inventory.slots given item then none
      else some (fillSlots inventory.slots (given ++ [(item, count)])) := by
  have hholds : (inventory.withSlots (fillSlots inventory.slots given)).holdsInSlot item =
      isThere inventory.slots given item := holds_fillSlots hitem h hroom
  rw [Snapshot.slotsAfter, hholds]
  by_cases hskip : (ifMissing && isThere inventory.slots given item) = true
  · simp [hskip]
  · simp only [Bool.not_eq_true] at hskip
    simp only [hskip, Bool.false_eq_true, if_false, Bool.or_false, decide_eq_true_eq]
    exact fillFirstEmpty_fillSlots item count h

namespace GrantSite.Keeps

variable {σ : Type} {site : GrantSite σ} {quiet : σ → Prop} {ledger : σ → Ledger} {supply : Supply}

theorem ledger_give (h : site.Keeps quiet ledger) (hwrites : ∀ n, supply.writeFails n = false)
    {s : σ} (hs : quiet s) {inventory : Snapshot}
    (hseen : ((site.stock s).get supply).1 = some inventory) {item : String}
    {amount : Option Number} {count : Int} (hcount : grantAmount amount = .ok count)
    (ifMissing : Bool) :
    let s' := (site.give supply item amount ifMissing s).2
    let seen := ((site.stock s).get supply).2
    quiet s' ∧ ledger s' = match inventory.slotsAfter item count ifMissing with
      | none => ⟨seen, (ledger s).written⟩
      | some slots =>
        ⟨⟨{ seen.service with attempts := seen.service.attempts + 1 }.store slots,
          some (inventory.withSlots slots)⟩, (ledger s).written ++ [slots]⟩ := by
  have hknown := ((site.stock s).steps_get (P := fun _ => True) supply []).2
  obtain ⟨hq₁, hl₁⟩ := h.setStock s ((site.stock s).get supply).2 hs
  rw [hseen] at hknown
  unfold GrantSite.give
  dsimp only
  rw [hseen]
  generalize ((site.stock s).get supply).2 = seen at hknown hq₁ hl₁ ⊢
  have hstock : (site.stock (site.setStock s seen)).cache = some inventory := by
    rw [← h.stock, hl₁, hknown]
  obtain ⟨hq₂, hl₂⟩ := h.broadcast _ inventory hq₁ hstock
  rw [hl₁] at hl₂
  dsimp only
  generalize site.notify (.broadcast inventory) (site.setStock s seen) = s₂ at hq₂ hl₂ ⊢
  unfold Snapshot.slotsAfter
  split
  · exact ⟨hq₂, hl₂⟩
  split
  · rename_i hfull
    rw [fillFirstEmpty_eq_none_iff.mpr (by simpa using hfull)]
    exact ⟨hq₂, hl₂⟩
  rw [hcount]
  dsimp only
  cases hfill : fillFirstEmpty item count inventory.slots with
  | none => exact ⟨hq₂, hl₂⟩
  | some slots =>
    have hs₂ : site.stock s₂ = seen := by rw [← h.stock, hl₂]
    have hwrite : (site.stock s₂).write supply slots = (.ok (), ⟨{ seen.service with
        attempts := seen.service.attempts + 1 }.store slots, seen.cache⟩) := by
      simp [hs₂, Stock.write, hwrites]
    obtain ⟨hq₃, hl₃⟩ := h.ledger_granted hq₂ hwrite inventory
    dsimp only
    rw [hwrite]
    refine ⟨hq₃, hl₃.trans ?_⟩
    rw [hs₂, hl₂]

end GrantSite.Keeps

theorem GrantSite.execute_giveItem {σ : Type} {site : GrantSite σ} {supply : Supply} {item : String}
    {amount : Option Number} {ifMissing given : Bool} {s : σ}
    (h : (site.give supply item amount ifMissing s).1 = .ok given) (rest : List Action) :
    site.execute supply (.giveItem item amount ifMissing :: rest) s =
      site.execute supply rest (site.give supply item amount ifMissing s).2 := by
  rw [GrantSite.execute]
  split
  · rename_i hfault
    rw [hfault] at h
    cases h
  · rename_i hgave
    rw [hgave]

theorem Stock.stored_get (supply : Supply) (s : Stock) :
    (s.get supply).2.service.stored = s.service.stored ∧
      (s.get supply).2.service.writes = s.service.writes := by
  unfold Stock.get
  split
  · exact ⟨rfl, rfl⟩
  · dsimp only
    split <;> exact ⟨rfl, rfl⟩

/-- What has become of a stock, where an inventory could be seen, after gifts. -/
structure Stock.Given (s : Stock) (supply : Supply) (before : Stock) (inventory : Snapshot)
    (given : List (String × Int)) : Prop where
  substantial : Substantial given
  room : given.length ≤ (emptyPositions inventory.slots).length
  seen : (s.get supply).1 = some (inventory.withSlots (fillSlots inventory.slots given))
  stored : s.service.stored = if given = [] then before.service.stored
    else before.service.stored.withSlots (fillSlots inventory.slots given)
  writes : s.service.writes = before.service.writes + given.length

namespace GrantSite.Keeps

variable {σ : Type} {site : GrantSite σ} {quiet : σ → Prop} {ledger : σ → Ledger} {supply : Supply}

theorem given_give (h : site.Keeps quiet ledger) (hwrites : ∀ n, supply.writeFails n = false)
    {s : σ} (hs : quiet s) {before : Stock} {inventory : Snapshot} {given : List (String × Int)}
    (hgiven : (site.stock s).Given supply before inventory given) {item : String}
    {amount : Option Number} {ifMissing : Bool}
    (hgiveable : (Action.giveItem item amount ifMissing).Giveable) :
    let s' := (site.give supply item amount ifMissing s).2
    let given' := giftsAfter inventory.slots given (.giveItem item amount ifMissing)
    quiet s' ∧ (site.stock s').Given supply before inventory given' ∧
      (site.stock s').cache = some (inventory.withSlots (fillSlots inventory.slots given')) := by
  obtain ⟨hitem, hfinite⟩ := hgiveable
  obtain ⟨hq, hl⟩ := h.ledger_give hwrites hs hgiven.seen (grantAmount_eq hfinite) ifMissing
  obtain ⟨hstored, hwritten⟩ := (site.stock s).stored_get supply
  have hknown := ((site.stock s).steps_get (P := fun _ => True) supply []).2
  rw [hgiven.seen] at hknown
  rw [slotsAfter_fillSlots hgiven.substantial hgiven.room hitem] at hl
  intro s' given'
  have hstock : site.stock s' = (ledger s').stock := (h.stock s').symm
  refine ⟨hq, ?_⟩
  by_cases hskip : ((emptyPositions inventory.slots).length ≤ given.length ||
      ifMissing && isThere inventory.slots given item) = true
  · have hgiven' : given' = given := if_pos hskip
    rw [if_pos hskip] at hl
    rw [hgiven', hstock, hl]
    refine ⟨⟨hgiven.substantial, hgiven.room, ?_, ?_, ?_⟩, hknown⟩
    · rw [Stock.get_of_known hknown]
    · exact hstored.trans hgiven.stored
    · exact hwritten.trans hgiven.writes
  · have hgiven' : given' = given ++ [(item, unitsOf amount)] := if_neg hskip
    rw [if_neg hskip] at hl
    rw [hgiven', hstock, hl]
    refine ⟨⟨?_, ?_, ?_, ?_, ?_⟩, rfl⟩
    · intro gift hgift
      rcases List.mem_append.mp hgift with hgift | hgift
      · exact hgiven.substantial gift hgift
      · obtain rfl := List.mem_singleton.mp hgift
        exact ⟨hitem, one_le_unitsOf amount⟩
    · simp only [Bool.or_eq_true, decide_eq_true_eq, not_or] at hskip
      simp only [List.length_append, List.length_singleton]
      omega
    · rw [Stock.get_of_known rfl]
      rfl
    · have hbefore : (site.stock s).service.stored.withSlots
          (fillSlots inventory.slots (given ++ [(item, unitsOf amount)])) =
          before.service.stored.withSlots
            (fillSlots inventory.slots (given ++ [(item, unitsOf amount)])) := by
        rw [hgiven.stored]
        split <;> rfl
      simp only [Service.store, hstored, hbefore, List.append_eq_nil_iff, List.cons_ne_self,
        and_false, if_false]
    · simp only [Service.store, hwritten, hgiven.writes, List.length_append, List.length_singleton,
        Nat.add_assoc]

/-- Whatever is executed after gifts gives what the pass chooses after them, and the inventory is
known from the first gift on. -/
theorem given_execute (h : site.Keeps quiet ledger) (hwrites : ∀ n, supply.writeFails n = false)
    {actions : List Action} (hgiveable : ∀ a ∈ actions, a.Giveable) {s : σ} (hs : quiet s)
    {before : Stock} {inventory : Snapshot} {given : List (String × Int)}
    (hgiven : (site.stock s).Given supply before inventory given) :
    let s' := (site.execute supply actions s).2
    let given' := actions.foldl (giftsAfter inventory.slots) given
    (site.stock s').Given supply before inventory given' ∧
      (site.stock s').cache = if (site.stock s).cache.isSome || actions.any Action.isGift then
        some (inventory.withSlots (fillSlots inventory.slots given')) else none := by
  induction actions generalizing s given with
  | nil =>
    refine ⟨hgiven, ?_⟩
    have hseen := hgiven.seen
    cases hcache : (site.stock s).cache with
    | none => simpa [GrantSite.execute] using hcache
    | some known =>
      rw [Stock.get_of_known hcache] at hseen
      simpa [GrantSite.execute, hcache] using hseen
  | cons a rest ih =>
    have hrest := fun a' ha' => hgiveable a' (List.mem_cons_of_mem a ha')
    cases a with
    | unknown type source => exact ih hrest hs hgiven
    | giveItem item amount ifMissing =>
      have hgift := hgiveable _ List.mem_cons_self
      obtain ⟨hq, hgiven', hcache⟩ := h.given_give hwrites hs hgiven hgift
      obtain ⟨hafter, hknown⟩ := ih hrest hq hgiven'
      obtain ⟨given, hok⟩ := site.give_ok hwrites hgift.grantable s
      rw [execute_giveItem hok]
      refine ⟨hafter, hknown.trans ?_⟩
      simp [hcache, Action.isGift]

/-- Where inventories can be written, actions are executed as one batch: what one pass over them
gives goes into the empty slots in order, with one write for each stack. An inventory that was not
known is looked up for the first gift, and so it stays unknown if there is none. -/
theorem execute_batch (h : site.Keeps quiet ledger) (hwrites : ∀ n, supply.writeFails n = false)
    {s : σ} (hs : quiet s) {inventory : Snapshot}
    (hseen : ((site.stock s).get supply).1 = some inventory) {actions : List Action}
    (hgiveable : ∀ a ∈ actions, a.Giveable) :
    let given := giftsOf inventory.slots actions
    let before := site.stock s
    let after := site.stock (site.execute supply actions s).2
    (site.execute supply actions s).1 = .ok () ∧ ∃ slots, Filled inventory.slots given slots ∧
      after.cache = (if before.cache.isSome || actions.any Action.isGift then
        some (inventory.withSlots slots) else none) ∧
      after.service.stored = (if given = [] then before.service.stored
        else before.service.stored.withSlots slots) ∧
      after.service.writes = before.service.writes + given.length ∧
      ∀ gift ∈ given, 1 ≤ gift.2 ∧ ∃ amount ifMissing,
        .giveItem gift.1 amount ifMissing ∈ actions ∧ grantAmount amount = .ok gift.2 ∧
          ∀ n, amount = some n → ∃ units, n.floor = .ok units ∧ (1 ≤ units → gift.2 = units) := by
  intro given before after
  have hstart : before.Given supply before inventory [] :=
    ⟨nofun, Nat.zero_le _, by rw [fillSlots_nil_right]; exact hseen, rfl, rfl⟩
  obtain ⟨hgiven, hcache⟩ := h.given_execute hwrites hgiveable hs hstart
  refine ⟨site.execute_ok hwrites (fun a ha => (hgiveable a ha).grantable) s,
    fillSlots inventory.slots given, filled_fillSlots hgiven.room, hcache, hgiven.stored,
    hgiven.writes, fun gift hgift => ⟨(hgiven.substantial gift hgift).2, ?_⟩⟩
  obtain ⟨amount, ifMissing, ha, hunits⟩ := exists_of_mem_giftsOf hgift
  have hfinite := (hgiveable _ ha).2
  refine ⟨amount, ifMissing, ha, hunits ▸ grantAmount_eq hfinite, ?_⟩
  rintro n rfl
  obtain ⟨units, hfloor⟩ := exists_floor_of_finite (hfinite n rfl)
  exact ⟨units, hfloor, fun hone => by rw [hunits, unitsOf_eq hfloor, Int.max_eq_right hone]⟩

end GrantSite.Keeps

/-- Slots of which only the first holds something: one is used up, one has no item, and one has an
item without an id. -/
def oddSlots : List Slot := [⟨.str "rope", 1⟩, ⟨.str "rope", -2⟩, ⟨.null, 5⟩, ⟨.str "", 3⟩]

def oddService : Service := ⟨⟨oddSlots, [("equippedRodId", .str "rod")]⟩, 0, 0, 0⟩

/-- Gifts of which the first and the third are there already, and for the last there is no room. -/
def oddGifts : List Action :=
  [.giveItem "rope" none true, .unknown "heal" [],
    .giveItem "key" (some (.double (.finite false 5 (-1)))) true, .giveItem "key" none true,
    .giveItem "key" (some (.int (-4))) false, .giveItem "coin" (some 7) true,
    .giveItem "gem" none false]

namespace GrantSite

theorem execute_batch_odd :
    let after := (recording.execute .working oddGifts ⟨.ofService oddService, []⟩).2.stock
    after.service.stored.slots =
        [⟨.str "rope", 1⟩, ⟨.str "key", 2⟩, ⟨.str "key", 1⟩, ⟨.str "coin", 7⟩] ∧
      ∃ slots, Filled oddSlots [("key", 2), ("key", 1), ("coin", 7)] slots ∧
        after.cache = some ⟨slots, [("equippedRodId", .str "rod")]⟩ ∧
        after.service.stored = ⟨slots, [("equippedRodId", .str "rod")]⟩ ∧
        after.service.writes = 3 := by
  have hgiveable : ∀ a ∈ oddGifts, a.Giveable := by
    intro a ha
    simp only [oddGifts, List.mem_cons, List.not_mem_nil, or_false] at ha
    rcases ha with rfl | rfl | rfl | rfl | rfl | rfl | rfl
    case inr.inl => trivial
    all_goals exact ⟨by decide, by rintro n ⟨⟩ <;> rfl⟩
  have hworking : ∀ n, Supply.working.writeFails n = false := fun _ => rfl
  obtain ⟨-, slots, hfilled, hcache, hstored, hwrites, -⟩ :=
    recording_keeps.execute_batch hworking (s := ⟨.ofService oddService, []⟩) trivial rfl hgiveable
  exact ⟨rfl, slots, hfilled, hcache, hstored, hwrites⟩

/-- An inventory that could be looked up, but is not, as nothing is given. -/
theorem not_known_of_no_gift :
    ¬ ∀ (actions : List Action) (s : GrantLog) (inventory : Snapshot),
      (∀ a ∈ actions, a.Giveable) → (s.stock.get .working).1 = some inventory →
      ∃ slots, Filled inventory.slots (giftsOf inventory.slots actions) slots ∧
        (recording.execute .working actions s).2.stock.cache =
          some (inventory.withSlots slots) := by
  intro h
  obtain ⟨slots, -, hcache⟩ := h [.unknown "heal" []] ⟨.ofService oddService, []⟩
    oddService.stored (by simp [Action.Giveable]) rfl
  cases hcache

end GrantSite

end Parley
