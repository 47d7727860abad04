import Mathlib.Data.List.Chain
import Parley.Proofs.Inventory.Ledger

/-!
# Histories of an inventory

The history of an inventory is the slots that it had at first and those of each write, in order. If
every write puts an item that no slot holds into an empty slot, then no item is given twice, and a
slot that holds an item keeps it for ever.
-/

namespace Parley

def HeldIn (slots : List Slot) (item : String) : Prop := ∃ slot ∈ slots, slot.holds item = true

/-- Some slot holds the item that did not hold it before. -/
def Grants (item : String) (before after : List Slot) : Prop :=
  ∃ (p : Nat) (slot : Slot), after[p]? = some slot ∧ slot.holds item = true ∧
    ∀ old, before[p]? = some old → old.holds item = false

/-- Slots that can hold no more are the same in both. -/
def Keeps (before after : List Slot) : Prop :=
  ∀ (p : Nat) (slot : Slot), before[p]? = some slot → slot.isEmpty = false → after[p]? = some slot

/-- An item that no slot holds is put into an empty slot. -/
structure Gives (item : String) (before after : List Slot) : Prop where
  named : item ≠ ""
  missing : ¬ HeldIn before item
  filled : ∃ (p : Nat) (count : Int) (old : Slot), before[p]? = some old ∧ old.isEmpty = true ∧
    0 < count ∧ after = before.set p ⟨.str item, count⟩

theorem Slot.isEmpty_of_holds {slot : Slot} {item : String} (hitem : item ≠ "")
    (h : slot.holds item = true) : slot.isEmpty = false := by
  obtain ⟨kept, count⟩ := slot
  simp only [Slot.holds, Bool.and_eq_true, decide_eq_true_eq] at h
  obtain ⟨hkept, hcount⟩ := h
  cases kept with
  | str t =>
    simp only [beq_iff_eq] at hkept
    subst hkept
    simp [Slot.isEmpty, Json.truthy, hitem, hcount]
  | _ => cases hkept

theorem Slot.holds_str {item other : String} {count : Int} :
    Slot.holds ⟨.str item, count⟩ other = true ↔ item = other ∧ 0 < count := by
  simp [Slot.holds]

theorem fillFirstEmpty_eq_set {item : String} {count : Int} {slots slots' : List Slot}
    (h : fillFirstEmpty item count slots = some slots') :
    ∃ (p : Nat) (old : Slot), slots[p]? = some old ∧ old.isEmpty = true ∧
      slots' = slots.set p ⟨.str item, count⟩ := by
  induction slots generalizing slots' with
  | nil => cases h
  | cons s rest ih =>
    unfold fillFirstEmpty at h
    split at h
    · rename_i hempty
      cases h
      exact ⟨0, s, rfl, hempty, rfl⟩
    · obtain ⟨filled, hfilled, rfl⟩ := Option.map_eq_some_iff.mp h
      obtain ⟨p, old, hold, hempty, rfl⟩ := ih hfilled
      exact ⟨p + 1, old, hold, hempty, rfl⟩

theorem grantAmount_pos {amount : Option Number} {count : Int}
    (h : grantAmount amount = .ok count) : 0 < count := by
  cases amount with
  | none =>
    cases h
    exact Int.one_pos
  | some n =>
    unfold grantAmount at h
    dsimp only at h
    cases hfinite : n.finite with
    | error fault => rw [hfinite] at h; cases h
    | ok finite =>
      rw [hfinite] at h
      cases finite with
      | false =>
        cases h
        exact Int.one_pos
      | true =>
        cases hfloor : n.floor with
        | error fault => simp only [hfloor] at h; cases h
        | ok units =>
          simp only [hfloor] at h
          cases h
          omega

theorem heldIn_iff {s : Snapshot} {item : String} :
    s.holdsInSlot item = true ↔ HeldIn s.slots item := by
  simp [Snapshot.holdsInSlot, HeldIn]

namespace Gives

variable {item : String} {before after : List Slot}

theorem keeps (h : Gives item before after) : Keeps before after := by
  obtain ⟨p, count, old, hold, hempty, hcount, rfl⟩ := h.filled
  intro q slot hslot hfull
  rw [List.getElem?_set]
  split
  · rename_i hpq
    subst hpq
    rw [hold] at hslot
    cases hslot
    rw [hempty] at hfull
    cases hfull
  · exact hslot

theorem heldIn (h : Gives item before after) : HeldIn after item := by
  obtain ⟨p, count, old, hold, hempty, hcount, rfl⟩ := h.filled
  have hp : p < before.length := (List.getElem?_eq_some_iff.mp hold).1
  exact ⟨⟨.str item, count⟩, List.mem_set hp _, Slot.holds_str.mpr ⟨rfl, hcount⟩⟩

theorem grants (h : Gives item before after) : Grants item before after := by
  obtain ⟨p, count, old, hold, hempty, hcount, rfl⟩ := h.filled
  have hp : p < before.length := (List.getElem?_eq_some_iff.mp hold).1
  refine ⟨p, ⟨.str item, count⟩, by simp [hp], Slot.holds_str.mpr ⟨rfl, hcount⟩, ?_⟩
  intro old' hold'
  obtain rfl : old = old' := Option.some.inj (hold.symm.trans hold')
  rw [Bool.eq_false_iff]
  intro hholds
  rw [Slot.isEmpty_of_holds h.named hholds] at hempty
  cases hempty

theorem eq_of_grants (h : Gives item before after) {other : String}
    (hgrants : Grants other before after) : other = item := by
  obtain ⟨p, count, old, hold, hempty, hcount, rfl⟩ := h.filled
  obtain ⟨q, slot, hslot, hholds, hnew⟩ := hgrants
  rw [List.getElem?_set] at hslot
  split at hslot
  · split at hslot
    · cases hslot
      exact (Slot.holds_str.mp hholds).1.symm
    · cases hslot
  · rw [hnew slot hslot] at hholds
    cases hholds

end Gives

theorem Keeps.trans {a b c : List Slot} (h : Keeps a b) (h' : Keeps b c) : Keeps a c :=
  fun p slot hslot hfull => h' p slot (h p slot hslot hfull) hfull

theorem Keeps.heldIn {before after : List Slot} (h : Keeps before after) {item : String}
    (hitem : item ≠ "") (hheld : HeldIn before item) : HeldIn after item := by
  obtain ⟨slot, hslot, hholds⟩ := hheld
  obtain ⟨p, hp⟩ := List.getElem?_of_mem hslot
  exact ⟨slot, List.mem_of_getElem? (h p slot hp (Slot.isEmpty_of_holds hitem hholds)), hholds⟩

/-- A history in which every write gives an item, none is given twice and none that is there from
the beginning, and every slot keeps the item that it holds. An empty text names no item. -/
structure RewardedOnce (history : List (List Slot)) : Prop where
  each : ∀ (i : Nat) (_ : i + 1 < history.length), ∃ item, Grants item history[i] history[i + 1]
  once : ∀ (item : String) (i j : Nat) (_ : i + 1 < history.length) (_ : j + 1 < history.length),
    Grants item history[i] history[i + 1] → Grants item history[j] history[j + 1] → i = j
  never : ∀ (item : String) (slots : List Slot), history.head? = some slots → HeldIn slots item →
    ∀ (i : Nat) (_ : i + 1 < history.length), ¬ Grants item history[i] history[i + 1]
  lasting : ∀ (item : String), item ≠ "" → ∀ (i j : Nat) (_ : i ≤ j) (_ : j < history.length)
    (p : Nat) (slot : Slot), history[i][p]? = some slot → slot.holds item = true →
      history[j][p]? = some slot

section

variable {history : List (List Slot)}

theorem keeps_of_isChain (h : history.IsChain fun a b => ∃ item, Gives item a b) {i j : Nat}
    (hij : i ≤ j) (hj : j < history.length) : Keeps history[i] history[j] := by
  induction j, hij using Nat.le_induction with
  | base => exact fun _ _ hslot _ => hslot
  | succ j hij ih =>
    obtain ⟨item, hgives⟩ := h.getElem j hj
    exact (ih (by omega)).trans hgives.keeps

theorem not_heldIn_of_grants (h : history.IsChain fun a b => ∃ item, Gives item a b) {i : Nat}
    (hi : i + 1 < history.length) {item : String}
    (hgrants : Grants item history[i] history[i + 1]) :
    item ≠ "" ∧ ¬ HeldIn history[i] item ∧ HeldIn history[i + 1] item := by
  obtain ⟨given, hgives⟩ := h.getElem i hi
  obtain rfl := hgives.eq_of_grants hgrants
  exact ⟨hgives.named, hgives.missing, hgives.heldIn⟩

/-- If each write gives an item, no item is given twice. -/
theorem rewardedOnce_of_isChain (h : history.IsChain fun a b => ∃ item, Gives item a b) :
    RewardedOnce history where
  each i hi := by
    obtain ⟨item, hgives⟩ := h.getElem i hi
    exact ⟨item, hgives.grants⟩
  once item i j hi hj hgrants hgrants' := by
    -- The slot that holds the item after the first grant still holds it at the second.
    have hlater : ∀ {i j : Nat} (hi : i + 1 < history.length) (hj : j + 1 < history.length),
        Grants item history[i] history[i + 1] → Grants item history[j] history[j + 1] →
        ¬ i < j := by
      intro i j hi hj hgrants hgrants' hij
      obtain ⟨hitem, -, hheld⟩ := not_heldIn_of_grants h hi hgrants
      obtain ⟨-, hmissing, -⟩ := not_heldIn_of_grants h hj hgrants'
      exact hmissing ((keeps_of_isChain h hij (by omega)).heldIn hitem hheld)
    have hij := hlater hi hj hgrants hgrants'
    have hji := hlater hj hi hgrants' hgrants
    omega
  never item slots hslots hheld i hi hgrants := by
    obtain ⟨hitem, hmissing, -⟩ := not_heldIn_of_grants h hi hgrants
    have hfirst : history[0] = slots := by
      rw [List.head?_eq_getElem?, List.getElem?_eq_getElem (by omega)] at hslots
      exact Option.some.inj hslots
    exact hmissing ((keeps_of_isChain h (Nat.zero_le i) (by omega)).heldIn hitem (hfirst ▸ hheld))
  lasting item hitem i j hij hj p slot hslot hholds :=
    keeps_of_isChain h hij hj p slot hslot (Slot.isEmpty_of_holds hitem hholds)

end

/-- A gift of an item that is not held yet; an empty text names no item. -/
def Action.OnlyMissing : Action → Prop
  | .giveItem item _ ifMissing => item ≠ "" ∧ ifMissing = true
  | .unknown .. => True

/-- A ledger in which every write gave an item that was missing, to the slots as they were then. -/
structure Ledger.Honest (service : Service) (l : Ledger) : Prop where
  known : ∀ inventory, l.stock.cache = some inventory →
    inventory.slots = l.stock.service.stored.slots
  stored : (service.stored.slots :: l.written).getLast? = some l.stock.service.stored.slots
  counted : l.stock.service.writes = service.writes + l.written.length
  gives : (service.stored.slots :: l.written).IsChain fun a b => ∃ item, Gives item a b

namespace Ledger

theorem honest_ofService (service : Service) : Honest service ⟨.ofService service, []⟩ :=
  ⟨nofun, rfl, rfl, .singleton _⟩

theorem Step.honest {service : Service} {l l' : Ledger} (h : Step Action.OnlyMissing l l')
    (hl : Honest service l) : Honest service l' := by
  obtain ⟨hknown, hstored, hcounted, hgives⟩ := hl
  cases h with
  | fetched =>
    refine ⟨?_, hstored, hcounted, hgives⟩
    rintro inventory ⟨⟩
    rfl
  | unanswered => exact ⟨nofun, hstored, hcounted, hgives⟩
  | refused => exact ⟨hknown, hstored, hcounted, hgives⟩
  | granted permitted missing counted filled =>
    rename_i now inventory written item amount ifMissing count slots
    have hsame : inventory.slots = now.stored.slots := hknown inventory rfl
    have hgives' : Gives item now.stored.slots slots := by
      obtain ⟨hitem, hif⟩ := permitted
      obtain ⟨p, old, hold, hempty, hset⟩ := fillFirstEmpty_eq_set filled
      rw [hsame] at hold hset
      refine ⟨hitem, ?_, p, count, old, hold, hempty, grantAmount_pos counted, hset⟩
      rw [← hsame, ← heldIn_iff, missing hif]
      exact Bool.false_ne_true
    refine ⟨?_, ?_, ?_, ?_⟩
    · rintro updated ⟨⟩
      rfl
    · rw [← List.cons_append]
      exact List.getLast?_concat
    · simp only [Service.store, List.length_append, List.length_singleton]
      simp only at hcounted
      omega
    · rw [← List.cons_append]
      refine List.IsChain.append hgives (.singleton _) ?_
      intro last hlast next hnext
      rw [hstored] at hlast
      cases hlast
      cases hnext
      exact ⟨item, hgives'⟩

theorem Steps.honest {service : Service} {l l' : Ledger} (h : Steps Action.OnlyMissing l l')
    (hl : Honest service l) : Honest service l' := by
  induction h with
  | refl => exact hl
  | tail _ hstep ih => exact hstep.honest ih

end Ledger
end Parley
