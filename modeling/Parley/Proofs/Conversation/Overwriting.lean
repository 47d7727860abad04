import Parley.Proofs.Conversation.Bookkeeping
import Parley.Proofs.Inventory.History

/-!
# Inventories published during a grant

A grant looks at the inventory before it tells the listeners, and what it writes afterwards is made
of what it saw then. A listener may publish a newer inventory in between: whatever that has and the
grant did not see is not in what is written.
-/

namespace Parley

/-- Every slot of an inventory that is not empty has its place among the slots. -/
def Snapshot.KeptIn (news : Snapshot) (slots : List Slot) : Prop :=
  ∀ (i : Nat) (slot : Slot), news.slots[i]? = some slot → slot.isEmpty = false →
    slots[i]? = some slot

/-- Slots with a stack put into an empty one keep an inventory exactly if it has nothing that the
slots before did not have, except the very same stack. -/
theorem Snapshot.keptIn_set_iff {news : Snapshot} {slots : List Slot} {p : Nat} {old stack : Slot}
    (hold : slots[p]? = some old) (hempty : old.isEmpty = true) :
    news.KeptIn (slots.set p stack) ↔
      ∀ (i : Nat) (slot : Slot), news.slots[i]? = some slot → slot.isEmpty = false →
        slots[i]? = some slot ∨ (i = p ∧ slot = stack) := by
  have hp : p < slots.length := (List.getElem?_eq_some_iff.mp hold).1
  unfold KeptIn
  refine forall_congr' fun i => forall_congr' fun slot => ?_
  refine imp_congr_right fun _ => imp_congr_right fun hfull => ?_
  by_cases hi : i = p
  · subst hi
    have hne : old ≠ slot := by
      rintro rfl
      exact Bool.false_ne_true (hfull.symm.trans hempty)
    have hset : (slots.set i stack)[i]? = some slot ↔ slot = stack := by
      rw [List.getElem?_set_self hp, Option.some.injEq, eq_comm]
    simp [hset, hold, hne]
  · rw [List.getElem?_set_ne (Ne.symm hi)]
    simp [hi]

namespace Engine

/-- Nothing is written between the two. -/
structure Unwritten (e e' : Engine) : Prop where
  written : e'.written = e.written
  service : e'.stock.service = e.stock.service

namespace Unwritten

theorem refl (e : Engine) : Unwritten e e := ⟨rfl, rfl⟩

theorem trans {e e' e'' : Engine} (h : Unwritten e e') (h' : Unwritten e' e'') : Unwritten e e'' :=
  ⟨h'.written.trans h.written, h'.service.trans h.service⟩

end Unwritten

theorem unwritten_receive (inventory : Option Snapshot) (l : Listener) (e : Engine) :
    Unwritten e (receive inventory l e).2 := by
  cases l with
  | manager => exact ⟨rfl, rfl⟩
  | recorder => exact ⟨congrArg Ledger.written (ledger_record rfl e), rfl⟩
  | relay news => exact .refl e

theorem unwritten_hear (inventory : Option Snapshot) (l : Listener) (e : Engine) :
    Unwritten e (hear inventory l e).2 := by
  cases l with
  | manager => exact unwritten_receive inventory .manager e
  | recorder => exact unwritten_receive inventory .recorder e
  | relay news => exact Bus.dispatch_rel .refl .trans (unwritten_receive (some news)) _ e

/-- Whatever listeners publish when they hear of an inventory, they write nothing. -/
theorem unwritten_publishInventory (inventory : Option Snapshot) (e : Engine) :
    Unwritten e (publishInventory inventory e) :=
  Bus.dispatch_rel .refl .trans (unwritten_hear inventory) _ e

theorem written_write (slots : List Slot) (e : Engine) :
    (e.record (.write slots)).written = e.written ++ [slots] := by
  simp [written, record, List.filterMap_append, Event.written?]

theorem stored_of_write {supply : Supply} {s s' : Stock} {slots : List Slot}
    (h : s.write supply slots = (.ok (), s')) : s'.service.stored.slots = slots := by
  unfold Stock.write at h
  dsimp only at h
  split at h
  · cases h
  · cases h
    rfl

/-- A grant that fills a slot writes the slots that it saw before it told anybody, with the stack in
the first empty one, whoever listens. -/
theorem give_writes {supply : Supply} {item : String} {amount : Option Number} {ifMissing : Bool}
    {e e' : Engine} (h : site.give supply item amount ifMissing e = (.ok true, e')) :
    ∃ inventory count slots, (e.stock.get supply).1 = some inventory ∧
      grantAmount amount = .ok count ∧ fillFirstEmpty item count inventory.slots = some slots ∧
      e'.written = e.written ++ [slots] ∧ e'.stock.service.stored.slots = slots := by
  unfold GrantSite.give at h
  dsimp only at h
  generalize hseen : ((site.stock e).get supply).1 = seen at h
  have hlooked : (site.setStock e ((site.stock e).get supply).2).written = e.written := rfl
  generalize site.setStock e ((site.stock e).get supply).2 = e₁ at h hlooked
  cases seen with
  | none => cases h
  | some inventory =>
    dsimp only at h
    have htold : (site.notify (.broadcast inventory) e₁).written = e₁.written :=
      (unwritten_publishInventory (some inventory) e₁).written
    generalize site.notify (.broadcast inventory) e₁ = e₂ at h htold
    split at h
    · cases h
    split at h
    · cases h
    split at h
    · cases h
    rename_i count hcount
    split at h
    · cases h
    rename_i slots hfilled
    split at h
    · cases h
    rename_i stock hwrite
    cases h
    have hafter := unwritten_publishInventory (some (inventory.withSlots slots))
      (site.setStock (site.notify (.write slots) (site.setStock e₂ stock))
        ((site.stock (site.notify (.write slots) (site.setStock e₂ stock))).replace
          (some (inventory.withSlots slots))))
    have hwritten : (site.notify (.write slots) (site.setStock e₂ stock)).written =
        e.written ++ [slots] := by
      rw [← hlooked, ← htold]
      exact written_write slots (site.setStock e₂ stock)
    refine ⟨inventory, count, slots, hseen, hcount, hfilled, hafter.written.trans hwritten, ?_⟩
    exact (congrArg (fun s => s.stored.slots) hafter.service).trans (stored_of_write hwrite)

/-- What a listener publishes while a grant tells the inventory is kept by the slots that the grant
writes exactly if it has nothing that the grant did not see, except the very stack that is given. -/
theorem keptIn_iff_of_give {supply : Supply} {item : String} {amount : Option Number}
    {ifMissing : Bool} {e e' : Engine}
    (h : site.give supply item amount ifMissing e = (.ok true, e')) :
    ∃ inventory count slots p, (e.stock.get supply).1 = some inventory ∧
      grantAmount amount = .ok count ∧ e'.written = e.written ++ [slots] ∧
      e'.stock.service.stored.slots = slots ∧ ∀ news : Snapshot, news.KeptIn slots ↔
        ∀ (i : Nat) (slot : Slot), news.slots[i]? = some slot → slot.isEmpty = false →
          inventory.slots[i]? = some slot ∨ (i = p ∧ slot = ⟨.str item, count⟩) := by
  obtain ⟨inventory, count, slots, hseen, hcount, hfilled, hwritten, hstored⟩ := give_writes h
  obtain ⟨p, old, hold, hempty, hslots⟩ := fillFirstEmpty_eq_set hfilled
  refine ⟨inventory, count, slots, p, hseen, hcount, hwritten, hstored, fun news => ?_⟩
  rw [hslots]
  exact news.keptIn_set_iff hold hempty

/-- An engine with one empty slot, and a relay that publishes an apple in it. -/
def orchard : Engine :=
  (Engine.start (.ofItems [] 1 [])).addListener (.relay ⟨[⟨.str "apple", 1⟩], []⟩)

theorem keptIn_iff_of_give_orchard : ∃ e' inventory count slots p,
    site.give .working "key" none false orchard = (.ok true, e') ∧
    (orchard.stock.get .working).1 = some inventory ∧ grantAmount none = .ok count ∧
    e'.written = orchard.written ++ [slots] ∧ e'.stock.service.stored.slots = slots ∧
    ∀ news : Snapshot, news.KeptIn slots ↔
      ∀ (i : Nat) (slot : Slot), news.slots[i]? = some slot → slot.isEmpty = false →
        inventory.slots[i]? = some slot ∨ (i = p ∧ slot = ⟨.str "key", count⟩) := by
  have hgive : (site.give .working "key" none false orchard).1 = .ok true := rfl
  obtain ⟨inventory, count, slots, p, hkept⟩ := keptIn_iff_of_give (Prod.ext hgive rfl)
  exact ⟨_, inventory, count, slots, p, Prod.ext hgive rfl, hkept⟩

/-- What a relay publishes may be lost: the grant knows of the empty slot only and writes a key where
the apple is. -/
theorem not_kept_apple :
    ¬ ∀ (supply : Supply) (item : String) (amount : Option Number) (ifMissing : Bool)
      (e e' : Engine) (news : Snapshot), (.inventory, .relay news) ∈ e.bus.registrations →
      site.give supply item amount ifMissing e = (.ok true, e') →
      news.KeptIn e'.stock.service.stored.slots := by
  intro h
  have hkept := h .working "key" none false orchard _ ⟨[⟨.str "apple", 1⟩], []⟩
    (by simp [orchard, addListener, Bus.subscribe]) rfl 0 ⟨.str "apple", 1⟩ rfl rfl
  change some (⟨.str "key", 1⟩ : Slot) = some ⟨.str "apple", 1⟩ at hkept
  simp at hkept

end Engine
end Parley
