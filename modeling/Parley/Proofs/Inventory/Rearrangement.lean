import Mathlib.Data.List.Perm.Basic
import Mathlib.Logic.Relation
import Parley.Inventory.Snapshot

/-!
# Rearranging an inventory

Where the items of an inventory are and how many of each there are makes no difference to whether it
has an item, as long as there is one. So an inventory that is rearranged has the same items.
-/

namespace Parley

def Members.Unrelated (name : String) (v : Json) : Prop :=
  namesEquipment name = true → ∀ item, v ≠ .str item

def Slot.Only (item : String) (s : Slot) : Prop := ∀ other, s.holds other = true → other = item

namespace Snapshot

/-- One step of rearranging an inventory. -/
inductive Rearranges : Snapshot → Snapshot → Prop where
  /-- Slots and members are put in another order. -/
  | reorder {slots slots' : List Slot} {extra extra' : Members} (hslots : slots.Perm slots')
      (hextra : extra.Perm extra') : Rearranges ⟨slots, extra⟩ ⟨slots', extra'⟩
  /-- A stack is split in two. -/
  | split {item : Json} {m n : Int} (hm : 0 < m) (hn : 0 < n) (rest : List Slot) (extra : Members) :
      Rearranges ⟨⟨item, m + n⟩ :: rest, extra⟩ ⟨⟨item, m⟩ :: ⟨item, n⟩ :: rest, extra⟩
  /-- A stack gets another size. -/
  | recount {item : Json} {m n : Int} (hm : 0 < m) (hn : 0 < n) (rest : List Slot)
      (extra : Members) : Rearranges ⟨⟨item, m⟩ :: rest, extra⟩ ⟨⟨item, n⟩ :: rest, extra⟩
  /-- An item is moved from a slot to a member that names equipment and told of no item. What is
  left in the slot is more of the item or nothing. -/
  | equip {item name : String} {m : Int} {left : Slot} {v : Json} (hm : 0 < m)
      (hleft : left.Only item) (hname : namesEquipment name = true)
      (hv : Members.Unrelated name v) (rest : List Slot) (extra : Members) :
      Rearranges ⟨⟨.str item, m⟩ :: rest, (name, v) :: extra⟩
        ⟨left :: rest, (name, .str item) :: extra⟩
  /-- A member that tells of no item is there or not. -/
  | member {name : String} {v : Json} (hv : Members.Unrelated name v) (slots : List Slot)
      (extra : Members) : Rearranges ⟨slots, extra⟩ ⟨slots, (name, v) :: extra⟩

/-- One inventory is the other, rearranged in steps that may also be taken back. -/
def Rearranged : Snapshot → Snapshot → Prop := Relation.EqvGen Rearranges

/-- Whether a member names equipment and tells of an item. -/
def equips (item : String) (p : String × Json) : Bool :=
  namesEquipment p.1 && match p.2 with
    | .str t => t == item
    | _ => false

theorem hasItem_eq (s : Snapshot) (item : String) :
    s.hasItem item = (s.extra.any (equips item) || s.slots.any fun slot => slot.holds item) := rfl

theorem equips_of_unrelated {name : String} {v : Json} (h : Members.Unrelated name v)
    (item : String) : equips item (name, v) = false := by
  unfold equips
  cases hname : namesEquipment name with
  | false => rfl
  | true =>
    cases v with
    | str t => exact absurd rfl (h hname t)
    | _ => rfl

theorem equips_str {name : String} (h : namesEquipment name = true) (t item : String) :
    equips item (name, .str t) = (t == item) := by
  simp [equips, h]

theorem holds_stack {m n : Int} (hm : 0 < m) (hn : 0 < n) (item : Json) (other : String) :
    Slot.holds ⟨item, m⟩ other = Slot.holds ⟨item, n⟩ other := by
  simp [Slot.holds, hm, hn]

theorem Rearranges.hasItem_eq {s s' : Snapshot} (h : Rearranges s s') (other : String) :
    s.hasItem other = s'.hasItem other := by
  simp only [Snapshot.hasItem_eq]
  cases h with
  | reorder hslots hextra =>
    rw [Bool.eq_iff_iff]
    simp only [Bool.or_eq_true, List.any_eq_true, hslots.mem_iff, hextra.mem_iff]
  | @split item m n hm hn rest extra =>
    have hwhole := holds_stack (Int.add_pos hm hn) hm item other
    have hpart := holds_stack hn hm item other
    simp only [List.any_cons, hwhole, hpart, Bool.or_self, ← Bool.or_assoc]
  | @recount item m n hm hn rest extra =>
    simp only [List.any_cons, holds_stack hm hn item other]
  | @equip item name m left v hm hleft hname hv rest extra =>
    have hstack : Slot.holds ⟨.str item, m⟩ other = (item == other) := by simp [Slot.holds, hm]
    simp only [List.any_cons, equips_of_unrelated hv, equips_str hname, hstack]
    cases hitem : item == other with
    | true => simp
    | false =>
      have hnone : left.holds other = false := by
        rw [Bool.eq_false_iff]
        exact fun hholds => beq_eq_false_iff_ne.mp hitem (hleft other hholds).symm
      simp [hnone]
  | member hv slots extra => simp only [List.any_cons, equips_of_unrelated hv, Bool.false_or]

theorem Rearranged.hasItem_eq {s s' : Snapshot} (h : Rearranged s s') (item : String) :
    s.hasItem item = s'.hasItem item := by
  induction h with
  | rel _ _ h => exact h.hasItem_eq item
  | refl _ => rfl
  | symm _ _ _ ih => exact ih.symm
  | trans _ _ _ _ _ ih ih' => exact ih.trans ih'

end Snapshot
end Parley
