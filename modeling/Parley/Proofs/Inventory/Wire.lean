import Mathlib.Data.List.Forall2
import Parley.Inventory.Snapshot

/-!
# Snapshots on the wire

A payload is read leniently: counts of any kind become integers, and an item that counts as false
becomes none. What is written is strict, and reading it back changes nothing. So the snapshots that
survive the wire are those with slots as they are read: of no item, or of one that counts as true.
-/

namespace Parley

namespace Members

theorem without_without (ms : Members) (name : String) :
    (ms.without name).without name = ms.without name := by
  simp [without]

theorem without_put (ms : Members) (name : String) (v : Json) :
    (ms.put name v).without name = ms.without name := by
  induction ms with
  | nil => simp [put, without]
  | cons p rest ih =>
    obtain ⟨k, w⟩ := p
    by_cases hk : k = name
    · simp [put, without, hk]
    · have hbeq : (k == name) = false := by simp [hk]
      simp only [without] at ih
      simp [put, without, hbeq, hk, ih]

end Members

theorem Json.orElse_null_eq_self_iff {v : Json} :
    v.orElse .null = v ↔ v = .null ∨ v.truthy = true := by
  unfold orElse
  cases htruthy : v.truthy with
  | true => simp
  | false => simp [eq_comm]

theorem Json.orElse_orElse (v w : Json) : (v.orElse w).orElse w = v.orElse w := by
  unfold orElse
  cases htruthy : v.truthy with
  | true => simp [htruthy]
  | false => simp

namespace Slot

/-- A slot of no item or of one that counts as true. -/
def Legible (s : Slot) : Prop := s.item = .null ∨ s.item.truthy = true

theorem readCount_int (n : Int) : readCount (.num (.int n)) = .ok n := by
  by_cases hn : n = 0
  · subst hn
    rfl
  · simp [readCount, Json.truthy, Number.isZero, hn, Json.toInteger, Number.truncate]

theorem ofJson_toJson (s : Slot) : ofJson s.toJson = .ok ⟨s.item.orElse .null, s.count⟩ := by
  simp [ofJson, toJson, Members.get, Members.get?_cons, readCount_int, Except.map]

theorem ofJson_toJson_eq_self_iff {s : Slot} : ofJson s.toJson = .ok s ↔ s.Legible := by
  rw [ofJson_toJson, Legible, ← Json.orElse_null_eq_self_iff]
  cases s
  simp

theorem legible_of_ofJson {v : Json} {s : Slot} (h : ofJson v = .ok s) : s.Legible := by
  cases v with
  | obj ms =>
    rw [ofJson] at h
    cases hcount : readCount (Members.get ms "count") with
    | error f => simp [hcount, Except.map] at h
    | ok count =>
      rw [hcount] at h
      cases h
      exact Json.orElse_null_eq_self_iff.mp (Json.orElse_orElse _ _)
  | _ =>
    cases h
    exact .inl rfl

end Slot

namespace Snapshot

variable {s : Snapshot} {items : List Json} {slots : List Slot}

theorem readSlots_eq_ok_iff :
    readSlots items = .ok slots ↔
      List.Forall₂ (fun item slot => Slot.ofJson item = .ok slot) items slots := by
  induction items generalizing slots with
  | nil => simp [readSlots, eq_comm]
  | cons v rest ih =>
    rw [List.forall₂_cons_left_iff]
    simp only [← ih, readSlots]
    cases hslot : Slot.ofJson v with
    | error f => simp [bind, Except.bind]
    | ok slot =>
      cases hothers : readSlots rest with
      | error f => simp [bind, Except.bind]
      | ok others => simp [bind, Except.bind, pure, Except.pure, eq_comm]

theorem legible_of_forall₂
    (h : List.Forall₂ (fun item slot => Slot.ofJson item = .ok slot) items slots) :
    ∀ slot ∈ slots, slot.Legible := by
  induction h with
  | nil => simp
  | cons hfirst _ ih => exact List.forall_mem_cons.mpr ⟨Slot.legible_of_ofJson hfirst, ih⟩

theorem readSlots_toJson (h : ∀ slot ∈ slots, slot.Legible) :
    readSlots (slots.map Slot.toJson) = .ok slots := by
  rw [readSlots_eq_ok_iff, List.forall₂_map_left_iff, List.forall₂_same]
  exact fun slot hslot => Slot.ofJson_toJson_eq_self_iff.mpr (h slot hslot)

/-- A snapshot of legible slots is read back with all but a member that would be taken for the
slots. -/
theorem ofJson_toJson (h : ∀ slot ∈ s.slots, slot.Legible) :
    ofJson s.toJson = .ok (some ⟨s.slots, s.extra.without "slots"⟩) := by
  simp only [ofJson, toJson, Members.get?_put, if_true, readSlots_toJson h, Members.without_put]
  rfl

theorem exists_of_ofJson {v : Json} (h : ofJson v = .ok (some s)) :
    ∃ (ms : Members) (items : List Json), v = .obj ms ∧ ms.get? "slots" = some (.arr items) ∧
      List.Forall₂ (fun item slot => Slot.ofJson item = .ok slot) items s.slots ∧
      s.extra = ms.without "slots" := by
  cases v with
  | obj ms =>
    rw [ofJson] at h
    split at h
    · rename_i items hitems
      cases hslots : readSlots items with
      | error f => simp [hslots, Except.map] at h
      | ok slots =>
        rw [hslots] at h
        cases h
        exact ⟨ms, items, rfl, hitems, readSlots_eq_ok_iff.mp hslots, rfl⟩
    · cases h
  | _ => cases h

/-- A snapshot that is read from a payload has a slot for each entry of the payload's list, in order,
and all other members. It is the same snapshot after it is written and read again, so it has the same
items in its slots and equipped. With any other slots of no item or of an item of a text it is read
back with these slots and the same members. -/
theorem survives_wire {v : Json} (h : ofJson v = .ok (some s)) :
    (∃ (ms : Members) (items : List Json), v = .obj ms ∧ ms.get? "slots" = some (.arr items) ∧
      s.slots.length = items.length ∧
      List.Forall₂ (fun item slot => Slot.ofJson item = .ok slot) items s.slots ∧
      s.extra = ms.without "slots") ∧
    (∃ s', ofJson s.toJson = .ok (some s') ∧ s' = s ∧
      ∀ item, s'.holdsInSlot item = s.holdsInSlot item ∧
        s'.hasEquipped item = s.hasEquipped item ∧ s'.hasItem item = s.hasItem item) ∧
    ∀ t : List Slot, (∀ slot ∈ t, slot.item = .null ∨ ∃ name, name ≠ "" ∧ slot.item = .str name) →
      ∃ s', ofJson (s.withSlots t).toJson = .ok (some s') ∧ s'.slots = t ∧ s'.extra = s.extra := by
  obtain ⟨ms, items, hv, hitems, hslots, hextra⟩ := exists_of_ofJson h
  have hwithout : s.extra.without "slots" = s.extra := by
    rw [hextra, Members.without_without]
  refine ⟨⟨ms, items, hv, hitems, hslots.length_eq.symm, hslots, hextra⟩, ?_, ?_⟩
  · have hback := ofJson_toJson (legible_of_forall₂ hslots)
    rw [hwithout] at hback
    exact ⟨s, hback, rfl, fun item => ⟨rfl, rfl, rfl⟩⟩
  · intro t ht
    have hlegible : ∀ slot ∈ (s.withSlots t).slots, slot.Legible := by
      intro slot hslot
      rcases ht slot hslot with hnull | ⟨name, hname, hitem⟩
      · exact .inl hnull
      · exact .inr (by simp [hitem, Json.truthy, hname])
    exact ⟨_, ofJson_toJson hlegible, rfl, hwithout⟩

/-- A payload of slots with counts and items of several kinds. -/
def jumble : Json :=
  .obj [("slots", .arr [.obj [("itemId", .str "rod"), ("count", .bool true)], .str "none",
    .obj [("itemId", .num (.int 0)), ("count", .str " 7 ")]]), ("equippedRodId", .str "rod")]

theorem survives_wire_jumble : ∃ s s', ofJson jumble = .ok (some s) ∧
    ofJson s.toJson = .ok (some s) ∧
    ofJson (s.withSlots [⟨.str "map", 3⟩]).toJson = .ok (some s') ∧
    s'.slots = [⟨.str "map", 3⟩] ∧ s'.extra = s.extra ∧ s.slots.map Slot.count = [1, 0, 7] := by
  obtain ⟨s, hs⟩ : ∃ s, ofJson jumble = .ok (some s) := ⟨_, rfl⟩
  obtain ⟨-, ⟨s₁, hback, rfl, -⟩, hwith⟩ := survives_wire hs
  obtain ⟨s', hs', hslots, hextra⟩ := hwith [⟨.str "map", 3⟩] (by simp)
  refine ⟨s₁, s', hs, hback, hs', hslots, hextra, ?_⟩
  cases hs
  decide

end Snapshot

end Parley
