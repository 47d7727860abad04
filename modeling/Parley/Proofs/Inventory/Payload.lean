import Parley.Proofs.Inventory.Wire

/-!
# Payloads that are read

Whatever an entry of a payload holds, it is read as a slot: a count of any kind becomes the integer
that it stands for, and one that stands for no integer counts zero. An infinity is the one
exception. It is refused, and with it the whole payload.
-/

namespace Parley

def Json.Boundless (v : Json) : Prop := ∃ negative, v = .num (.double (.infinite negative))

theorem Json.toInteger_eq_infinite_iff {v : Json} :
    v.toInteger = .error .infiniteInteger ↔ v.Boundless := by
  cases v with
  | num n =>
    cases n with
    | int n => simp [toInteger, Number.truncate, Boundless]
    | double x =>
      cases x <;>
        simp [toInteger, Number.truncate, Double.truncate?, Double.noIntegerPart, Boundless]
  | str s =>
    simp only [toInteger, Boundless]
    cases Text.readInteger s with
    | ok n => simp
    | error e => cases e <;> simp [Fault.ofIntegerError]
  | _ => simp [toInteger, Boundless]

theorem Json.toInteger_of_falsy {v : Json} (h : v.truthy = false) {n : Int}
    (hn : v.toInteger = .ok n) : n = 0 := by
  cases v with
  | bool b =>
    cases b with
    | false => simpa [toInteger, eq_comm] using hn
    | true => cases h
  | num m =>
    cases m with
    | int m =>
      have hzero : m = 0 := by simpa [truthy, Number.isZero] using h
      simpa [toInteger, Number.truncate, hzero, eq_comm] using hn
    | double x =>
      cases x with
      | finite negative mantissa exponent =>
        have hzero : mantissa = 0 := by simpa [truthy, Number.isZero, Double.isZero] using h
        have hratio : (Double.toRatio negative 0 exponent).1 = 0 := by
          cases negative <;> simp [Double.toRatio] <;> split <;> rfl
        simpa [toInteger, Number.truncate, Double.truncate?, hzero, hratio, eq_comm] using hn
      | infinite negative => cases h
      | nan => cases h
  | str s =>
    have hempty : s = "" := by simpa [truthy] using h
    rw [hempty] at hn
    cases hn
  | _ => cases hn

namespace Slot

/-- A count in a payload is read as the integer that it stands for, or as zero if it stands for
none. -/
structure Counts (v : Json) (count : Int) : Prop where
  integer : ∀ n, v.toInteger = .ok n → count = n
  other : (∀ n, v.toInteger ≠ .ok n) → count = 0

def ReadAs (entry : Json) (slot : Slot) : Prop :=
  match entry with
  | .obj ms => slot.item = (Members.get ms "itemId").orElse .null ∧
      Counts (Members.get ms "count") slot.count
  | _ => slot = vacant

/-- An entry of a payload has a count beyond all integers. -/
def Overflows (entry : Json) : Prop :=
  ∃ ms, entry = .obj ms ∧ (Members.get ms "count").Boundless

theorem readCount_of_boundless {v : Json} (h : v.Boundless) :
    readCount v = .error .infiniteInteger := by
  obtain ⟨negative, rfl⟩ := h
  rfl

theorem exists_readCount {v : Json} (h : ¬ v.Boundless) :
    ∃ count, readCount v = .ok count ∧ Counts v count := by
  unfold readCount
  cases htruthy : v.truthy with
  | false => exact ⟨0, rfl, fun n hn => (Json.toInteger_of_falsy htruthy hn).symm, fun _ => rfl⟩
  | true =>
    rw [Bool.not_true, if_neg Bool.false_ne_true]
    split
    · rename_i n hn
      exact ⟨n, rfl, fun m hm => Except.ok.inj (hn.symm.trans hm), fun hnone => absurd hn (hnone n)⟩
    · rename_i hinfinite
      exact absurd (Json.toInteger_eq_infinite_iff.mp hinfinite) h
    · rename_i hfault
      exact ⟨0, rfl, fun n hn => (nomatch hfault.symm.trans hn), fun _ => rfl⟩

theorem ofJson_of_overflows {entry : Json} (h : Overflows entry) :
    ofJson entry = .error .infiniteInteger := by
  obtain ⟨ms, rfl, hcount⟩ := h
  rw [ofJson, readCount_of_boundless hcount]
  rfl

theorem exists_ofJson {entry : Json} (h : ¬ Overflows entry) :
    ∃ slot, ofJson entry = .ok slot ∧ ReadAs entry slot := by
  cases entry with
  | obj ms =>
    obtain ⟨count, hcount, hcounts⟩ := exists_readCount fun hcount => h ⟨ms, rfl, hcount⟩
    refine ⟨⟨(Members.get ms "itemId").orElse .null, count⟩, ?_, rfl, hcounts⟩
    rw [ofJson, hcount]
    rfl
  | _ => exact ⟨vacant, rfl, rfl⟩

end Slot

namespace Snapshot

variable {items : List Json}

theorem readSlots_of_overflows (h : ∃ entry ∈ items, Slot.Overflows entry) :
    readSlots items = .error .infiniteInteger := by
  induction items with
  | nil =>
    obtain ⟨entry, hentry, -⟩ := h
    cases hentry
  | cons first rest ih =>
    unfold readSlots
    by_cases hfirst : Slot.Overflows first
    · rw [Slot.ofJson_of_overflows hfirst]
      rfl
    · obtain ⟨slot, hslot, -⟩ := Slot.exists_ofJson hfirst
      obtain ⟨entry, hentry, hover⟩ := h
      rcases List.mem_cons.mp hentry with rfl | hentry
      · exact absurd hover hfirst
      · rw [hslot, ih ⟨entry, hentry, hover⟩]
        rfl

theorem exists_readSlots (h : ∀ entry ∈ items, ¬ Slot.Overflows entry) :
    ∃ slots, readSlots items = .ok slots ∧ List.Forall₂ Slot.ReadAs items slots := by
  induction items with
  | nil => exact ⟨[], rfl, .nil⟩
  | cons first rest ih =>
    obtain ⟨hfirst, hrest⟩ := List.forall_mem_cons.mp h
    obtain ⟨slot, hslot, hread⟩ := Slot.exists_ofJson hfirst
    obtain ⟨slots, hslots, hreads⟩ := ih hrest
    refine ⟨slot :: slots, ?_, .cons hread hreads⟩
    rw [readSlots, hslot, hslots]
    rfl

/-- A value is the payload of entries: an object with a list of them under `slots`. -/
def IsPayload (v : Json) (items : List Json) : Prop :=
  ∃ ms, v = .obj ms ∧ Members.get? ms "slots" = some (.arr items)

theorem ofJson_of_isPayload {v : Json} (h : IsPayload v items) :
    ∃ extra, ofJson v = (readSlots items).map fun slots => some ⟨slots, extra⟩ := by
  obtain ⟨ms, rfl, hitems⟩ := h
  exact ⟨Members.without ms "slots", by rw [ofJson, hitems]⟩

theorem ofJson_of_not_isPayload {v : Json} (h : ∀ items, ¬ IsPayload v items) :
    ofJson v = .ok none := by
  cases v with
  | obj ms =>
    rw [ofJson]
    split
    · rename_i items hitems
      exact absurd ⟨ms, rfl, hitems⟩ (h items)
    · rfl
  | _ => rfl

/-- A value is read as nothing exactly if it is no object with a list of slots. Such an object is
read as a snapshot with a slot for each entry, in which a count that is no integer is zero, unless
an entry has a count beyond all integers; then it is refused. -/
theorem read_unless_overflows (v : Json) :
    (ofJson v = .ok none ↔ ∀ items, ¬ IsPayload v items) ∧
    ∀ items, IsPayload v items →
      ((∃ entry ∈ items, Slot.Overflows entry) → ofJson v = .error .infiniteInteger) ∧
      ((∀ entry ∈ items, ¬ Slot.Overflows entry) →
        ∃ s, ofJson v = .ok (some s) ∧ List.Forall₂ Slot.ReadAs items s.slots) := by
  refine ⟨⟨?_, ofJson_of_not_isPayload⟩, ?_⟩
  · intro hnone items hitems
    obtain ⟨extra, hread⟩ := ofJson_of_isPayload hitems
    rw [hnone] at hread
    cases hslots : readSlots items with
    | error fault => simp [hslots, Except.map] at hread
    | ok slots => simp [hslots, Except.map] at hread
  · intro items hitems
    obtain ⟨extra, hread⟩ := ofJson_of_isPayload hitems
    constructor
    · intro hover
      rw [hread, readSlots_of_overflows hover]
      rfl
    · intro hbounded
      obtain ⟨slots, hslots, hreads⟩ := exists_readSlots hbounded
      exact ⟨⟨slots, extra⟩, by rw [hread, hslots]; rfl, hreads⟩

/-- A payload of one slot with more rope than there are integers. -/
def boundless : Json :=
  .obj [("slots", .arr [
    .obj [("itemId", .str "rope"), ("count", .num (.double (.infinite false)))]])]

/-- Not every payload is read. -/
theorem not_read_boundless : ¬ ∀ v : Json, ∃ s, ofJson v = .ok s := by
  intro h
  obtain ⟨s, hs⟩ := h boundless
  cases hs

end Snapshot

end Parley
