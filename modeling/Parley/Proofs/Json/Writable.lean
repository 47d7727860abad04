import Mathlib.Data.List.TakeDrop
import Mathlib.Data.List.TakeWhile
import Mathlib.Tactic.Ring
import Parley.Fault
import Parley.Json.Display

/-!
# What is read can be written

An integer of a text has at most as many digits as one that is written, so every value that is read
of a text has a text.
-/

namespace Parley

theorem Number.isWritable_int_iff (n : Int) :
    (Number.int n).isWritable = true ↔ n.natAbs < 10 ^ Text.digitLimit := by
  rw [Number.isWritable, decide_eq_true_iff]
  exact Nat.length_toDigits_le_iff (by decide) (by decide)

/-- The number stands somewhere in the value. -/
inductive Json.Holds : Json → Number → Prop where
  | here {n : Number} : Holds (.num n) n
  | item {items : List Json} {v : Json} {n : Number} (given : v ∈ items) (below : Holds v n) :
      Holds (.arr items) n
  | member {members : List (String × Json)} {name : String} {v : Json} {n : Number}
      (given : (name, v) ∈ members) (below : Holds v n) : Holds (.obj members) n

namespace Json.Holds

variable {ms : Members} {name : String} {n : Number}

theorem of_get? {v : Json} (h : ms.get? name = some v) (hn : v.Holds n) :
    (Json.obj ms).Holds n := by
  obtain ⟨before, after, rfl, -⟩ := List.lookup_eq_some_iff.mp h
  exact .member (List.mem_append_right before List.mem_cons_self) hn

theorem of_get (hn : (ms.get name).Holds n) : (Json.obj ms).Holds n := by
  rw [Members.get] at hn
  cases hget : ms.get? name with
  | none =>
    rw [hget] at hn
    cases hn
  | some v =>
    rw [hget] at hn
    exact of_get? hget hn

end Json.Holds

theorem Json.exists_holds_of_not_writable (v : Json) (h : v.isWritable = false) :
    ∃ n : Int, v.Holds (.int n) ∧ 10 ^ Text.digitLimit ≤ n.natAbs := by
  match v with
  | .num (.int n) =>
    refine ⟨n, .here, ?_⟩
    rw [← Nat.not_lt, ← Number.isWritable_int_iff, ← isWritable_num, h]
    exact Bool.false_ne_true
  | .arr items =>
    obtain ⟨u, hu, hlong⟩ := List.all_eq_false.mp ((isWritable_arr items).symm.trans h)
    have hsize : sizeOf u < sizeOf items := List.sizeOf_lt_of_mem hu
    obtain ⟨n, hn, hlarge⟩ := u.exists_holds_of_not_writable (Bool.not_eq_true _ ▸ hlong)
    exact ⟨n, .item hu hn, hlarge⟩
  | .obj members =>
    obtain ⟨⟨name, u⟩, hu, hlong⟩ := List.all_eq_false.mp ((isWritable_obj members).symm.trans h)
    have hsize : sizeOf (name, u) < sizeOf members := List.sizeOf_lt_of_mem hu
    obtain ⟨n, hn, hlarge⟩ := u.exists_holds_of_not_writable (Bool.not_eq_true _ ▸ hlong)
    exact ⟨n, .member hu hn, hlarge⟩
termination_by sizeOf v
decreasing_by
  · rw [Json.arr.sizeOf_spec]
    omega
  · rw [Json.obj.sizeOf_spec]
    rw [Prod.mk.sizeOf_spec] at hsize
    omega

/-- A value has no text exactly if an integer in it has too many digits. -/
theorem Json.isWritable_eq_false_iff (v : Json) : v.isWritable = false ↔
    ∃ n : Int, v.Holds (.int n) ∧ 10 ^ Text.digitLimit ≤ n.natAbs := by
  refine ⟨v.exists_holds_of_not_writable, ?_⟩
  rintro ⟨n, hn, hlarge⟩
  generalize hm : Number.int n = m at hn
  induction hn with
  | here =>
    subst hm
    rw [isWritable_num, ← Bool.not_eq_true, Number.isWritable_int_iff]
    exact Nat.not_lt.mpr hlarge
  | item given _ ih =>
    rw [isWritable_arr, List.all_eq_false]
    exact ⟨_, given, by simp [ih hm]⟩
  | member given _ ih =>
    rw [isWritable_obj, List.all_eq_false]
    exact ⟨_, given, by simp [ih hm]⟩

theorem Json.truthy_of_not_writable {v : Json} (h : v.isWritable = false) : v.truthy = true := by
  cases v with
  | num n =>
    cases n with
    | int n =>
      by_contra hzero
      have hn : n = 0 := by simpa [truthy, Number.isZero] using hzero
      subst hn
      exact absurd h (by decide)
    | double x => cases h
  | arr items =>
    cases items with
    | nil => cases h
    | cons u rest => rfl
  | obj members =>
    cases members with
    | nil => cases h
    | cons p rest => rfl
  | null | bool | str => cases h

theorem Text.ofDigits_lt {ds : List Nat} (h : ∀ d ∈ ds, d < 10) :
    Text.ofDigits ds < 10 ^ ds.length := by
  have hfold (n : Nat) : ds.foldl (fun n d => n * 10 + d) n < (n + 1) * 10 ^ ds.length := by
    induction ds generalizing n with
    | nil => simp
    | cons d ds ih =>
      have hd := h d List.mem_cons_self
      have hrest := ih (fun e he => h e (List.mem_cons_of_mem d he)) (n * 10 + d)
      rw [List.foldl_cons, List.length_cons]
      calc _ < (n * 10 + d + 1) * 10 ^ ds.length := hrest
        _ ≤ (n + 1) * 10 * 10 ^ ds.length := Nat.mul_le_mul_right _ (by omega)
        _ = (n + 1) * 10 ^ (ds.length + 1) := by ring
  simpa [Text.ofDigits] using hfold 0

theorem Members.forall_mem_put {P : Json → Prop} {ms : Members} {name : String} {v : Json}
    (h : ∀ p ∈ ms, P p.2) (hv : P v) : ∀ p ∈ ms.put name v, P p.2 := by
  induction ms with
  | nil => simpa [Members.put] using hv
  | cons p rest ih =>
    obtain ⟨hp, hrest⟩ := List.forall_mem_cons.mp h
    rw [Members.put]
    split
    · exact List.forall_mem_cons.mpr ⟨hv, hrest⟩
    · exact List.forall_mem_cons.mpr ⟨hp, ih hrest⟩

namespace Json.Reader

variable {cs rest : List Char} {v : Json}

theorem natOfDigits_lt {ds : List Char} (h : ∀ c ∈ ds, c.isDigit = true) :
    natOfDigits ds < 10 ^ ds.length := by
  have hdigits : ∀ d ∈ ds.map fun c => c.toNat - '0'.toNat, d < 10 := by
    intro d hd
    obtain ⟨c, hc, rfl⟩ := List.mem_map.mp hd
    have hdigit := h c hc
    simp only [Char.isDigit, Bool.and_eq_true, decide_eq_true_eq] at hdigit
    have hle : c.toNat ≤ '9'.toNat := hdigit.2
    change c.toNat - 48 < 10
    change c.toNat ≤ 57 at hle
    omega
  simpa [natOfDigits] using Text.ofDigits_lt hdigits

theorem isDigit_of_integerPart? {ds : List Char} (h : integerPart? cs = some (ds, rest)) :
    ∀ c ∈ ds, c.isDigit = true := by
  cases cs with
  | nil => cases h
  | cons c cs =>
    rw [integerPart?] at h
    by_cases hzero : (c == '0') = true
    · rw [if_pos hzero] at h
      cases h
      exact List.forall_mem_singleton.mpr (by decide)
    · rw [if_neg hzero] at h
      by_cases hdigit : c.isDigit = true
      · rw [if_pos hdigit, digits, List.span_eq_takeWhile_dropWhile] at h
        cases h
        exact fun d hd => List.mem_takeWhile_imp hd
      · rw [if_neg hdigit] at h
        cases h

theorem isWritable_number {start : List Char} {negative : Bool}
    (h : number start cs negative = .ok (v, rest)) : v.isWritable = true := by
  unfold number at h
  split at h
  · cases h
  · rename_i whole after hwhole
    dsimp only at h
    split at h
    · split at h
      · cases h
      · rename_i hlimit
        cases h
        have hlt := natOfDigits_lt (isDigit_of_integerPart? hwhole)
        have hle : 10 ^ whole.length ≤ 10 ^ Text.digitLimit :=
          Nat.pow_le_pow_right (by decide) (Nat.le_of_not_lt hlimit)
        rw [isWritable_num, Number.isWritable_int_iff]
        cases negative <;> simp only [Bool.false_eq_true, if_true, if_false, Int.natAbs_neg,
          Int.natAbs_natCast] <;> exact Nat.lt_of_lt_of_le hlt hle
    · cases h
      rfl

theorem isWritable_scalar (h : scalar cs = .ok (v, rest)) : v.isWritable = true := by
  have hwords : ∀ w ∈ words, w.2.isWritable = true := by
    simp [words, Number.isWritable]
  unfold scalar at h
  split at h
  · rename_i w u hfind
    cases h
    exact hwords _ (List.mem_of_find?_eq_some hfind)
  · split at h <;> exact isWritable_number h

/-- What the readers of values, members and items give in so many steps can be written. -/
structure GivesWritable (steps : Nat) : Prop where
  value : ∀ {levels cs v rest}, value levels steps cs = .ok (v, rest) → v.isWritable = true
  members : ∀ {levels} {acc : Members} {cs v rest}, (∀ p ∈ acc, p.2.isWritable = true) →
    membersFrom levels steps acc cs = .ok (v, rest) → v.isWritable = true
  items : ∀ {levels} {acc : List Json} {cs v rest}, (∀ u ∈ acc, u.isWritable = true) →
    itemsFrom levels steps acc cs = .ok (v, rest) → v.isWritable = true

namespace GivesWritable

variable {steps levels : Nat}

theorem value_succ (h : GivesWritable steps)
    (hread : Reader.value levels (steps + 1) cs = .ok (v, rest)) : v.isWritable = true := by
  rw [Reader.value.eq_def] at hread
  dsimp only at hread
  split at hread
  · cases hread
  · split at hread
    · obtain ⟨⟨s, after⟩, -, hread⟩ := exists_of_bind_eq_ok hread
      cases hread
      rfl
    · split at hread
      · split at hread
        · cases hread
        · split at hread
          · cases hread
            rfl
          · exact h.members (List.forall_mem_nil _) hread
      · split at hread
        · split at hread
          · cases hread
          · split at hread
            · cases hread
              rfl
            · exact h.items (List.forall_mem_nil _) hread
        · exact isWritable_scalar hread

theorem members_succ (h : GivesWritable steps) {acc : Members}
    (hacc : ∀ p ∈ acc, p.2.isWritable = true)
    (hread : membersFrom levels (steps + 1) acc cs = .ok (v, rest)) : v.isWritable = true := by
  rw [membersFrom.eq_def] at hread
  dsimp only at hread
  split at hread
  · obtain ⟨⟨name, after⟩, -, hread⟩ := exists_of_bind_eq_ok hread
    dsimp only at hread
    split at hread
    · obtain ⟨⟨u, after⟩, hu, hread⟩ := exists_of_bind_eq_ok hread
      have hput : ∀ p ∈ acc.put name u, p.2.isWritable = true :=
        Members.forall_mem_put (P := (·.isWritable = true)) hacc (h.value hu)
      dsimp only at hread
      split at hread
      · cases hread
        simpa using hput
      · exact h.members hput hread
      · cases hread
    · cases hread
  · cases hread

theorem items_succ (h : GivesWritable steps) {acc : List Json}
    (hacc : ∀ u ∈ acc, u.isWritable = true)
    (hread : itemsFrom levels (steps + 1) acc cs = .ok (v, rest)) : v.isWritable = true := by
  rw [itemsFrom.eq_def] at hread
  dsimp only at hread
  obtain ⟨⟨u, after⟩, hu, hread⟩ := exists_of_bind_eq_ok hread
  have hcons : ∀ w ∈ u :: acc, w.isWritable = true := List.forall_mem_cons.mpr ⟨h.value hu, hacc⟩
  dsimp only at hread
  split at hread
  · cases hread
    rw [isWritable_arr, List.all_reverse, List.all_eq_true]
    exact hcons
  · exact h.items hcons hread
  · cases hread

end GivesWritable

/-- The readers call one another with a step less. -/
theorem givesWritable (steps : Nat) : GivesWritable steps := by
  induction steps with
  | zero =>
    constructor
    · intro levels cs v rest hread
      cases hread
    · intro levels acc cs v rest _ hread
      cases hread
    · intro levels acc cs v rest _ hread
      cases hread
  | succ steps ih => exact ⟨ih.value_succ, ih.members_succ, ih.items_succ⟩

end Json.Reader

theorem Json.isWritable_of_read {text : String} {v : Json} (h : Json.read text = .ok v) :
    v.isWritable = true := by
  unfold Json.read Json.readNested at h
  dsimp only at h
  split at h
  · rename_i u hwhole
    cases h
    unfold Reader.whole at hwhole
    split at hwhole
    · cases hwhole
    · obtain ⟨⟨w, rest⟩, hvalue, hrest⟩ := exists_of_bind_eq_ok hwhole
      dsimp only at hrest
      split at hrest
      · cases hrest
        exact (Reader.givesWritable _).value hvalue
      · cases hrest
  · cases h
  · cases h
  · cases h

end Parley
