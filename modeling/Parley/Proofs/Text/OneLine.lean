import Parley.Json.Display

/-!
# Texts of one line

A written number and a quoted text have no line feed, and neither has what is written of any value
but a text. A text that stands for itself is the only way for a line feed into a message.
-/

namespace Parley

def OneLine (s : String) : Prop := '\n' ∉ s.toList

instance : DecidablePred OneLine := fun s => inferInstanceAs (Decidable ('\n' ∉ s.toList))

@[simp] theorem oneLine_append {s t : String} : OneLine (s ++ t) ↔ OneLine s ∧ OneLine t := by
  simp [OneLine]

@[simp] theorem oneLine_ofList {cs : List Char} : OneLine (String.ofList cs) ↔ '\n' ∉ cs := by
  simp [OneLine]

theorem lineFeed_not_mem_replicate {c : Char} (h : c ≠ '\n') (n : Nat) :
    '\n' ∉ List.replicate n c :=
  fun hmem => h (List.eq_of_mem_replicate hmem).symm

theorem digitChar_ne_lineFeed (n : Nat) : n.digitChar ≠ '\n' := by
  grind [Nat.digitChar]

theorem lineFeed_not_mem_toDigits {base : Nat} (hbase : 1 < base) (n : Nat) :
    '\n' ∉ base.toDigits n := by
  induction n using Nat.strongRecOn with
  | ind n ih =>
    rw [Nat.toDigits_eq_if hbase]
    split
    · simp [Ne.symm (digitChar_ne_lineFeed n)]
    · rename_i hn
      have hhead := ih (n / base) (Nat.div_lt_self (by omega) hbase)
      simp [hhead, Ne.symm (digitChar_ne_lineFeed _)]

theorem oneLine_repr (n : Nat) : OneLine n.repr := by
  rw [Nat.repr_eq_ofList_toDigits, oneLine_ofList]
  exact lineFeed_not_mem_toDigits (by decide) n

namespace Decimal

theorem lineFeed_not_mem_orZero {cs : List Char} (h : '\n' ∉ cs) :
    '\n' ∉ (if cs.isEmpty then ['0'] else cs) := by
  split
  · decide
  · exact h

theorem NumberStyle.oneLine_write (style : NumberStyle) (x : Scientific) :
    OneLine (style.write x) := by
  have hzeros (n : Nat) := lineFeed_not_mem_replicate (c := '0') (by decide) n
  have hkept : '\n' ∉ ((Nat.toDigits 10 x.digits).reverse.dropWhile (· == '0')).reverse := by
    intro hmem
    have hdigits := (List.dropWhile_sublist _).subset (List.mem_reverse.mp hmem)
    exact lineFeed_not_mem_toDigits (by decide) x.digits (List.mem_reverse.mp hdigits)
  replace hkept := lineFeed_not_mem_orZero hkept
  unfold NumberStyle.write
  dsimp only
  generalize (if List.isEmpty _ then ['0'] else _ : List Char) = kept at hkept ⊢
  split
  · split
    · rw [oneLine_append, oneLine_ofList, oneLine_ofList, List.mem_append, not_or]
      exact ⟨by decide, hzeros _, hkept⟩
    · have hwhole (n : Nat) : '\n' ∉ kept.take n := fun h => hkept (List.mem_of_mem_take h)
      have hpart (n : Nat) : '\n' ∉ kept.drop n := fun h => hkept (List.mem_of_mem_drop h)
      rw [oneLine_append, oneLine_append, oneLine_ofList, oneLine_ofList, oneLine_ofList,
        List.mem_append, not_or]
      exact ⟨⟨⟨hwhole _, hzeros _⟩, by decide⟩, lineFeed_not_mem_orZero (hpart _)⟩
  · rw [oneLine_append, oneLine_append, padZeros, oneLine_append, oneLine_ofList]
    refine ⟨⟨?_, ?_⟩, hzeros _, oneLine_repr _⟩
    · split
      · decide
      · exact oneLine_ofList.mpr hkept
      · rename_i d rest hrest
        rw [List.mem_cons, not_or] at hkept
        rw [oneLine_ofList, List.mem_cons, List.mem_cons, not_or, not_or]
        exact ⟨hkept.1, by decide, hkept.2⟩
    · split <;> decide

theorem oneLine_write (x : Double) : OneLine (write x) := by
  cases x with
  | nan => decide
  | infinite s => cases s <;> decide
  | finite s m e =>
    unfold write
    rw [oneLine_append]
    constructor
    · cases s <;> decide
    · split
      · decide
      · exact NumberStyle.oneLine_write _ _

end Decimal

theorem Number.oneLine_write (n : Number) : OneLine n.write := by
  cases n with
  | int n =>
    change OneLine (toString n)
    cases n with
    | ofNat n => exact oneLine_repr n
    | negSucc n =>
      change OneLine ("-" ++ (n + 1).repr)
      rw [oneLine_append]
      exact ⟨by decide, oneLine_repr (n + 1)⟩
  | double x => exact Decimal.oneLine_write x

namespace Text

theorem lineFeed_not_mem_hex (width n : Nat) : '\n' ∉ hex width n := by
  simp only [hex, List.mem_append, not_or]
  exact ⟨lineFeed_not_mem_replicate (by decide) _, lineFeed_not_mem_toDigits (by decide) n⟩

theorem lineFeed_not_mem_escape (mark : Char) (code : Nat) : '\n' ∉ escape mark code := by
  have hhex := lineFeed_not_mem_hex
  unfold escape
  cases hprintable : isPrintable code with
  | true =>
    have hne : Char.ofNat code ≠ '\n' := by
      intro hlineFeed
      by_cases hvalid : code.isValidChar
      · rw [Char.ofNat, dif_pos hvalid] at hlineFeed
        have hcode : code = 10 := congrArg Char.toNat hlineFeed
        subst hcode
        exact absurd hprintable (by decide)
      · rw [Char.ofNat, dif_neg hvalid] at hlineFeed
        exact absurd hlineFeed (by decide)
    simp only [if_true]
    split <;> simp [hne.symm]
  | false =>
    simp only [Bool.false_eq_true, if_false]
    repeat' split
    all_goals simp [hhex]

theorem oneLine_quoted (s : String) : OneLine (quoted s) := by
  have hmark : markFor s.toList ≠ '\n' := by
    unfold markFor
    split <;> decide
  have hescape := lineFeed_not_mem_escape (markFor s.toList)
  simp only [quoted, oneLine_ofList, List.cons_append, List.mem_cons, List.mem_append,
    List.mem_flatMap, List.mem_nil_iff, or_false, not_or, not_exists, not_and]
  exact ⟨hmark.symm, fun code _ => hescape code, hmark.symm⟩

end Text

theorem Json.oneLine_quoted_all : (∀ v : Json, OneLine v.quoted) ∧
    (∀ ms, OneLine (Json.quotedMembers ms)) ∧ ∀ items, OneLine (Json.quotedItems items) := by
  have hquoted := Text.oneLine_quoted
  have hnumber := Number.oneLine_write
  apply Json.quoted.mutual_induct
  all_goals
    intros
    simp_all [Json.quoted, Json.quotedItems, Json.quotedMembers, OneLine]

/-- What is written of a value has no line feed, unless the value is a text. -/
theorem Json.oneLine_display {v : Json} (h : ∀ s, v ≠ .str s) : OneLine v.display := by
  cases v with
  | str s => exact absurd rfl (h s)
  | _ => exact oneLine_quoted_all.1 _

end Parley
