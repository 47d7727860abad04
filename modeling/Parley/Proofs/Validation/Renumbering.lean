import Mathlib.Data.List.Nodup
import Parley.Proofs.Validation.Flawed

/-!
# Where the two numberings agree

A way by the indices of a value and the way by the numbers of the entries that are kept lead to the
same place. Each tells the other, and they are the same way exactly if nothing was skipped before an
entry on it.
-/

namespace Parley

section

variable {p : Part} {kind kind' : EntryKind} {ms : Members} {name : String} {items : List Json}
  {v : Json} {i : Nat} {l : Location} {d : Defect}

theorem Node.kind_unique {n : Node} (h : (name, kind) ∈ n.lists) (h' : (name, kind') ∈ n.lists) :
    kind = kind' :=
  congrArg Prod.snd (List.inj_on_of_nodup_map (Node.nodup_lists n).1 h h' rfl)

namespace Defective

theorem here_iff {p : Place} : Defective p v [] d ↔ Wrong p v d := by
  refine ⟨fun h => ?_, .here⟩
  cases h
  assumption

theorem field_iff (list : (name, kind) ∈ Node.lists ⟨p, ms⟩) (given : ms.get? name = some v) :
    Defective (.part p) (.obj ms) (.field name :: l) d ↔ Defective (.list kind) v l d := by
  refine ⟨fun h => ?_, .field list given⟩
  cases h with
  | field list' given' below =>
    obtain rfl := Node.kind_unique list list'
    rw [given] at given'
    cases given'
    exact below

theorem item_iff (given : items[i]? = some v) :
    Defective (.list kind) (.arr items) (.item i :: l) d ↔
      Defective (.part (.entry kind)) v l d := by
  refine ⟨fun h => ?_, .item given⟩
  cases h with
  | item given' below =>
    rw [given] at given'
    cases given'
    exact below

end Defective
end

section

variable {p : Part} {kind : EntryKind} {ms : Members} {name : String} {before after : List Json}
  {v : Json} {l : Location}

theorem unskipped_nil {p : Place} : Unskipped p v [] := by
  intro way i rest j d hl
  cases way <;> cases hl

theorem unskipped_field (list : (name, kind) ∈ Node.lists ⟨p, ms⟩)
    (given : ms.get? name = some v) :
    Unskipped (.part p) (.obj ms) (.field name :: l) ↔ Unskipped (.list kind) v l := by
  constructor
  · rintro h way i rest j d rfl hj hd
    exact h (.field name :: way) i rest j d rfl hj ((Defective.field_iff list given).mpr hd)
  · intro h way i rest j d hl hj hd
    cases way with
    | nil => cases hl
    | cons s way =>
      obtain ⟨hs, hway⟩ := List.cons.inj hl
      subst hs
      exact h way i rest j d hway hj ((Defective.field_iff list given).mp hd)

theorem unskipped_item :
    Unskipped (.list kind) (.arr (before ++ v :: after)) (.item before.length :: l) ↔
      (∀ u ∈ before, (kind.kept? u).isSome = true) ∧ Unskipped (.part (.entry kind)) v l := by
  have hv : (before ++ v :: after)[before.length]? = some v := by simp
  have hbefore {j : Nat} (hj : j < before.length) :
      (before ++ v :: after)[j]? = some before[j] := by
    rw [List.getElem?_append_left hj, List.getElem?_eq_getElem hj]
  constructor
  · intro h
    refine ⟨fun u hu => ?_, ?_⟩
    · obtain ⟨j, hj, rfl⟩ := List.getElem_of_mem hu
      by_contra hskipped
      rw [Option.not_isSome_iff_eq_none, EntryKind.kept?_eq_none_iff] at hskipped
      obtain ⟨d, hd, hskips⟩ := hskipped
      have hkeeps := h [] before.length l j d rfl hj (.item (hbefore hj) (.here hd))
      exact Bool.false_ne_true (hkeeps.symm.trans hskips)
    · rintro way i rest j d rfl hj hd
      exact h (.item before.length :: way) i rest j d rfl hj (.item hv hd)
  · rintro ⟨hkept, hbelow⟩ way i rest j d hl hj hd
    cases way with
    | nil =>
      obtain ⟨hi, rfl⟩ := List.cons.inj hl
      cases hi
      have hd := Defective.here_iff.mp ((Defective.item_iff (hbefore hj)).mp hd)
      by_contra hskips
      rw [Bool.not_eq_false] at hskips
      have hnone := EntryKind.kept?_eq_none_iff.mpr ⟨d, hd, hskips⟩
      have hsome := hkept before[j] (List.getElem_mem hj)
      rw [hnone] at hsome
      cases hsome
    | cons s way =>
      obtain ⟨hs, hway⟩ := List.cons.inj hl
      subst hs
      exact hbelow way i rest j d hway hj ((Defective.item_iff hv).mp hd)

end

theorem EntryKind.split_unique {kind : EntryKind} {before before' after after' : List Json}
    {v v' : Json} {ms ms' : Members} (hsplit : before ++ v :: after = before' ++ v' :: after')
    (hv : kind.kept? v = some ms) (hv' : kind.kept? v' = some ms')
    (hlength : (kind.kept before).length = (kind.kept before').length) :
    before = before' ∧ v = v' := by
  rcases List.append_eq_append_iff.mp hsplit with ⟨between, rfl, hrest⟩ | ⟨between, rfl, hrest⟩
  · cases between with
    | nil => exact ⟨(List.append_nil _).symm, (List.cons.inj hrest).1⟩
    | cons u between =>
      obtain ⟨rfl, -⟩ := List.cons.inj hrest
      simp [kept, hv] at hlength
  · cases between with
    | nil => exact ⟨List.append_nil _, (List.cons.inj hrest).1.symm⟩
    | cons u between =>
      obtain ⟨rfl, -⟩ := List.cons.inj hrest
      simp [kept, hv'] at hlength

namespace Renumbered

variable {p : Place} {v : Json} {l l' m m' : Location}

theorem right_unique (h : Renumbered p v l m) (h' : Renumbered p v l m') : m = m' := by
  induction h generalizing m' with
  | here =>
    cases h'
    rfl
  | field list given below ih =>
    cases h' with
    | field list' given' below' =>
      obtain rfl := Node.kind_unique list list'
      rw [given] at given'
      cases given'
      rw [ih below']
  | @item kind items before after v ms l m split kept below ih =>
    generalize hl : Step.item before.length :: l = l' at h'
    cases h' with
    | here => cases hl
    | item split' kept' below' =>
      obtain ⟨hindex, rfl⟩ := List.cons.inj hl
      obtain ⟨rfl, hrest⟩ := List.append_inj (split.symm.trans split') (Step.item.inj hindex)
      cases hrest
      rw [ih below']

theorem left_unique (h : Renumbered p v l m) (h' : Renumbered p v l' m) : l = l' := by
  induction h generalizing l' with
  | here =>
    cases h'
    rfl
  | field list given below ih =>
    cases h' with
    | field list' given' below' =>
      obtain rfl := Node.kind_unique list list'
      rw [given] at given'
      cases given'
      rw [ih below']
  | @item kind items before after v ms l m split kept below ih =>
    generalize hm : Step.item (kind.kept before).length :: m = m' at h'
    cases h' with
    | here => cases hm
    | item split' kept' below' =>
      obtain ⟨hnumber, rfl⟩ := List.cons.inj hm
      obtain ⟨rfl, rfl⟩ := EntryKind.split_unique (split.symm.trans split') kept kept'
        (Step.item.inj hnumber)
      rw [ih below']

theorem eq_iff_unskipped (h : Renumbered p v l m) : m = l ↔ Unskipped p v l := by
  induction h with
  | here => exact iff_of_true rfl unskipped_nil
  | field list given below ih => rw [unskipped_field list given, ← ih, List.cons_inj_right]
  | @item kind items before after v ms l m split kept below ih =>
    subst split
    rw [unskipped_item, ← ih, List.cons.injEq, Step.item.injEq, EntryKind.kept,
      List.filterMap_length_eq_length]

theorem plain (h : Renumbered p v l m) : (∀ s ∈ l, s.Plain) ∧ ∀ s ∈ m, s.Plain := by
  induction h with
  | here => exact ⟨by rintro s ⟨⟩, by rintro s ⟨⟩⟩
  | field list given below ih =>
    have hname := (Node.nodup_lists _).2 _ list
    exact ⟨List.forall_mem_cons.mpr ⟨hname, ih.1⟩, List.forall_mem_cons.mpr ⟨hname, ih.2⟩⟩
  | item split kept below ih =>
    exact ⟨List.forall_mem_cons.mpr ⟨trivial, ih.1⟩, List.forall_mem_cons.mpr ⟨trivial, ih.2⟩⟩

theorem write_eq_iff (h : Renumbered (.part .document) v l m) : m.write = l.write ↔ m = l := by
  refine ⟨fun hsame => ?_, congrArg Location.write⟩
  obtain ⟨hl, hm⟩ := h.plain
  cases h with
  | here => rfl
  | field list given below => exact Location.write_field_inj hm hl hsame

end Renumbered

theorem Flawed.exists_kept {kind : EntryKind} {v : Json} {l : Location} {k : FlawKind}
    (h : Flawed (.part (.entry kind)) v l k) : ∃ ms, kind.kept? v = some ms := by
  cases h with
  | @field _ ms name _ _ _ _ list given below =>
    refine ⟨ms, ?_⟩
    unfold EntryKind.kept?
    refine if_neg ?_
    rintro ⟨rfl, hid⟩
    simp [Node.lists, hid] at list

/-- The way to a flaw leads to the entry that it is about, unless it is about the document. -/
theorem Flawed.exists_follow {p : Place} {v : Json} {l : Location} {k : FlawKind}
    (h : Flawed p v l k) (hnone : k ≠ .noLines) (hbase : k ≠ .unreachableBase) :
    ∃ kind before ms after, v.follow l = some (.obj ms) ∧ Amiss before kind ms after k := by
  induction h with
  | noLines => exact absurd rfl hnone
  | unreachableBase => exact absurd rfl hbase
  | @entry kind items before after v ms k split kept amiss =>
    refine ⟨kind, _, ms, _, ?_, amiss⟩
    have hv : items[before.length]? = some v := by simp [split]
    rw [Json.follow, hv, EntryKind.eq_obj_of_kept? kept]
    rfl
  | field list given below ih =>
    obtain ⟨kind, before, ms, after, hfollow, hamiss⟩ := ih hnone hbase
    exact ⟨kind, before, ms, after, by rw [Json.follow, given]; exact hfollow, hamiss⟩
  | @item _ items before _ v _ _ split below ih =>
    obtain ⟨kind, others, ms, after, hfollow, hamiss⟩ := ih hnone hbase
    have hv : items[before.length]? = some v := by simp [split]
    exact ⟨kind, others, ms, after, by rw [Json.follow, hv]; exact hfollow, hamiss⟩

theorem Flawed.exists_renumbered {p : Place} {v : Json} {l : Location} {k : FlawKind}
    (h : Flawed p v l k) : ∃ m, Renumbered p v l m := by
  induction h with
  | noLines => exact ⟨[], .here⟩
  | @unreachableBase ms fork last checks lines =>
    have hlist : ("lines", .line) ∈ Node.lists ⟨.document, ms⟩ := List.mem_cons_self
    cases hget : ms.get? "lines" with
    | none => exact absurd (by rw [Members.get, hget]; rfl) lines
    | some v => exact ⟨_, .field hlist hget .here⟩
  | entry split kept amiss => exact ⟨_, .item split kept .here⟩
  | field list given below ih =>
    obtain ⟨m, hm⟩ := ih
    exact ⟨_, .field list given hm⟩
  | item split below ih =>
    obtain ⟨m, hm⟩ := ih
    obtain ⟨ms, kept⟩ := below.exists_kept
    exact ⟨_, .item split kept hm⟩

end Parley
