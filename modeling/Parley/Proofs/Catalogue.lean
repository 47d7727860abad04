import Mathlib.Data.List.Nodup
import Mathlib.Data.List.Perm.Subperm
import Parley.Catalogue
import Parley.Proofs.Dialogue.Location
import Parley.Proofs.Text.Replacing

/-!
# The places of a message

A message is filled with one named value after another, and a place that an inserted value brings
with it, or completes, is filled like one of the message. Where this cannot happen the order of the
values makes no difference, and each place of the message is replaced by its value. With names that
have no braces it makes a difference wherever it can happen.
-/

namespace Parley
namespace Catalogue

def place (p : String × Json) : List Char := placeholder p.1

/-- What a named value fills its place with. -/
def inserted (p : String × Json) : List Char := p.2.display.toList

def fillAtOnce (params : Members) (message : String) : String :=
  String.ofList (Text.replaceEach place inserted params message.toList)

/-- No place completes another, and no inserted value completes another place, unless that place is
filled with its own text. -/
def Apart (params : Members) : Prop :=
  ∀ p ∈ params, ∀ q ∈ params, p.1 ≠ q.1 → ¬ Text.Completes (place p) (place q) ∧
    (inserted q = place q ∨ ¬ Text.Completes (inserted p) (place q))

theorem place_ne_nil (p : String × Json) : place p ≠ [] := List.cons_ne_nil _ _

def fillPlace (cs : List Char) (p : String × Json) : List Char :=
  Text.replaceAll (place p) (inserted p) cs

theorem toList_fill (message : String) (params : Members) :
    (fill message params).toList = params.foldl fillPlace message.toList := by
  refine (List.foldl_hom String.toList ?_).symm
  intro s p
  simp [fillPlace, place, inserted]

variable {params : Members}

theorem eq_of_name_eq (hdistinct : (params.map Prod.fst).Nodup) {p q : String × Json}
    (hp : p ∈ params) (hq : q ∈ params) (h : p.1 = q.1) : p = q :=
  List.inj_on_of_nodup_map hdistinct hp hq h

/-- What stands at a place once some names were filled. -/
def partly (done : List String) (p : String × Json) : List Char :=
  if p.1 ∈ done then inserted p else place p

theorem fillPlace_partly (hdistinct : (params.map Prod.fst).Nodup) (hapart : Apart params)
    {q : String × Json} (hq : q ∈ params) {done : List String} (hnew : q.1 ∉ done)
    (cs : List Char) : fillPlace (Text.replaceEach place (partly done) params cs) q =
      Text.replaceEach place (partly (done ++ [q.1])) params cs := by
  have hname {p : String × Json} (hp : p ∈ params) (hne : p ≠ q) : p.1 ≠ q.1 :=
    fun h => hne (eq_of_name_eq hdistinct hp hq h)
  have hfilled : partly (done ++ [q.1]) q = inserted q := by simp [partly]
  have hkept : partly done q = place q := if_neg hnew
  have hothers : ∀ p ∈ params, p ≠ q → partly (done ++ [q.1]) p = partly done p := by
    intro p hp hne
    simp [partly, hname hp hne]
  by_cases htrivial : inserted q = place q
  · rw [fillPlace, htrivial, Text.replaceAll_self (place_ne_nil q)]
    refine Text.replaceEach_congr (fun p _ => place_ne_nil p) ?_ cs
    intro p hp
    by_cases hne : p = q
    · rw [hne, hkept, hfilled, htrivial]
    · exact (hothers p hp hne).symm
  · rw [fillPlace, ← hfilled]
    refine Text.replaceAll_replaceEach (fun p _ => place_ne_nil p) hq hkept ?_ hothers cs
    intro p hp hne
    obtain ⟨hplace, hinserted⟩ := hapart p hp q hq (hname hp hne)
    unfold partly
    split
    · exact hinserted.resolve_left htrivial
    · exact hplace

theorem foldl_fillPlace (hdistinct : (params.map Prod.fst).Nodup) (hapart : Apart params)
    (cs : List Char) {rest : Members} (hrest : rest ⊆ params) (hnames : (rest.map Prod.fst).Nodup)
    {done : List String} (hnew : ∀ p ∈ rest, p.1 ∉ done) :
    rest.foldl fillPlace (Text.replaceEach place (partly done) params cs) =
      Text.replaceEach place (partly (done ++ rest.map Prod.fst)) params cs := by
  induction rest generalizing done with
  | nil => simp
  | cons q rest ih =>
    obtain ⟨hq, hrest⟩ := List.cons_subset.mp hrest
    rw [List.map_cons, List.nodup_cons] at hnames
    obtain ⟨hqnew, hnew⟩ := List.forall_mem_cons.mp hnew
    have hlater : ∀ p ∈ rest, p.1 ∉ done ++ [q.1] := by
      intro p hp hmem
      rcases List.mem_append.mp hmem with hdone | hsame
      · exact hnew p hp hdone
      · exact hnames.1 (List.mem_singleton.mp hsame ▸ List.mem_map_of_mem hp)
    rw [List.foldl_cons, fillPlace_partly hdistinct hapart hq hqnew, ih hrest hnames.2 hlater,
      List.append_assoc, List.map_cons, List.singleton_append]

theorem fill_eq_fillAtOnce (hdistinct : (params.map Prod.fst).Nodup) (hapart : Apart params)
    {order : Members} (horder : order.Perm params) (message : String) :
    fill message order = fillAtOnce params message := by
  have hparts : ∀ p ∈ params, place p ≠ [] := fun p _ => place_ne_nil p
  have hnone : Text.replaceEach place (partly []) params message.toList = message.toList := by
    have hplaces : partly [] = place := funext fun _ => if_neg List.not_mem_nil
    rw [hplaces, Text.replaceEach_self hparts]
  have hnew : ∀ p ∈ order, p.1 ∉ ([] : List String) := fun _ _ => List.not_mem_nil
  have hfilled := foldl_fillPlace hdistinct hapart message.toList horder.subset
    ((horder.map Prod.fst).nodup_iff.mpr hdistinct) hnew
  rw [hnone] at hfilled
  rw [← String.toList_inj, toList_fill, hfilled, fillAtOnce, String.toList_ofList]
  refine Text.replaceEach_congr hparts ?_ _
  intro p hp
  exact if_pos (List.mem_map_of_mem (horder.mem_iff.mpr hp))

/-- A name that opens and closes no place. -/
def Braceless (name : String) : Prop := '\x7b' ∉ name.toList ∧ '\x7d' ∉ name.toList

instance : DecidablePred Braceless := fun name =>
  inferInstanceAs (Decidable ('\x7b' ∉ name.toList ∧ '\x7d' ∉ name.toList))

theorem placeholder_append (name : String) (cs : List Char) :
    placeholder name ++ cs = '\x7b' :: name.toList ++ '\x7d' :: cs := by
  simp [placeholder]

theorem eq_of_append_close {xs ys us vs : List Char} (hx : '\x7d' ∉ xs) (hy : '\x7d' ∉ ys)
    (h : xs ++ '\x7d' :: us = ys ++ '\x7d' :: vs) : xs = ys :=
  (append_inj_of_run (p := (· != '\x7d')) (by grind) (by grind) (by simp) (by simp) h).1

/-- Two texts with no place between them but what is put there: the first closes none and the second
opens none. -/
structure Clear (before after : List Char) : Prop where
  closes : '\x7d' ∉ before
  opens : '\x7b' ∉ after

section

variable {p q : String} {before after : List Char}

/-- A place that opens before another, with none closed between them, is the other. -/
theorem eq_nil_of_placeholder_append (hq : Braceless q) (hp : Braceless p)
    (hbefore : '\x7d' ∉ before) {rest : List Char}
    (h : placeholder q ++ rest = before ++ (placeholder p ++ after)) : before = [] ∧ q = p := by
  rw [placeholder_append, placeholder_append, ← List.append_assoc] at h
  have hopened : '\x7d' ∉ '\x7b' :: q.toList := by simp [hq.2]
  have hclosed : '\x7d' ∉ before ++ '\x7b' :: p.toList := by simp [hbefore, hp.2]
  have hsame := eq_of_append_close hopened hclosed h
  cases before with
  | nil => exact ⟨rfl, String.toList_inj.mp (List.tail_eq_of_cons_eq hsame)⟩
  | cons c before =>
    have hq' : q.toList = before ++ '\x7b' :: p.toList := List.tail_eq_of_cons_eq hsame
    exact absurd (hq' ▸ List.mem_append_right _ List.mem_cons_self) hq.1

theorem Clear.eq_of_occurs (h : Clear before after) (hq : Braceless q) (hp : Braceless p)
    (hoccurs : placeholder q <:+: before ++ placeholder p ++ after) : q = p := by
  obtain ⟨s, t, hsame⟩ := hoccurs
  rw [List.append_assoc, List.append_assoc] at hsame
  rcases List.append_eq_append_iff.mp hsame with ⟨a, rfl, hsplit⟩ | ⟨a, -, hsplit⟩
  · have ha : '\x7d' ∉ a := fun hmem => h.closes (List.mem_append_right s hmem)
    exact (eq_nil_of_placeholder_append hq hp ha hsplit).2
  · cases a with
    | nil =>
      have hnone : '\x7d' ∉ ([] : List Char) := List.not_mem_nil
      exact (eq_nil_of_placeholder_append hp hq hnone hsplit).2.symm
    | cons c a =>
      rw [placeholder_append, placeholder_append] at hsplit
      have hrest : p.toList ++ '\x7d' :: after = a ++ ('\x7b' :: q.toList ++ '\x7d' :: t) :=
        List.tail_eq_of_cons_eq hsplit
      have hopened : '\x7b' ∈ p.toList ++ '\x7d' :: after := by simp [hrest]
      simp [hp.1, h.opens] at hopened

/-- A text completes a place with texts around it that have no place between them otherwise. -/
theorem exists_clear_of_completes (hq : Braceless q) {text : List Char}
    (h : Text.Completes text (placeholder q)) :
    ∃ before after, Clear before after ∧ placeholder q <:+: before ++ text ++ after := by
  obtain ⟨before, after, hbefore, hbefore', hafter, hafter', hoccurs⟩ := h
  refine ⟨before, after, ⟨?_, ?_⟩, hoccurs⟩
  · intro hmem
    have hfront := (List.prefix_concat_iff.mp hbefore).resolve_left hbefore'
    have hin := hfront.subset hmem
    simp [hq.2] at hin
  · intro hmem
    have hback := (List.suffix_cons_iff.mp hafter).resolve_left hafter'
    have hin := hback.subset hmem
    simp [hq.1] at hin

end

section

variable {p : String × Json} {before after : List Char}

theorem Clear.fillPlace_eq (h : Clear before after) (hp : Braceless p.1) :
    fillPlace (before ++ place p ++ after) p = before ++ inserted p ++ after := by
  have hnone : ¬ place p <:+: after := by
    intro hoccurs
    have hopened : '\x7b' ∈ place p := List.mem_cons_self
    exact h.opens (hoccurs.subset hopened)
  rw [fillPlace, List.append_assoc, Text.replaceAll_append,
    Text.replaceAll_part_append (place_ne_nil p), Text.replaceAll_of_not_infix hnone,
    List.append_assoc]
  rintro s hs hne ⟨t, ht⟩
  have hclosed : '\x7d' ∉ s := fun hmem => h.closes (hs.subset hmem)
  exact hne (eq_nil_of_placeholder_append hp hp hclosed ht).1

theorem Clear.foldl_others (h : Clear before after) (hp : Braceless p.1) {others : Members}
    (hothers : ∀ r ∈ others, Braceless r.1 ∧ r.1 ≠ p.1) :
    others.foldl fillPlace (before ++ place p ++ after) = before ++ place p ++ after := by
  induction others with
  | nil => rfl
  | cons r others ih =>
    obtain ⟨⟨hr, hne⟩, hothers⟩ := List.forall_mem_cons.mp hothers
    have hnone : ¬ place r <:+: before ++ place p ++ after :=
      fun hoccurs => hne (h.eq_of_occurs hr hp hoccurs)
    rw [List.foldl_cons, fillPlace, Text.replaceAll_of_not_infix hnone, ih hothers]

end

theorem exists_perm_cons_cons {p q : String × Json} (hp : p ∈ params) (hq : q ∈ params)
    (hne : p ≠ q) : ∃ rest, params.Perm (p :: q :: rest) := by
  obtain ⟨l, hl, hsublist⟩ : List.Subperm [p, q] params :=
    List.subperm_of_subset (by simp [hne]) (by simp [hp, hq])
  obtain ⟨rest, hrest⟩ := hsublist.exists_perm_append
  exact ⟨rest, hrest.trans (hl.append_right rest)⟩

/-- Where no order of filling makes a difference to any message, the places are apart. -/
theorem apart_of_fill_eq (hdistinct : (params.map Prod.fst).Nodup)
    (hnames : ∀ p ∈ params, Braceless p.1)
    (h : ∀ message order, order.Perm params → fill message order = fill message params) :
    Apart params := by
  intro p hp q hq hne
  constructor
  · intro hcompletes
    obtain ⟨before, after, hclear, hoccurs⟩ := exists_clear_of_completes (hnames q hq) hcompletes
    exact hne (hclear.eq_of_occurs (hnames q hq) (hnames p hp) hoccurs).symm
  · rw [or_iff_not_imp_right, not_not]
    intro hcompletes
    obtain ⟨before, after, hclear, hoccurs⟩ := exists_clear_of_completes (hnames q hq) hcompletes
    obtain ⟨rest, hrest⟩ := exists_perm_cons_cons hp hq fun hsame => hne (hsame ▸ rfl)
    have hothers : ∀ r ∈ q :: rest, Braceless r.1 ∧ r.1 ≠ p.1 := by
      intro r hr
      have hunique := (hrest.map Prod.fst).nodup_iff.mp hdistinct
      rw [List.map_cons, List.nodup_cons] at hunique
      refine ⟨hnames r (hrest.mem_iff.mpr (List.mem_cons_of_mem p hr)), ?_⟩
      exact fun hsame => hunique.1 (hsame ▸ List.mem_map_of_mem hr)
    -- In a message with a place for `p` alone, the value of `p` comes before or after that of `q`.
    have hlast : (fill (String.ofList (before ++ place p ++ after)) (q :: rest ++ [p])).toList =
        before ++ inserted p ++ after := by
      rw [toList_fill, String.toList_ofList, List.foldl_append,
        hclear.foldl_others (hnames p hp) hothers]
      exact hclear.fillPlace_eq (hnames p hp)
    have hfirst : (fill (String.ofList (before ++ place p ++ after)) (rest ++ [p, q])).toList =
        fillPlace (before ++ inserted p ++ after) q := by
      rw [toList_fill, String.toList_ofList, List.foldl_append,
        hclear.foldl_others (hnames p hp) (List.forall_mem_cons.mp hothers).2, List.foldl_cons,
        hclear.fillPlace_eq (hnames p hp), List.foldl_cons, List.foldl_nil]
    have horder : (q :: rest ++ [p]).Perm params := List.perm_append_comm.trans hrest.symm
    have horder' : (rest ++ [p, q]).Perm params := List.perm_append_comm.trans hrest.symm
    rw [h _ _ horder] at hlast
    rw [h _ _ horder', hlast] at hfirst
    exact Text.eq_of_replaceAll_eq_self (place_ne_nil q) hoccurs hfirst.symm

/-- The message of a key with its places filled in another way. -/
def translateBy (fillPlaces : String → String) (c : Catalogue) (key fallback : Json) :
    Except Fault Json := do
  let found ← c.find key
  match if found.isNull then stopgap key fallback else found with
  | .str s => return .str (fillPlaces s)
  | _ => return stopgap key fallback

theorem translate_eq_translateBy (c : Catalogue) (key : Json) (params : Members) (fallback : Json) :
    c.translate key params fallback = c.translateBy (fill · params) key fallback := rfl

/-- Named values whose places are apart fill every message at once, in whatever order they are
given. If the names have no braces, the order makes no difference only then. -/
theorem translate_orders (hdistinct : (params.map Prod.fst).Nodup) :
    (Apart params → ∀ (c : Catalogue) (key fallback : Json) (order : Members),
      order.Perm params →
        c.translate key order fallback = c.translateBy (fillAtOnce params) key fallback) ∧
    ((∀ p ∈ params, Braceless p.1) →
      ((∀ (c : Catalogue) (key fallback : Json) (order : Members), order.Perm params →
        c.translate key order fallback = c.translate key params fallback) ↔ Apart params)) := by
  have hatOnce (hapart : Apart params) (c : Catalogue) (key fallback : Json) (order : Members)
      (horder : order.Perm params) :
      c.translate key order fallback = c.translateBy (fillAtOnce params) key fallback := by
    rw [translate_eq_translateBy, funext (fill_eq_fillAtOnce hdistinct hapart horder)]
  refine ⟨hatOnce, fun hnames => ⟨?_, ?_⟩⟩
  · intro h
    refine apart_of_fill_eq hdistinct hnames ?_
    intro message order horder
    -- A catalogue without locales has no message of its own.
    have hsame := h ⟨[], .null, .null⟩ (.str "") (.str message) order horder
    exact Json.str.inj (Except.ok.inj hsame)
  · intro hapart c key fallback order horder
    rw [hatOnce hapart c key fallback order horder, hatOnce hapart c key fallback params (.refl _)]

/-- A guest and an inn whose name has braces that are no place of the message. -/
def guest : Members := [("name", .str "Ada"), ("inn", .str "\x7bThe Swan\x7d")]

/-- The guest is greeted in the same way in both orders. -/
theorem translate_guest :
    (⟨[], .null, .null⟩ : Catalogue).translate (.str "greet") guest
        (.str "Hello \x7bname\x7d of \x7binn\x7d!") = .ok (.str "Hello Ada of \x7bThe Swan\x7d!") ∧
      (⟨[], .null, .null⟩ : Catalogue).translate (.str "greet") guest.reverse
        (.str "Hello \x7bname\x7d of \x7binn\x7d!") =
          .ok (.str "Hello Ada of \x7bThe Swan\x7d!") := by
  have hdistinct : (guest.map Prod.fst).Nodup := by decide
  have hapart : Apart guest := by unfold Apart; decide
  have hfilled : fillAtOnce guest "Hello \x7bname\x7d of \x7binn\x7d!" =
    "Hello Ada of \x7bThe Swan\x7d!" := by decide +kernel
  have htranslate := (translate_orders hdistinct).1 hapart ⟨[], .null, .null⟩ (.str "greet")
    (.str "Hello \x7bname\x7d of \x7binn\x7d!")
  have hmessage : translateBy (fillAtOnce guest) ⟨[], .null, .null⟩ (.str "greet")
      (.str "Hello \x7bname\x7d of \x7binn\x7d!") =
    .ok (.str (fillAtOnce guest "Hello \x7bname\x7d of \x7binn\x7d!")) := rfl
  rw [hmessage, hfilled] at htranslate
  exact ⟨htranslate guest (.refl _), htranslate guest.reverse guest.reverse_perm⟩

/-- A value that looks like the place of the other. -/
def echo : Members := [("a", .str "\x7bb\x7d"), ("b", .str "x")]

/-- The order of values makes a difference where one brings the place of another with it. -/
theorem not_orderless_echo :
    ¬ ∀ (c : Catalogue) (key fallback : Json) (params order : Members),
      (params.map Prod.fst).Nodup → order.Perm params →
        c.translate key order fallback = c.translate key params fallback := by
  intro h
  have hsame := h ⟨[], .null, .null⟩ (.str "m") (.str "\x7ba\x7d \x7bb\x7d") echo echo.reverse
    (by decide) echo.reverse_perm
  have hforth : fill "\x7ba\x7d \x7bb\x7d" echo = "x x" := by decide +kernel
  have hback : fill "\x7ba\x7d \x7bb\x7d" echo.reverse = "\x7bb\x7d x" := by decide +kernel
  have htexts : fill "\x7ba\x7d \x7bb\x7d" echo.reverse = fill "\x7ba\x7d \x7bb\x7d" echo :=
    Json.str.inj (Except.ok.inj hsame)
  rw [hforth, hback] at htexts
  exact absurd htexts (by decide)

end Catalogue
end Parley
