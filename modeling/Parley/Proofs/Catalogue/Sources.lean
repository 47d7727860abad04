import Parley.Catalogue
import Parley.Proofs.Text.Split

/-!
# The sources of a message

A key is segments joined by dots, and it leads through the objects of a tree to at most one value. A
message comes from the first of four sources: the tree of the current locale, that of the fallback
locale, the text of the caller, the key itself. Where the key leads nowhere or to null, the next
source has its turn; a number, a truth value or a list in the current locale ends the search there.
-/

namespace Parley
namespace Catalogue

/-- Segments lead from a value to a value, each to a member of an object. -/
inductive Leads : Json → List String → Json → Prop where
  | here (v : Json) : Leads v [] v
  | within {ms : Members} {segment : String} {rest : List String} {v w : Json}
      (member : ms.get? segment = some v) (way : Leads v rest w) :
      Leads (.obj ms) (segment :: rest) w

/-- A key is segments without dots, joined by dots. -/
def Joins (path : List String) (key : String) : Prop :=
  path ≠ [] ∧ (∀ segment ∈ path, '.' ∉ segment.toList) ∧ ".".intercalate path = key

/-- A key leads to a value in the tree of a locale. -/
def Finds (locales : Members) (locale key : String) (v : Json) : Prop :=
  ∃ tree path, locales.get? locale = some tree ∧ Joins path key ∧ Leads tree path v

/-- The value of a key in the tree of a locale, or null. -/
def valueIn (locales : Members) (locale key : String) : Json :=
  descend (locales.get locale) (segments key)

theorem joins_iff {path : List String} {key : String} : Joins path key ↔ segments key = path := by
  have hpieces : segments key = path ↔ Text.pieces '.' key.toList = path.map String.toList := by
    constructor
    · rintro rfl
      simp [segments]
    · intro h
      simp [segments, h]
  rw [hpieces, Text.pieces_eq_iff, Joins, ← String.toList_inj, String.toList_intercalate]
  simp

theorem Leads.descend_eq {v w : Json} {path : List String} (h : Leads v path w) :
    descend v path = w := by
  induction h with
  | here v => rw [descend]
  | within member way ih =>
    rw [descend, member]
    exact ih

theorem leads_descend {v : Json} {path : List String} (h : descend v path ≠ .null) :
    Leads v path (descend v path) := by
  fun_induction descend v path with
  | case1 v => exact .here v
  | case2 ms segment rest v hv ih => exact .within hv (ih h)
  | case3 => exact absurd rfl h
  | case4 => exact absurd rfl h

theorem descend_null (path : List String) : descend .null path = .null := by
  cases path <;> rfl

theorem finds_iff {locales : Members} {locale key : String} {v : Json} (hv : v ≠ .null) :
    Finds locales locale key v ↔ valueIn locales locale key = v := by
  unfold valueIn Members.get
  constructor
  · rintro ⟨tree, path, htree, hpath, hway⟩
    rw [htree, Option.getD_some, joins_iff.mp hpath]
    exact hway.descend_eq
  · rintro rfl
    cases htree : locales.get? locale with
    | none =>
      rw [htree, Option.getD_none, descend_null] at hv
      exact absurd rfl hv
    | some tree =>
      rw [htree, Option.getD_some] at hv
      exact ⟨tree, segments key, htree, joins_iff.mpr rfl, leads_descend hv⟩

section

variable (locales : Members) (current fallback key : String) (text : Option String)

theorem lookup_eq (c : Catalogue) (locale key : String) :
    c.lookup (.str locale) (.str key) = .ok (valueIn c.locales locale key) := by
  unfold valueIn
  change (if (c.locales.get locale).isNull then .ok .null else _ : Except Fault Json) = _
  cases c.locales.get locale with
  | null => rw [descend_null]; rfl
  | _ => rfl

/-- The value that a message is made of: that of the current locale unless it is null, else that of
the fallback locale. -/
def sought : Json :=
  if (valueIn locales current key).isNull then valueIn locales fallback key
  else valueIn locales current key

variable {locales current fallback key} in
theorem sought_eq_fallback (h : valueIn locales current key = .null) :
    sought locales current fallback key = valueIn locales fallback key := by
  rw [sought, h]
  rfl

variable {locales current fallback key} in
theorem sought_eq_current (h : valueIn locales current key ≠ .null) :
    sought locales current fallback key = valueIn locales current key := by
  unfold sought
  cases hv : valueIn locales current key with
  | null => exact absurd hv h
  | _ => rfl

theorem find_eq : find ⟨locales, .str current, .str fallback⟩ (.str key) =
    .ok (sought locales current fallback key) := by
  rw [find, lookup_eq, sought]
  change (if (valueIn locales current key).isNull then _ else _ : Except Fault Json) = _
  split
  · exact lookup_eq ..
  · rfl

/-- The message of a key without named values, given the text of the caller if there is one. -/
def message : Except Fault Json :=
  translate ⟨locales, .str current, .str fallback⟩ (.str key) [] ((text.map .str).getD .null)

def wording (otherwise : String) : Json → String
  | .str s => s
  | _ => otherwise

theorem message_eq : message locales current fallback key text =
    .ok (.str (wording (text.getD key) (sought locales current fallback key))) := by
  have hstopgap : stopgap (.str key) ((text.map .str).getD .null) = .str (text.getD key) := by
    cases text <;> rfl
  rw [message, translate, find_eq, hstopgap]
  generalize sought locales current fallback key = v
  cases v <;> rfl

theorem wording_of_no_text {otherwise : String} {v : Json} (h : ∀ s, v ≠ .str s) :
    wording otherwise v = otherwise := by
  cases v with
  | str s => exact absurd rfl (h s)
  | _ => rfl

/-- A value that is no text and leads no further: a truth value, a number or a list. -/
def isLeaf : Json → Bool
  | .bool _ | .num _ | .arr _ => true
  | _ => false

/-- A message comes from the first of its sources that has one. -/
structure FromFirst : Prop where
  ofCurrent : ∀ s, Finds locales current key (.str s) →
    message locales current fallback key text = .ok (.str s)
  ofLeaf : ∀ v, Finds locales current key v → isLeaf v = true →
    message locales current fallback key text = .ok (.str (text.getD key))
  ofFallback : (∀ v, Finds locales current key v → v = .null) →
    ∀ s, Finds locales fallback key (.str s) →
      message locales current fallback key text = .ok (.str s)
  ofNone : (∀ s, ¬ Finds locales current key (.str s)) →
    (∀ s, ¬ Finds locales fallback key (.str s)) →
      message locales current fallback key text = .ok (.str (text.getD key))

/-- In whatever trees a key is looked up, its message comes from the current locale, from the
fallback locale, from the caller or is the key, in this order. -/
theorem message_from_first : FromFirst locales current fallback key text := by
  constructor
  · intro s hs
    have hvalue := (finds_iff (by simp)).mp hs
    have hne : valueIn locales current key ≠ .null := by simp [hvalue]
    rw [message_eq, sought_eq_current hne, hvalue, wording]
  · -- A leaf is not null, so the fallback locale is not asked, and it is no text.
    intro v hv hleaf
    have hvalue : valueIn locales current key = v := by
      apply (finds_iff _).mp hv
      rintro rfl
      cases hleaf
    have hne : valueIn locales current key ≠ .null := by
      intro hnull
      rw [← hvalue, hnull] at hleaf
      cases hleaf
    rw [message_eq, sought_eq_current hne, wording_of_no_text]
    intro s hs
    rw [← hvalue, hs] at hleaf
    cases hleaf
  · intro hmissing s hs
    have hnull : valueIn locales current key = .null := by
      apply Classical.byContradiction
      intro hne
      exact hne (hmissing _ ((finds_iff hne).mpr rfl))
    have hvalue := (finds_iff (by simp)).mp hs
    rw [message_eq, sought_eq_fallback hnull, hvalue, wording]
  · intro hcurrent hfallback
    rw [message_eq, wording_of_no_text]
    intro s hs
    by_cases hnull : valueIn locales current key = .null
    · rw [sought_eq_fallback hnull] at hs
      exact hfallback s ((finds_iff (by simp)).mpr hs)
    · rw [sought_eq_current hnull] at hs
      exact hcurrent s ((finds_iff (by simp)).mpr hs)

end

/-- An inn in two languages. One of them counts its rooms in figures. -/
def inn : Members :=
  [("de", .obj [("inn", .obj [("name", .str "Zum Schwan"), ("rooms", .num (.int 5))])]),
    ("en", .obj [("inn", .obj [("name", .str "The Swan"), ("rooms", .str "five"),
      ("host", .str "Ada")])])]

/-- Each source gives a message of the inn. -/
theorem message_from_first_inn :
    message inn "de" "en" "inn.name" none = .ok (.str "Zum Schwan") ∧
      message inn "de" "en" "inn.rooms" (some "some") = .ok (.str "some") ∧
      message inn "de" "en" "inn.host" none = .ok (.str "Ada") ∧
      message inn "de" "en" "inn.beds" none = .ok (.str "inn.beds") := by
  have hname : valueIn inn "de" "inn.name" = .str "Zum Schwan" := rfl
  have hrooms : valueIn inn "de" "inn.rooms" = .num (.int 5) := rfl
  have hnoHost : valueIn inn "de" "inn.host" = .null := rfl
  have hhost : valueIn inn "en" "inn.host" = .str "Ada" := rfl
  have hnoBeds (locale : String) (hlocale : locale = "de" ∨ locale = "en") :
      valueIn inn locale "inn.beds" = .null := by
    rcases hlocale with rfl | rfl <;> rfl
  refine ⟨?_, ?_, ?_, ?_⟩
  · exact (message_from_first ..).ofCurrent _ ((finds_iff (by simp)).mpr hname)
  · exact (message_from_first ..).ofLeaf _ ((finds_iff (by simp)).mpr hrooms) rfl
  · apply (message_from_first ..).ofFallback
    · intro v hv
      apply Classical.byContradiction
      intro hne
      exact hne (hnoHost ▸ ((finds_iff hne).mp hv).symm)
    · exact (finds_iff (by simp)).mpr hhost
  · have hnone (locale : String) (hlocale : locale = "de" ∨ locale = "en") (s : String) :
        ¬ Finds inn locale "inn.beds" (.str s) := by
      rw [finds_iff (by simp), hnoBeds locale hlocale]
      exact nofun
    exact (message_from_first ..).ofNone (hnone "de" (.inl rfl)) (hnone "en" (.inr rfl))

/-- A number in the current locale hides the text of the fallback locale. -/
theorem not_from_fallback_rooms :
    ¬ ∀ (locales : Members) (current fallback key : String) (text : Option String),
      (∀ s, Finds locales current key (.str s) →
        message locales current fallback key text = .ok (.str s)) ∧
      ((∀ s, ¬ Finds locales current key (.str s)) →
        (∀ s, Finds locales fallback key (.str s) →
          message locales current fallback key text = .ok (.str s)) ∧
        ((∀ s, ¬ Finds locales fallback key (.str s)) →
          message locales current fallback key text = .ok (.str (text.getD key)))) := by
  intro h
  have hde : valueIn inn "de" "inn.rooms" = .num (.int 5) := rfl
  have hen : valueIn inn "en" "inn.rooms" = .str "five" := rfl
  have hnone (s : String) : ¬ Finds inn "de" "inn.rooms" (.str s) := by
    rw [finds_iff (by simp), hde]
    exact nofun
  have hfive := ((h inn "de" "en" "inn.rooms" none).2 hnone).1 "five"
    ((finds_iff (by simp)).mpr hen)
  rw [message_eq, sought_eq_current (by simp [hde]), hde] at hfive
  exact absurd (Json.str.inj (Except.ok.inj hfive)) (by decide)

end Catalogue
end Parley
