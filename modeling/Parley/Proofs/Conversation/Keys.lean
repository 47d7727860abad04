import Parley.Proofs.Conversation.Rendering

/-!
# The keys of lines

Reading keeps whatever value is given as the key of a text or of a name. A catalogue splits a key at
its dots, so it fails at one that is no text, unless there are no messages to look it up in. A line is
shown if and only if each of its keys is a text, or no key at all, or there are no messages.
-/

namespace Parley

def Json.IsKey (v : Json) : Prop := v.truthy = true → ∃ s, v = .str s

/-- The keys of a line, of its text, of its name and of its choices, are texts if there are any. -/
structure Line.Keyed (l : Line) : Prop where
  text : l.textKey.IsKey
  name : l.nameKey.IsKey
  choices : ∀ c ∈ l.options.getD [], c.textKey.IsKey

theorem Line.Keyed.answered {l : Line} (h : l.Keyed) (text : String) : (l.answered text).Keyed :=
  ⟨nofun, h.name, nofun⟩

namespace Catalogue

/-- The names of both locales are texts. -/
structure Named (c : Catalogue) : Prop where
  current : ∃ name, c.current = .str name
  fallback : ∃ name, c.fallback = .str name

/-- There are no messages in either locale. -/
structure Bare (c : Catalogue) : Prop where
  current : c.tree c.current = .ok .null
  fallback : c.tree c.fallback = .ok .null

variable {c : Catalogue} {name : String}

theorem exists_lookup (c : Catalogue) (name s : String) :
    ∃ v, c.lookup (.str name) (.str s) = .ok v := by
  refine exists_ok_bind ⟨c.locales.get name, rfl⟩ fun tree => ?_
  split
  · exact ⟨.null, rfl⟩
  · exact ⟨_, rfl⟩

/-- Without messages nothing is found, whatever the key is. -/
theorem lookup_of_null (h : c.locales.get name = .null) (key : Json) :
    c.lookup (.str name) key = .ok .null := by
  change (if (c.locales.get name).isNull then .ok .null else _ : Except Fault Json) = _
  rw [h]
  rfl

theorem lookup_of_ne_str (h : c.locales.get name ≠ .null) {key : Json}
    (hkey : ∀ s, key ≠ .str s) :
    c.lookup (.str name) key = .error (.noMember key.kind "split") := by
  have htree : (c.locales.get name).isNull = false := by
    cases hv : c.locales.get name with
    | null => exact absurd hv h
    | _ => rfl
  change (if (c.locales.get name).isNull then .ok .null else _ : Except Fault Json) = _
  rw [htree]
  cases key with
  | str s => exact absurd rfl (hkey s)
  | _ => rfl

/-- A catalogue does not fail at a key if and only if the key is a text or there are no messages. -/
theorem find_ok_iff (h : c.Named) (key : Json) :
    (∃ v, c.find key = .ok v) ↔ (∃ s, key = .str s) ∨ c.Bare := by
  obtain ⟨⟨current, hcurrent⟩, ⟨fallback, hfallback⟩⟩ := h
  have hbare : c.Bare ↔ c.locales.get current = .null ∧ c.locales.get fallback = .null := by
    constructor
    · rintro ⟨hc, hf⟩
      rw [hcurrent] at hc
      rw [hfallback] at hf
      exact ⟨Except.ok.inj hc, Except.ok.inj hf⟩
    · rintro ⟨hc, hf⟩
      exact ⟨hcurrent ▸ congrArg Except.ok hc, hfallback ▸ congrArg Except.ok hf⟩
  rw [hbare, find, hcurrent, hfallback]
  by_cases hkey : ∃ s, key = .str s
  · refine iff_of_true ?_ (.inl hkey)
    obtain ⟨s, rfl⟩ := hkey
    refine exists_ok_bind (c.exists_lookup current s) fun v => ?_
    split
    · exact c.exists_lookup fallback s
    · exact ⟨v, rfl⟩
  · have hother : ∀ s, key ≠ .str s := fun s hs => hkey ⟨s, hs⟩
    rw [or_iff_right hkey]
    by_cases hc : c.locales.get current = .null
    · rw [lookup_of_null hc]
      change (∃ v, c.lookup (.str fallback) key = .ok v) ↔ _
      by_cases hf : c.locales.get fallback = .null
      · exact iff_of_true ⟨.null, lookup_of_null hf key⟩ ⟨hc, hf⟩
      · rw [lookup_of_ne_str hf hother]
        exact iff_of_false nofun fun h => hf h.2
    · rw [lookup_of_ne_str hc hother]
      exact iff_of_false nofun fun h => hc h.1

end Catalogue

namespace Engine

variable {w : World} {c : Catalogue}

/-- A translator by catalogue does not fail at a key that is found or missed. -/
theorem tells_of_find (htranslator : w.translator = .catalogue c) {key v : Json}
    (h : c.find key = .ok v) : w.Tells key := by
  constructor
  · intro fallback
    rw [htranslator]
    change ∃ m, c.translate key [] fallback = .ok m
    refine exists_ok_bind ⟨v, h⟩ fun found => ?_
    dsimp only
    split <;> exact ⟨_, rfl⟩
  · intro text
    rw [htranslator]
    refine exists_ok_bind ⟨v, h⟩ fun found => ?_
    split <;> exact ⟨_, rfl⟩

/-- A text that is told has a key that is found or missed, if it has one. -/
theorem find_of_localize (htranslator : w.translator = .catalogue c) {key : Json}
    {text shown : String} (h : localize w key text = .ok shown) (hkey : key.truthy = true) :
    ∃ v, c.find key = .ok v := by
  rw [localize, if_pos hkey, htranslator] at h
  obtain ⟨v, hv, -⟩ := exists_of_bind_eq_ok h
  exact ⟨v, hv⟩

theorem find_of_speakerName (htranslator : w.translator = .catalogue c) {s : Session} {l : Line}
    {name : Json} (h : speakerName w s l = .ok name) (hkey : l.nameKey.truthy = true) :
    ∃ v, c.find l.nameKey = .ok v := by
  simp only [speakerName, if_pos hkey] at h
  split at h
  all_goals
    obtain ⟨usual, -, h⟩ := exists_of_bind_eq_ok h
    rw [htranslator] at h
    obtain ⟨v, hv, -⟩ := exists_of_bind_eq_ok h
    exact ⟨v, hv⟩

/-- A line is shown with the messages of a catalogue if and only if its keys are texts or there are
no messages. -/
theorem renderLine_ok_iff (htranslator : w.translator = .catalogue c) (hnamed : c.Named)
    (s : Session) (l : Line) :
    (∃ shown, renderLine w s l = .ok shown) ↔ c.Bare ∨ l.Keyed := by
  have htells : ∀ key, (∃ s, key = .str s) ∨ c.Bare → w.Tells key := by
    intro key hkey
    obtain ⟨v, hv⟩ := (c.find_ok_iff hnamed key).mpr hkey
    exact tells_of_find htranslator hv
  constructor
  · rintro ⟨shown, hshown⟩
    obtain ⟨⟨text, htext⟩, ⟨name, hname⟩, hchoices⟩ := of_renderLine hshown
    by_cases hbare : c.Bare
    · exact .inl hbare
    · have hfound : ∀ key, (∃ v, c.find key = .ok v) → ∃ s, key = .str s := fun key hfind =>
        ((c.find_ok_iff hnamed key).mp hfind).resolve_right hbare
      refine .inr ⟨?_, ?_, ?_⟩
      · exact fun hkey => hfound _ (find_of_localize htranslator htext hkey)
      · exact fun hkey => hfound _ (find_of_speakerName htranslator hname hkey)
      · intro choice hchoice hkey
        obtain ⟨reply, hreply⟩ := hchoices choice hchoice
        exact hfound _ (find_of_localize htranslator hreply hkey)
  · rintro (hbare | hkeyed)
    · exact exists_renderLine (fun _ => htells _ (.inr hbare)) s
        ⟨fun _ => htells _ (.inr hbare), fun _ => htells _ (.inr hbare),
          fun _ _ _ => htells _ (.inr hbare)⟩
    · exact exists_renderLine (fun _ => htells _ (.inl ⟨_, rfl⟩)) s
        ⟨fun hkey => htells _ (.inl (hkeyed.text hkey)),
          fun hkey => htells _ (.inl (hkeyed.name hkey)),
          fun choice hchoice hkey => htells _ (.inl (hkeyed.choices choice hchoice hkey))⟩

end Engine
end Parley
