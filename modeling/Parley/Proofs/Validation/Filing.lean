import Mathlib.Data.List.TakeWhile
import Parley.Proofs.Text.Ascii
import Parley.Proofs.Text.OneLine
import Parley.Proofs.Validation.Completeness
import Parley.Validation.Report

/-!
# Where findings are filed

Validation has the findings of the reading as messages only, and takes the place of each off its
message. The message begins with the place, which is made of place characters and ends at a colon,
so the place is taken off as it was put there. But a message of more than one line is left whole,
and goes to the document. The only way for a line feed into a message is a text that it shows as it
is: an unknown speaker, emotion, or type of a check or an action.
-/

namespace Parley

theorem isPlaceChar_of_isAlphanum {c : Char} (h : c.isAlphanum = true) : isPlaceChar c = true := by
  have hascii := (Text.toNat_of_isAlphanum h).2
  simp [isPlaceChar, Text.isWord, hascii, h]

theorem isPlaceChar_of_isAlpha {c : Char} (h : c.isAlpha = true) : isPlaceChar c = true :=
  isPlaceChar_of_isAlphanum (by simp [Char.isAlphanum, h])

theorem isPlaceChar_of_isDigit {c : Char} (h : c.isDigit = true) : isPlaceChar c = true :=
  isPlaceChar_of_isAlphanum (by simp [Char.isAlphanum, h])

namespace Location

variable {l : Location}

theorem isPlaceChar_of_mem_writeAfter (h : ∀ s ∈ l, s.Plain) :
    ∀ c ∈ (writeAfter l).toList, isPlaceChar c = true := by
  induction l with
  | nil => simp [writeAfter]
  | cons s l ih =>
    have hs := h s List.mem_cons_self
    have hrest := ih fun s hs => h s (List.mem_cons_of_mem _ hs)
    cases s with
    | field name =>
      rw [toList_writeAfter_field]
      intro c hc
      rcases List.mem_cons.mp hc with rfl | hc
      · decide
      · rcases List.mem_append.mp hc with hname | hc
        · exact isPlaceChar_of_isAlpha (hs.2 c hname)
        · exact hrest c hc
    | item i =>
      rw [toList_writeAfter_item]
      intro c hc
      rcases List.mem_cons.mp hc with rfl | hc
      · decide
      · rcases List.mem_append.mp hc with hindex | hc
        · exact isPlaceChar_of_isDigit (isDigit_of_mem_repr hindex)
        · rcases List.mem_cons.mp hc with rfl | hc
          · decide
          · exact hrest c hc

theorem isPlaceChar_of_mem_write {name : String} (h : ∀ s ∈ Step.field name :: l, s.Plain) :
    ∀ c ∈ (write (.field name :: l)).toList, isPlaceChar c = true := by
  intro c hc
  apply isPlaceChar_of_mem_writeAfter h
  rw [← point_write_field, String.toList_append]
  exact List.mem_append_right _ hc

end Location

theorem soleLine?_of_oneLine {s : String} (h : OneLine s) : soleLine? s.toList = some s.toList := by
  have hno : ∀ c ∈ s.toList, (c != '\n') = true := by
    intro c hc
    rw [bne_iff_ne]
    rintro rfl
    exact h hc
  unfold soleLine?
  rw [List.dropWhile_eq_nil_iff.mpr hno, List.takeWhile_eq_self_iff.mpr hno]

theorem soleLine?_of_lineFeed (before : List Char) {after : List Char} (h : after ≠ []) :
    soleLine? (before ++ '\n' :: after) = none := by
  have hlong : ∀ rest : List Char, (before ++ '\n' :: after).dropWhile (· != '\n') = rest →
      2 ≤ rest.length := by
    induction before with
    | nil =>
      rintro rest rfl
      have := List.length_pos_of_ne_nil h
      simp
      omega
    | cons c before ih =>
      rintro rest rfl
      rw [List.cons_append, List.dropWhile_cons]
      split
      · exact ih _ rfl
      · simp
        omega
  unfold soleLine?
  split
  · rename_i hrest
    exact absurd (hlong _ hrest) (by simp)
  · rename_i hrest
    exact absurd (hlong _ hrest) (by simp)
  · rfl

/-- A place before a colon is taken off the message, unless what follows is more than one line. -/
theorem placed?_of_place {place : String} (h : ∀ c ∈ place.toList, isPlaceChar c = true)
    (hne : place ≠ "") (told : String) :
    placed? (place ++ ": " ++ told) =
      (soleLine? told.toList).map fun line => (place, String.ofList line) := by
  have hlist : (place ++ ": " ++ told).toList = place.toList ++ ':' :: ' ' :: told.toList := by
    simp [String.toList_append]
  have hempty : place.toList.isEmpty = false := by
    simpa using hne
  have hcolon : isPlaceChar ':' = false := by decide
  unfold placed?
  rw [hlist, List.takeWhile_append_of_pos h, List.dropWhile_append_of_pos h]
  simp [hcolon, hempty]

theorem placed?_of_word {word rest : String} (h : ∀ c ∈ word.toList, isPlaceChar c = true) :
    placed? (word ++ " " ++ rest) = none := by
  have hlist : (word ++ " " ++ rest).toList = word.toList ++ ' ' :: rest.toList := by
    simp [String.toList_append]
  have hblank : isPlaceChar ' ' = false := by decide
  unfold placed?
  rw [hlist, List.dropWhile_append_of_pos h]
  simp [hblank]

def Json.bare? : Json → Option String
  | .str s => some s
  | _ => none

/-- The text of the document that the message of a defect shows as it is. -/
def Defect.bare? : Defect → Option String
  | .unknownSpeaker v | .unknownEmotion v | .unknownCheck v | .unknownAction v => v.bare?
  | _ => none

/-- Only the bare text of a message may have a line feed, and it does not end the message. -/
def Shows (message : String) : Option String → Prop
  | none => OneLine message
  | some s => ∃ before after, message = before ++ s ++ after ∧ OneLine before ∧ OneLine after ∧
      after ≠ ""

theorem shows_display {before after : String} (hbefore : OneLine before) (hafter : OneLine after)
    (hne : after ≠ "") (v : Json) : Shows (before ++ v.display ++ after) v.bare? := by
  cases v with
  | str s => exact ⟨before, after, rfl, hbefore, hafter, hne⟩
  | _ =>
    simp only [Shows, Json.bare?, oneLine_append]
    exact ⟨⟨hbefore, Json.oneLine_display (by rintro _ ⟨⟩)⟩, hafter⟩

theorem Json.oneLine_kind (v : Json) : OneLine v.kind := by
  unfold Json.kind
  split <;> decide

theorem Defect.message_unknownSpeaker (v : Json) :
    (unknownSpeaker v).message =
      "unknown speaker '" ++ v.display ++ "' (expected one of npc, player)" := by
  have hmessage : (unknownSpeaker v).message = "unknown speaker '" ++ v.display ++
      "' (expected one of " ++ ", ".intercalate knownSpeakers ++ ")" := rfl
  have hknown : ", ".intercalate knownSpeakers = "npc, player" := by decide +kernel
  have hafter : "' (expected one of " ++ ("npc, player" ++ ")") =
      "' (expected one of npc, player)" := by decide +kernel
  rw [hmessage, hknown, String.append_assoc, String.append_assoc, hafter]

theorem Defect.message_idNotText (id : Json) :
    (idNotText id).message = "Document" ++ " " ++ ("id " ++ id.quoted ++ " is not a string") := by
  have hmessage : (idNotText id).message = "Document id " ++ id.quoted ++ " is not a string" := rfl
  have hbegin : "Document id " = "Document" ++ " " ++ "id " := by decide +kernel
  rw [hmessage, hbegin]
  simp only [String.append_assoc]

theorem Wrong.shows {p : Place} {v : Json} {d : Defect} (h : Wrong p v d) :
    Shows d.message d.bare? := by
  cases h with
  | notAList => exact oneLine_append.mpr ⟨by decide, Json.oneLine_kind v⟩
  | @notAnObject kind =>
    refine oneLine_append.mpr ⟨by decide, ?_⟩
    cases kind <;> decide
  | unknownSpeaker =>
    rw [Defect.message_unknownSpeaker]
    exact shows_display (by decide) (by decide) (by decide) _
  | unknownEmotion => exact shows_display (by decide) (by decide) (by decide) _
  | unknownCheck => exact shows_display (by decide) (by decide) (by decide) _
  | unknownAction => exact shows_display (by decide) (by decide) (by decide) _
  | amountNotNumber =>
    have hquoted := Json.oneLine_quoted_all.1
    exact oneLine_append.mpr ⟨oneLine_append.mpr ⟨by decide, hquoted _⟩, by decide⟩
  | amountNotFinite =>
    exact oneLine_append.mpr ⟨oneLine_append.mpr ⟨by decide, Number.oneLine_write _⟩, by decide⟩
  | choiceWithoutId => exact (by decide : OneLine Defect.choiceWithoutId.message)
  | checkWithoutItem => exact (by decide : OneLine Defect.checkWithoutItem.message)
  | actionWithoutItem => exact (by decide : OneLine Defect.actionWithoutItem.message)
  | amountTooLarge => exact (by decide : OneLine Defect.amountTooLarge.message)
  | unwritable => exact (by decide +kernel : OneLine Defect.unwritable.message)

section

variable {message : String} {shown : Option String}

theorem Shows.soleLine?_of_oneLine (h : Shows message shown) (hshown : ∀ s ∈ shown, OneLine s) :
    soleLine? message.toList = some message.toList := by
  apply Parley.soleLine?_of_oneLine
  cases shown with
  | none => exact h
  | some s =>
    obtain ⟨before, after, rfl, hbefore, hafter, -⟩ := h
    simp [hbefore, hafter, hshown s rfl]

theorem Shows.soleLine?_of_lineFeed (h : Shows message shown) (hshown : ¬ ∀ s ∈ shown, OneLine s) :
    soleLine? message.toList = none := by
  cases shown with
  | none => exact absurd (by rintro _ ⟨⟩) hshown
  | some s =>
    obtain ⟨before, after, rfl, -, -, hne⟩ := h
    have hs : '\n' ∈ s.toList := by simpa [OneLine] using hshown
    obtain ⟨start, rest, hsplit⟩ := List.append_of_mem hs
    have hlist : (before ++ s ++ after).toList =
        (before.toList ++ start) ++ '\n' :: (rest ++ after.toList) := by
      simp [String.toList_append, hsplit]
    rw [hlist]
    exact Parley.soleLine?_of_lineFeed _ (by simp [hne])

end

/-- A finding whose message is one line: a text that it shows as it is has no line feed. -/
def Finding.IsLine (f : Finding) : Prop := ∀ s ∈ f.defect.bare?, OneLine s

instance : DecidablePred Finding.IsLine :=
  fun f => inferInstanceAs (Decidable (∀ s ∈ f.defect.bare?, OneLine s))

/-- The issue that a finding becomes: at its place what is wrong there, or at the document the whole
message if there is no place or the message is more than one line. -/
inductive Files (severity : IssueSeverity) : Finding → Issue → Prop where
  | placed {f : Finding} (place : f.location ≠ []) (apart : f.location.write ≠ wholeDocument)
      (message : f.message = f.location.write ++ ": " ++ f.defect.message) (line : f.IsLine) :
      Files severity f ⟨severity, f.location.write, f.defect.message, none⟩
  | whole {f : Finding} (cause : f.location = [] ∨ ¬ f.IsLine) :
      Files severity f ⟨severity, wholeDocument, f.message, none⟩

/-- A way by words and indices that begins with a list of a document. -/
structure Location.Rooted (l : Location) : Prop where
  plain : ∀ s ∈ l, s.Plain
  begins : ∃ name rest, name ∈ ["lines", "forks", "actions"] ∧ l = .field name :: rest

theorem Location.Rooted.write_ne_wholeDocument {l : Location} (h : l.Rooted) :
    l.write ≠ wholeDocument := by
  obtain ⟨name, rest, hname, rfl⟩ := h.begins
  intro hsame
  have hhead := congrArg (fun s => s.toList.head?) hsame
  simp only [List.mem_cons, List.mem_nil_iff, or_false] at hname
  rcases hname with rfl | rfl | rfl <;>
    simp [write, wholeDocument, String.toList_append] at hhead

theorem Defective.rooted {v : Json} {l : Location} {d : Defect}
    (h : Defective (.part .document) v l d) : l.Rooted := by
  refine ⟨h.plain, ?_⟩
  cases h with
  | here h => cases h
  | @field _ ms name _ _ l _ list =>
    have hname : ∀ entry ∈ Node.lists ⟨.document, ms⟩,
        entry.1 ∈ ["lines", "forks", "actions"] := by simp [Node.lists]
    exact ⟨name, l, hname _ list, rfl⟩

theorem Defective.files {v : Json} {f : Finding}
    (h : Defective (.part .document) v f.location f.defect) (severity : IssueSeverity) :
    Files severity f (Issue.ofFinding severity f) := by
  obtain ⟨p, u, -, hwrong⟩ := h.exists_follow
  obtain ⟨name, l, hname, hlocation⟩ := h.eq_field
  have hplain := h.plain
  rw [hlocation] at hplain
  have hplaced := placed?_of_place (Location.isPlaceChar_of_mem_write hplain)
    (Location.write_field_ne_empty hname l) f.defect.message
  rw [← hlocation] at hplaced
  have hmessage : f.message = f.location.write ++ ": " ++ f.defect.message := by
    rw [Finding.message, hlocation]
    rfl
  rw [Issue.ofFinding, Issue.ofMessage, hmessage, hplaced]
  by_cases hline : f.IsLine
  · rw [hwrong.shows.soleLine?_of_oneLine hline]
    simp only [Option.map_some, String.ofList_toList]
    exact .placed (by simp [hlocation]) h.rooted.write_ne_wholeDocument hmessage hline
  · rw [hwrong.shows.soleLine?_of_lineFeed hline, ← hmessage]
    exact .whole (.inr hline)

/-- What concerns the document as a whole begins with a word and names no place. -/
theorem files_of_word (word rest : String) {f : Finding} (hlocation : f.location = [])
    (hmessage : f.defect.message = word ++ " " ++ rest)
    (hword : word.toList.all isPlaceChar = true) (severity : IssueSeverity) :
    Files severity f (Issue.ofFinding severity f) := by
  have hwhole : f.message = word ++ " " ++ rest := by
    rw [Finding.message, hlocation, ← hmessage]
    rfl
  rw [Issue.ofFinding, Issue.ofMessage, hwhole, placed?_of_word (List.all_eq_true.mp hword), ← hwhole]
  exact .whole (.inl hlocation)

/-- What is found, if it is not fatal, is about the document as a whole, or a defect at a place. -/
theorem Document.mem_findings_read {v : Json} {defaultId : String} {f : Finding}
    (h : f ∈ (Document.read v defaultId).findings) (hmild : f.severity ≠ .fatal) :
    (∃ id, f = ⟨[], .idNotText id⟩) ∨ f = ⟨[], .notADocument⟩ ∨
      Defective (.part .document) v f.location f.defect := by
  cases v with
  | obj ms =>
    simp only [Document.read, List.append_assoc] at h
    rcases List.mem_append.mp h with hid | hbelow
    · obtain ⟨-, rfl⟩ := Document.mem_readId.mp hid
      split at hmild
      · rename_i hwritable
        exact .inl ⟨_, by rw [if_pos hwritable]⟩
      · exact absurd rfl hmild
    · rw [← List.append_assoc] at hbelow
      obtain ⟨l, d, rfl, hd⟩ := ((Document.diagnosis_read ms).mem_iff f).mp hbelow
      exact .inr (.inr hd)
  | _ => exact .inr (.inl (List.mem_singleton.mp h))

theorem Document.files_read {v : Json} {defaultId : String} {f : Finding}
    (h : f ∈ (Document.read v defaultId).findings) (hmild : f.severity ≠ .fatal)
    (severity : IssueSeverity) : Files severity f (Issue.ofFinding severity f) := by
  rcases Document.mem_findings_read h hmild with ⟨id, rfl⟩ | rfl | hdefective
  · exact files_of_word _ _ rfl (Defect.message_idNotText _) (by decide) severity
  · exact files_of_word "Dialogue" "document must be a JSON object" rfl (by decide +kernel)
      (by decide) severity
  · exact hdefective.files severity

theorem forall₂_files {severity : IssueSeverity} {fs : List Finding}
    (h : ∀ f ∈ fs, Files severity f (Issue.ofFinding severity f)) :
    List.Forall₂ (Files severity) fs (fs.map (Issue.ofFinding severity)) := by
  rw [List.forall₂_map_right_iff, List.forall₂_same]
  exact h

/-- Whenever a value can be loaded, validation reports the errors of the reading one by one and in
their order, and after them only errors of the document's flaws; so with the warnings. A finding with
a place keeps the place and what is wrong there exactly if no text that it shows as it is has a line
feed. Every other finding is told whole, as one of the document. -/
theorem Validation.files_of_load {v : Json} {defaultId : String} {l : Loaded}
    (h : Document.load v defaultId = .ok l) :
    ∃ (r : Validation) (errors warnings flaws : List Issue),
      Validation.ofValue v defaultId = .ok r ∧
      List.Forall₂ (Files .error) l.errors errors ∧
      List.Forall₂ (Files .warning) l.warnings warnings ∧
      r.errors = errors ++ flaws.filter (·.severity == .error) ∧
      r.warnings = warnings ++ flaws.filter (·.severity == .warning) ∧
      ∀ i ∈ flaws, ∃ d f, l.document = some d ∧ f ∈ d.flaws ∧ i = Issue.ofFlaw f := by
  obtain ⟨herrors, hwarnings, hcalm⟩ := Loaded.findings_of_ofNoted h
  have hfiles (severity : IssueSeverity) (f : Finding) (hf : f ∈ l.errors ∨ f ∈ l.warnings) :
      Files severity f (Issue.ofFinding severity f) := by
    rw [herrors, hwarnings, List.mem_filter, List.mem_filter, ← and_or_left] at hf
    exact Document.files_read hf.1 (hcalm f hf.1) severity
  refine ⟨Validation.ofLoaded l, _, _, _, ?_, forall₂_files fun f hf => hfiles _ f (.inl hf),
    forall₂_files fun f hf => hfiles _ f (.inr hf), rfl, rfl, ?_⟩
  · rw [Validation.ofValue, h]
    rfl
  · intro i hi
    cases hdocument : l.document with
    | none => simp [hdocument] at hi
    | some d =>
      simp only [hdocument, List.mem_map] at hi
      obtain ⟨f, hf, rfl⟩ := hi
      exact ⟨d, f, rfl, hf, rfl⟩

/-- A line of a speaker with a line feed in the name and one of an unknown emotion, in a document of
an id that is no text. -/
def scribbled : Members :=
  [("id", .num (.int 3)), ("lines", .arr [.obj [("speaker", .str "a\nb"), ("text", .str "x")],
    .obj [("emotion", .str "bored"), ("text", .str "y")]])]

theorem files_scribbled : ∃ l r errors flaws, Document.load (.obj scribbled) "gate" = .ok l ∧
    Validation.ofValue (.obj scribbled) "gate" = .ok r ∧
    List.Forall₂ (Files .error) l.errors errors ∧ r.errors = errors ++ flaws ∧
    r.errors = [⟨.error, "document",
      "lines[0]: unknown speaker 'a\nb' (expected one of npc, player)", none⟩] ∧
    r.warnings = [⟨.warning, "document", "Document id 3 is not a string", none⟩,
      ⟨.warning, "lines[1]", "unknown emotion 'bored'", none⟩] := by
  obtain ⟨l, hl⟩ : ∃ l, Document.load (.obj scribbled) "gate" = .ok l := ⟨_, rfl⟩
  obtain ⟨r, errors, warnings, flaws, hr, herrors, -, hreport, -, -⟩ :=
    Validation.files_of_load hl
  refine ⟨l, r, errors, _, hl, hr, herrors, hreport, ?_, ?_⟩
  · cases hr
    decide +kernel
  · cases hr
    decide +kernel

/-- Not every error with a place is reported at its place. -/
theorem not_placed_scribbled : ¬ ∀ (v : Json) (defaultId : String) (l : Loaded) (r : Validation),
    Document.load v defaultId = .ok l → Validation.ofValue v defaultId = .ok r →
    ∀ f ∈ l.errors, f.location ≠ [] →
      (⟨.error, f.location.write, f.defect.message, none⟩ : Issue) ∈ r.errors := by
  intro h
  obtain ⟨l, hl⟩ : ∃ l, Document.load (.obj scribbled) "gate" = .ok l := ⟨_, rfl⟩
  obtain ⟨r, hr⟩ : ∃ r, Validation.ofValue (.obj scribbled) "gate" = .ok r := ⟨_, rfl⟩
  have hfinding : (⟨[.field "lines", .item 0], .unknownSpeaker (.str "a\nb")⟩ : Finding) ∈
      l.errors := by
    cases hl
    exact List.mem_cons_self
  have hmem := h (.obj scribbled) "gate" l r hl hr _ hfinding (by rintro ⟨⟩)
  cases hr
  exact absurd hmem (by decide +kernel)

end Parley
