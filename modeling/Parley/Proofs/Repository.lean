import Parley.Repository

/-!
# What a repository keeps

A repository is asked for ids while its files change. The first document that it answers an id with
is its answer to that id from then on, whatever becomes of the file. Until then it answers as a new
repository would: nothing that fails, and nothing that is empty, is kept, and no id has to do with
another.
-/

namespace Parley

/-- What happens to a repository. -/
inductive Occasion where
  | asks (id : String)
  /-- Whatever is written or deleted, these are the files from now on. -/
  | changes (files : FileTree)

namespace Occasion

/-- Whether what happens has to do with an id: it is asked for, or the files change. -/
def concerns (id : String) : Occasion → Bool
  | .asks id' => id' == id
  | .changes _ => true

end Occasion

namespace Repository

variable {r : Repository} {t : FileTree} {id id' : String} {d : Document}

theorem load_of_not_cached (h : r.cache.lookup id = none) :
    (r.load t id).1 = (r.fetch t id).1 ∧ (r.load t id).2.1 = (r.fetch t id).2 := by
  unfold load
  rw [h]
  dsimp only
  split <;> rename_i hfetch <;> rw [hfetch] <;> exact ⟨rfl, rfl⟩

theorem root_load (r : Repository) (t : FileTree) (id : String) :
    (r.load t id).2.2.root = r.root := by
  unfold load
  split
  · rfl
  · split <;> rfl

theorem lookup_load_iff : (r.load t id').2.2.cache.lookup id = some d ↔
    r.cache.lookup id = some d ∨ id' = id ∧ (r.load t id').1 = .ok (some d) := by
  cases hcached : r.cache.lookup id' with
  | some d' =>
    rw [load_of_cached hcached]
    refine ⟨.inl, ?_⟩
    rintro (h | ⟨rfl, h⟩)
    · exact h
    · cases h
      exact hcached
  | none =>
    unfold load
    rw [hcached]
    dsimp only
    split
    · rename_i d' log _
      rw [List.lookup_append]
      by_cases hid : id' = id
      · subst hid
        simp [hcached]
      · have hne : (id == id') = false := by simpa using Ne.symm hid
        simp [hid, List.lookup_cons, hne]
    · rename_i hnone _
      refine ⟨.inl, ?_⟩
      rintro (h | ⟨-, h⟩)
      · exact h
      · exact absurd h (hnone d)

theorem load_eq_self (h : ∀ d, (r.load t id).1 ≠ .ok (some d)) : (r.load t id).2.2 = r := by
  unfold load at h ⊢
  split
  · rfl
  · split
    · rename_i hfetch
      rw [‹r.cache.lookup id = none›, hfetch] at h
      exact absurd rfl (h _)
    · rfl

/-- A document that is found in the files was loaded from the file of its id, and has something to
play. -/
theorem exists_of_fetch (h : (r.fetch t id).1 = .ok (some d)) :
    ∃ path l, r.pathFor id = some path ∧ t.pathExists path = .ok true ∧
      Document.loadFile t path = .ok l ∧ l.document = some d ∧ d.hasAnyLines = true := by
  unfold fetch at h
  split at h
  · cases h
  · rename_i path hpath
    split at h
    · cases h
    · cases h
    · rename_i hthere
      split at h
      · cases h
      · rename_i l hload
        split at h
        · cases h
        · rename_i d' hdocument
          cases hlines : d'.hasAnyLines with
          | true =>
            simp only [hlines, if_true] at h
            cases h
            exact ⟨path, l, hpath, hthere, hload, hdocument, hlines⟩
          | false =>
            simp only [hlines, Bool.false_eq_true, if_false] at h
            cases h

theorem hasAnyLines_of_fetch (h : (r.fetch t id).1 = .ok (some d)) : d.hasAnyLines = true := by
  obtain ⟨-, -, -, -, -, -, hlines⟩ := exists_of_fetch h
  exact hlines

def Playable (r : Repository) : Prop := ∀ p ∈ r.cache, p.2.hasAnyLines = true

theorem Playable.load (h : r.Playable) (t : FileTree) (id : String) : (r.load t id).2.2.Playable := by
  unfold Repository.load
  split
  · exact h
  · split
    · rename_i hfetch
      intro p hp
      rcases List.mem_append.mp hp with hp | hp
      · exact h p hp
      · obtain rfl := List.mem_singleton.mp hp
        exact hasAnyLines_of_fetch (congrArg Prod.fst hfetch)
    · exact h

end Repository

/-- A repository and the files that it reads. -/
structure Archive where
  files : FileTree
  repository : Repository

namespace Archive

def new (root : FilePath) (files : FileTree) : Archive := ⟨files, .ofRoot root⟩

def answer (a : Archive) (id : String) : Except Fault (Option Document) × List LogEntry :=
  ((a.repository.load a.files id).1, (a.repository.load a.files id).2.1)

def after (a : Archive) : Occasion → Archive
  | .asks id => { a with repository := (a.repository.load a.files id).2.2 }
  | .changes files => { a with files }

def run (history : List Occasion) (a : Archive) : Archive := history.foldl after a

/-- An id was asked for in a history, and the answer was a document. -/
def Answered (a : Archive) (history : List Occasion) (id : String) (d : Document) : Prop :=
  ∃ before rest, history = before ++ .asks id :: rest ∧ ((a.run before).answer id).1 = .ok (some d)

variable {a : Archive} {o : Occasion} {history : List Occasion} {id : String} {d : Document}

theorem run_cons : a.run (o :: history) = (a.after o).run history := rfl

theorem answered_cons : a.Answered (o :: history) id d ↔
    (o = .asks id ∧ (a.answer id).1 = .ok (some d)) ∨ (a.after o).Answered history id d := by
  constructor
  · rintro ⟨before, rest, hsplit, hanswer⟩
    cases before with
    | nil =>
      cases hsplit
      exact .inl ⟨rfl, hanswer⟩
    | cons o' before =>
      cases hsplit
      exact .inr ⟨before, rest, rfl, hanswer⟩
  · rintro (⟨rfl, hanswer⟩ | ⟨before, rest, rfl, hanswer⟩)
    · exact ⟨[], history, rfl, hanswer⟩
    · exact ⟨o :: before, rest, rfl, hanswer⟩

theorem lookup_after_iff : (a.after o).repository.cache.lookup id = some d ↔
    a.repository.cache.lookup id = some d ∨ o = .asks id ∧ (a.answer id).1 = .ok (some d) := by
  cases o with
  | changes files => simp [after]
  | asks id' =>
    rw [after, Repository.lookup_load_iff, Occasion.asks.injEq]
    refine or_congr_right (and_congr_right ?_)
    rintro rfl
    exact Iff.rfl

theorem lookup_run_iff : (a.run history).repository.cache.lookup id = some d ↔
    a.repository.cache.lookup id = some d ∨ a.Answered history id d := by
  induction history generalizing a with
  | nil =>
    refine ⟨.inl, ?_⟩
    rintro (h | ⟨before, rest, hsplit, -⟩)
    · exact h
    · cases before <;> cases hsplit
  | cons o history ih => rw [run_cons, ih, lookup_after_iff, answered_cons, or_assoc]

theorem root_run (a : Archive) (history : List Occasion) :
    (a.run history).repository.root = a.repository.root := by
  induction history generalizing a with
  | nil => rfl
  | cons o history ih =>
    rw [run_cons, ih]
    cases o with
    | asks id => exact Repository.root_load _ _ id
    | changes files => rfl

theorem playable_run (h : a.repository.Playable) (history : List Occasion) :
    (a.run history).repository.Playable := by
  induction history generalizing a with
  | nil => exact h
  | cons o history ih =>
    apply ih
    cases o with
    | asks id => exact h.load a.files id
    | changes files => exact h

/-- Two archives are alike for an id. -/
structure Alike (id : String) (a b : Archive) : Prop where
  files : a.files = b.files
  root : a.repository.root = b.repository.root
  kept : a.repository.cache.lookup id = b.repository.cache.lookup id

namespace Alike

variable {b : Archive}

theorem answer (h : Alike id a b) : a.answer id = b.answer id := by
  unfold Archive.answer
  cases hkept : a.repository.cache.lookup id with
  | some d =>
    rw [Repository.load_of_cached hkept, Repository.load_of_cached (h.kept ▸ hkept)]
  | none =>
    obtain ⟨hresult, hlog⟩ := Repository.load_of_not_cached (t := a.files) hkept
    obtain ⟨hresult', hlog'⟩ := Repository.load_of_not_cached (t := b.files) (h.kept ▸ hkept)
    have hfetch : a.repository.fetch a.files id = b.repository.fetch b.files id := by
      unfold Repository.fetch Repository.pathFor
      rw [h.root, h.files]
    rw [hresult, hlog, hresult', hlog', hfetch]

theorem after (h : Alike id a b) (o : Occasion) : Alike id (a.after o) (b.after o) := by
  refine ⟨?_, ?_, ?_⟩
  · cases o with
    | asks id' => exact h.files
    | changes files => rfl
  · cases o with
    | asks id' => simp only [Archive.after, Repository.root_load, h.root]
    | changes files => exact h.root
  · apply Option.ext
    intro d
    rw [lookup_after_iff, lookup_after_iff, h.kept, h.answer]

theorem after_of_not_concerns (h : Alike id a b) (ho : o.concerns id = false) :
    Alike id (a.after o) b := by
  cases o with
  | changes files => cases ho
  | asks id' =>
    have hne : id' ≠ id := by simpa [Occasion.concerns] using ho
    refine ⟨h.files, (Repository.root_load _ _ id').trans h.root, Option.ext fun d => ?_⟩
    rw [lookup_after_iff, h.kept]
    simp [hne]

theorem run_filter (h : Alike id a b) (history : List Occasion) :
    Alike id (a.run history) (b.run (history.filter (Occasion.concerns id))) := by
  induction history generalizing a b with
  | nil => exact h
  | cons o history ih =>
    cases ho : o.concerns id with
    | true =>
      rw [List.filter_cons_of_pos ho]
      exact ih (h.after o)
    | false =>
      rw [List.filter_cons_of_neg (by simp [ho])]
      exact ih (h.after_of_not_concerns ho)

end Alike

/-- After any history, an id is answered with the document that it was answered with before,
whatever became of the files since, and nothing changes; and if it was answered with none, with what
a new repository would find in the files as they are. An answer without a document leaves the
repository as it was, what other ids were asked for makes no difference, and every document that is
kept has a line to play. -/
theorem answers_after_run (root : FilePath) (files : FileTree) (history : List Occasion)
    (id : String) :
    let a := (new root files).run history
    (∀ d, (new root files).Answered history id d →
      a.repository.load a.files id = (.ok (some d), [], a.repository)) ∧
    ((∀ d, ¬(new root files).Answered history id d) →
      a.answer id = (new root a.files).answer id) ∧
    ((∀ d, (a.answer id).1 ≠ .ok (some d)) → a.after (.asks id) = a) ∧
    a.answer id = ((new root files).run (history.filter (Occasion.concerns id))).answer id ∧
    ∀ p ∈ a.repository.cache, (p.2.lines.getD [] ≠ [] ∨ ∃ f ∈ p.2.forks.getD [], f.lines ≠ []) := by
  intro a
  have hkept : ∀ d, a.repository.cache.lookup id = some d ↔
      (new root files).Answered history id d := by
    intro d
    rw [lookup_run_iff]
    exact or_iff_right nofun
  refine ⟨fun d hd => Repository.load_of_cached ((hkept d).mpr hd), ?_, ?_, ?_, ?_⟩
  · intro hnone
    refine Alike.answer ⟨rfl, root_run _ history, ?_⟩
    rw [Option.eq_none_iff_forall_ne_some.mpr fun d hd => hnone d ((hkept d).mp hd)]
    rfl
  · intro hnone
    rw [after, Repository.load_eq_self hnone]
  · exact (Alike.run_filter ⟨rfl, rfl, rfl⟩ history).answer
  · intro p hp
    have hlines := playable_run (a := new root files) nofun history p hp
    unfold Document.hasAnyLines at hlines
    simpa using hlines

end Archive
end Parley
