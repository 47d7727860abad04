import Parley.Proofs.Dialogue.ActionsWithin

/-!
# The lines within a document

Every line that a document has anywhere, whichever fork, choices and branches it takes to come to
it. What a document or a choice resolves to has no lines within but those of the document or of the
choice, and an answer has none but itself. So what is true of every line within a document is true
of every line that a conversation comes to.
-/

namespace Parley

mutual

def Line.linesWithin : Line → List Line
  | l@⟨_, _, _, _, _, _, options, _⟩ => l :: match options with
    | some cs => Choice.allLines cs
    | none => []

def Line.allLines : List Line → List Line
  | [] => []
  | l :: rest => l.linesWithin ++ Line.allLines rest

def Choice.linesWithin : Choice → List Line
  | ⟨_, _, _, lines, _, branches⟩ =>
    (match lines with
      | some ls => Line.allLines ls
      | none => []) ++
    match branches with
      | some bs => Branch.allLines bs
      | none => []

def Choice.allLines : List Choice → List Line
  | [] => []
  | c :: rest => c.linesWithin ++ Choice.allLines rest

def Branch.linesWithin : Branch → List Line
  | ⟨_, lines, _⟩ => match lines with
    | some ls => Line.allLines ls
    | none => []

def Branch.allLines : List Branch → List Line
  | [] => []
  | b :: rest => b.linesWithin ++ Branch.allLines rest

end

def Document.linesWithin (d : Document) : List Line :=
  Line.allLines (d.lines.getD []) ++ (d.forks.getD []).flatMap fun f => Line.allLines f.lines

theorem Line.linesWithin_eq (l : Line) :
    l.linesWithin = l :: Choice.allLines (l.options.getD []) := by
  obtain ⟨_, _, _, _, _, _, options, _⟩ := l
  cases options <;> rfl

theorem Choice.linesWithin_eq (c : Choice) :
    c.linesWithin = Line.allLines (c.lines.getD []) ++ Branch.allLines (c.branches.getD []) := by
  obtain ⟨_, _, _, lines, _, branches⟩ := c
  cases lines <;> cases branches <;> rfl

theorem Branch.linesWithin_eq (b : Branch) : b.linesWithin = Line.allLines (b.lines.getD []) := by
  obtain ⟨_, lines, _⟩ := b
  cases lines <;> rfl

theorem Line.allLines_eq_flatMap (ls : List Line) :
    Line.allLines ls = ls.flatMap Line.linesWithin := by
  induction ls with
  | nil => rfl
  | cons l rest ih => rw [Line.allLines, ih, List.flatMap_cons]

theorem Choice.allLines_eq_flatMap (cs : List Choice) :
    Choice.allLines cs = cs.flatMap Choice.linesWithin := by
  induction cs with
  | nil => rfl
  | cons c rest ih => rw [Choice.allLines, ih, List.flatMap_cons]

theorem Branch.allLines_eq_flatMap (bs : List Branch) :
    Branch.allLines bs = bs.flatMap Branch.linesWithin := by
  induction bs with
  | nil => rfl
  | cons b rest ih => rw [Branch.allLines, ih, List.flatMap_cons]

theorem Choice.linesWithin_of_resolve {supply : Supply} {c : Choice} {s : Stock} {l : Line}
    (h : l ∈ Line.allLines (c.resolve supply s).1.lines) : l ∈ c.linesWithin := by
  obtain ⟨b, hresolve, hmem⟩ := c.exists_resolve supply s
  rw [hresolve] at h
  rw [c.linesWithin_eq]
  cases b with
  | none => exact List.mem_append_left _ h
  | some b =>
    rcases mem_of_mem_orElse Line.allLines h with hl | hl
    · rw [Branch.allLines_eq_flatMap]
      exact List.mem_append_right _
        (List.mem_flatMap.mpr ⟨b, hmem b rfl, b.linesWithin_eq ▸ hl⟩)
    · exact List.mem_append_left _ hl

theorem Document.linesWithin_of_resolve {supply : Supply} {d : Document} {s : Stock} {l : Line}
    (h : l ∈ Line.allLines (d.resolve supply s).1.lines) : l ∈ d.linesWithin := by
  obtain ⟨f, hresolve, hmem⟩ := d.exists_resolve supply s
  rw [hresolve] at h
  unfold Document.linesWithin
  cases f with
  | none => exact List.mem_append_left _ h
  | some f => exact List.mem_append_right _ (List.mem_flatMap.mpr ⟨f, hmem f rfl, h⟩)

end Parley
