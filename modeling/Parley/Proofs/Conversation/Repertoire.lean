import Parley.Proofs.Conversation.Bookkeeping
import Parley.Proofs.Dialogue.LinesWithin

/-!
# The lines that a conversation comes to

A conversation that is opened on a document has no lines, and leads to no lines, but those within
the document. What is true of each of these, and of each of them as it is answered, stays true of
every line that the conversation comes to.
-/

namespace Parley

/-- All lines of the session, and all that they can lead to, are as `P` tells. -/
def Session.Throughout (P : Line → Prop) (s : Session) : Prop := ∀ l ∈ Line.allLines s.lines, P l

namespace Session

variable {P : Line → Prop}

theorem throughout_idle : idle.Throughout P := nofun

theorem throughout_opened {d : Document} (h : ∀ l ∈ d.linesWithin, P l) (npcId : String)
    (npcName : Json) (supply : Supply) (stock : Stock) :
    (opened npcId npcName (d.resolve supply stock).1).Throughout P := by
  intro l hl
  rw [opened, Line.copyList_eq] at hl
  exact h l (Document.linesWithin_of_resolve hl)

theorem Throughout.of_current {s : Session} (h : s.Throughout P) {l : Line}
    (hcurrent : s.current? = some l) : P l := by
  unfold current? at hcurrent
  split at hcurrent
  · apply h
    rw [Line.allLines_eq_flatMap]
    refine List.mem_flatMap.mpr ⟨l, List.mem_of_getElem? hcurrent, ?_⟩
    rw [l.linesWithin_eq]
    exact List.mem_cons_self
  · cases hcurrent

end Session

theorem Line.linesWithin_answered (l : Line) (text : String) :
    (l.answered text).linesWithin = [l.answered text] := rfl

namespace Engine

variable {P : Line → Prop} {e : Engine}

/-- An answer and what the choice resolves to are as `P` tells, if the line and all that it could
lead to were. -/
theorem throughout_answered (hP : ∀ l text, P l → P (l.answered text)) {supply : Supply}
    {id : String} {l : Line} {choice : Choice} (hoffered : e.offered id = some (l, choice))
    (h : e.session.Throughout P) (text : String) :
    (e.answered supply l choice text).session.Throughout P := by
  obtain ⟨hl, hchoice⟩ := mem_of_offered hoffered
  simp only [Session.Throughout, Line.allLines_eq_flatMap, List.mem_flatMap] at h ⊢
  have hline : ∀ l' ∈ l.linesWithin, P l' := fun l' hl' => h l' ⟨l, hl, hl'⟩
  rw [l.linesWithin_eq] at hline
  rintro l'' ⟨l', hl', hl''⟩
  rcases mem_lines_answered hl' with hl' | rfl | hl'
  · exact h l'' ⟨l', hl', hl''⟩
  · rw [Line.linesWithin_answered] at hl''
    obtain rfl := List.mem_singleton.mp hl''
    exact hP l text (hline l List.mem_cons_self)
  · have hresolved : l'' ∈ Line.allLines (choice.resolve supply e.stock).1.lines := by
      rw [Line.allLines_eq_flatMap]
      exact List.mem_flatMap.mpr ⟨l', hl', hl''⟩
    apply hline l'' (List.mem_cons_of_mem _ _)
    rw [Choice.allLines_eq_flatMap]
    exact List.mem_flatMap.mpr ⟨choice, hchoice, Choice.linesWithin_of_resolve hresolved⟩

variable {τ : Type} [Translation τ] {w : Surroundings τ}

/-- Showing a line tells the session that a line was shown, and does no more to it or the stock. -/
theorem renderCurrent_keeps (hw : w.ViewWorks) (e : Engine) :
    (∃ shown, (renderCurrent w e).2.session = { e.session with shown }) ∧
      (renderCurrent w e).2.stock = e.stock := by
  rw [renderCurrent_eq hw]
  split
  · exact ⟨⟨e.session.shown, rfl⟩, rfl⟩
  · split
    · exact ⟨⟨e.session.shown, rfl⟩, rfl⟩
    · exact ⟨⟨true, rfl⟩, rfl⟩

theorem present_keeps (hw : w.ViewWorks) (e : Engine) :
    (∃ shown, (present w e).2.session = { e.session with shown }) ∧
      (present w e).2.stock = e.stock := by
  rw [present_eq hw]
  split
  · exact ⟨⟨e.session.shown, rfl⟩, rfl⟩
  · exact renderCurrent_keeps hw _

end Engine
end Parley
