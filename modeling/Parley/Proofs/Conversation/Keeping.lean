import Mathlib.Order.Defs.Unbundled
import Parley.Proofs.Conversation.Steps

/-!
# What plays keep

A relation that holds between the engine before and after every part of a play holds across the
whole play, whatever its outcome. So what an operation keeps follows from what its calls of the view and
its changes of the session keep.
-/

namespace Parley

namespace Play

variable {α β : Type} {R : Engine → Engine → Prop}

/-- What follows a step, whatever its outcome, leads to the state in the end. -/
theorem followedBy_snd (x : Play α) (after : Play Unit) (e : Engine) :
    (x.followedBy after e).2 = (after (x e).2).2 := by
  unfold followedBy
  cases x e with
  | mk outcome e' =>
    dsimp only
    cases after e' with
    | mk outcome' e'' => cases outcome' <;> rfl

/-- The state after the step is related to the state before it, whatever the outcome. -/
def Rel (R : Engine → Engine → Prop) (x : Play α) : Prop := ∀ e, R e (x e).2

namespace Rel

variable [IsPreorder Engine R]

theorem lift (r : Except Fault α) : Rel R (Play.lift r) := refl_of R

theorem get : Rel R Play.get := refl_of R

theorem pure (a : α) : Rel R (Pure.pure a : Play α) := refl_of R

/-- What follows a step keeps what its own parts keep, if it is reached at all. -/
theorem rest {x : Play α} {f : α → Play β} (hf : ∀ a, Rel R (f a)) (e : Engine) :
    R (x e).2 ((x >>= f) e).2 := by
  rw [bind_apply]
  split
  · rename_i a e' h
    rw [h]
    exact hf a e'
  · rename_i h
    rw [h]
    exact refl_of R _

theorem bind {x : Play α} {f : α → Play β} (hx : Rel R x) (hf : ∀ a, Rel R (f a)) :
    Rel R (x >>= f) := fun e => trans_of R (hx e) (rest hf e)

theorem followedBy {x : Play α} {after : Play Unit} (hx : Rel R x) (hafter : Rel R after) :
    Rel R (x.followedBy after) := by
  intro e
  have hboth := trans_of R (hx e) (hafter (x e).2)
  unfold Play.followedBy
  dsimp only
  split <;> rename_i h <;> rwa [h] at hboth

end Rel
end Play

namespace Play.Rel

variable {R : Engine → Engine → Prop} [IsPreorder Engine R] {τ : Type} {w : Surroundings τ}

theorem teardown (hexit : Rel R (Engine.call w .exit))
    (hcooldown : ∀ milliseconds, Rel R (Engine.call w (.cooldown milliseconds)))
    (hidle : Rel R (Play.modify fun e => { e with session := .idle })) :
    Rel R (Engine.teardown w) :=
  .bind hexit fun _ => .bind (hcooldown _) fun _ => hidle

theorem renderCurrent [Translation τ] (hcue : Rel R (Engine.call w .advanceCue))
    (hrender : ∀ l, Rel R (Engine.call w (.render l)))
    (hshown : Rel R (Play.modify fun e => { e with session := { e.session with shown := true } })) :
    Rel R (Engine.renderCurrent w) := by
  refine .bind .get fun e => ?_
  split
  · exact .pure _
  · refine .bind (.lift _) fun shown => ?_
    split
    · exact .bind hcue fun _ => .bind hshown fun _ => hrender _
    · exact .bind hshown fun _ => hrender _

theorem present [Translation τ] (henter : ∀ point, Rel R (Engine.call w (.enter point)))
    (hrender : Rel R (Engine.renderCurrent w)) : Rel R (Engine.present w) :=
  .bind .get fun _ =>
    .bind (.lift _) fun _ =>
      .bind (henter _) fun _ => hrender

/-- To go on is to show the next line, or to conclude after the last one. -/
theorem advance [Translation τ]
    (hnext : ∀ e : Engine, e.session.active = true → e.session.isLast = false → R e e.next)
    (hrender : Rel R (Engine.renderCurrent w)) (hteardown : Rel R (Engine.teardown w))
    (hconclude : ∀ e : Engine,
      R e (Engine.conclude (Engine.executeActions w.supply) w e.session.pending e).2) :
    Rel R (Engine.advance w) := by
  intro e
  by_cases hactive : e.session.active = true
  · by_cases hlines : e.session.lines = []
    · have hnone : Engine.advance w e = Engine.teardown w e := by
        simp [Engine.advance, Engine.advanceWith, Play.bind_apply, hactive, hlines]
      rw [hnone]
      exact hteardown e
    · cases hlast : e.session.isLast with
      | false =>
        rw [Engine.advance, Engine.advanceWith_of_not_isLast hactive hlines hlast]
        exact trans_of R (hnext e hactive hlast) (hrender _)
      | true =>
        rw [Engine.advance, Engine.advanceWith_of_isLast hactive hlines hlast]
        exact hconclude e
  · rw [Engine.advance, Engine.advanceWith_of_idle (by simpa using hactive)]
    exact refl_of R e

/-- To select is to take a choice that is offered, and to show what then stands there. -/
theorem select [Translation τ] {id : String}
    (hanswered : ∀ (e : Engine) (l : Line) (choice : Choice) (text : String),
      e.offered id = some (l, choice) → R e (e.answered w.supply l choice text))
    (hrender : Rel R (Engine.renderCurrent w)) : Rel R (Engine.select w id) := by
  intro e
  cases hoffered : e.offered id with
  | none =>
    rw [Engine.select_of_not_offered hoffered]
    exact refl_of R e
  | some p =>
    obtain ⟨l, choice⟩ := p
    rw [Engine.select_of_offered hoffered]
    split
    · exact refl_of R e
    · exact trans_of R (hanswered e l choice _ hoffered) (hrender _)

end Play.Rel
end Parley
