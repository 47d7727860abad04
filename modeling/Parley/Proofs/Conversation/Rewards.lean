import Parley.Proofs.Conversation.Coherence
import Parley.Proofs.Inventory.History

/-!
# No reward is given twice

If every gift of the documents is of an item that the player misses, then over all conversations,
whatever fails in them, an item is given at most once, and never if the player has it already. The
engine tells what is missing from the inventory that it knows, so this rests on that inventory
having the slots that are stored.
-/

namespace Parley.Engine

variable {τ : Type} [Translation τ]

/-- A deed among documents that give only what is missing keeps a ledger honest. -/
theorem honest_deed {service : Service} {w : Surroundings τ} (hw : w.Within Action.OnlyMissing)
    {d : Deed} (hnews : ¬ d.IsNews) {e : Engine} (hquiet : e.Quiet)
    (hwithin : e.session.Within Action.OnlyMissing) (h : e.ledger.Honest service) :
    (d.perform w e).Quiet ∧ (d.perform w e).session.Within Action.OnlyMissing ∧
      (d.perform w e).ledger.Honest service := by
  by_cases hd : d.IsEquip
  · obtain ⟨name, item, rfl⟩ := hd
    exact ⟨hquiet, ⟨hwithin.lines, hwithin.pending⟩, h.known, h.stored, h.counted, h.gives⟩
  · obtain ⟨hquiet', hwithin', hsteps⟩ := follows_deed hw hnews hd e hquiet hwithin
    exact ⟨hquiet', hwithin', hsteps.honest h⟩

theorem honest_afterDeeds {service : Service} {steps : List (Surroundings τ × Deed)}
    (hgifts : ∀ step ∈ steps, step.1.Within Action.OnlyMissing)
    (hnews : ∀ step ∈ steps, ¬ step.2.IsNews) {e : Engine} (hquiet : e.Quiet)
    (hwithin : e.session.Within Action.OnlyMissing) (h : e.ledger.Honest service) :
    (e.afterDeeds steps).ledger.Honest service := by
  induction steps generalizing e with
  | nil => exact h
  | cons step rest ih =>
    obtain ⟨hquiet', hwithin', hfirst⟩ := honest_deed (hgifts step List.mem_cons_self)
      (hnews step List.mem_cons_self) hquiet hwithin h
    exact ih (fun s hs => hgifts s (List.mem_cons_of_mem _ hs))
      (fun s hs => hnews s (List.mem_cons_of_mem _ hs)) hquiet' hwithin' hfirst

/-- Among documents that give only what is missing, the writes of a new engine, from the slots that
are stored at first to those that are stored at last, give no item twice and none that was there,
and what a slot holds it keeps. -/
theorem rewardedOnce_of_deeds {service : Service} {e : Engine} (hfresh : e.Fresh)
    (hstock : e.stock = .ofService service) (hevents : e.events = []) (hquiet : e.Quiet)
    (steps : List (Surroundings τ × Deed)) (hnews : ∀ step ∈ steps, ¬ step.2.IsNews)
    (hgifts : ∀ step ∈ steps, step.1.Within Action.OnlyMissing) :
    let history := service.stored.slots :: (e.afterDeeds steps).written
    RewardedOnce history ∧
      history.getLast? = some (e.afterDeeds steps).stock.service.stored.slots ∧
      (e.afterDeeds steps).stock.service.writes =
        service.writes + (e.afterDeeds steps).written.length := by
  have hledger : e.ledger = ⟨.ofService service, []⟩ := by
    rw [ledger, hstock, written, hevents]
    rfl
  have hwithin : e.session.Within Action.OnlyMissing := by
    rw [hfresh.session]
    exact Session.within_idle
  have hhonest := honest_afterDeeds hgifts hnews hquiet hwithin
    (hledger ▸ Ledger.honest_ofService service)
  exact ⟨rewardedOnce_of_isChain hhonest.gives, hhonest.stored, hhonest.counted⟩

def reward : Document where
  id := "gate"
  lines := some [.said "Well done." (some [⟨"more", "More!", .null, none,
    some [.giveItem "map" (some 3) true], none⟩])]
  forks := none
  actions := some [.giveItem "key" none true, .giveItem "key" none true, .giveItem "coin" none true]

/-- Four visits at the gate: of the first the inventory cannot be fetched, of the second its first
write is refused, and then nothing fails. -/
def errandsFor (supply : Supply) : List (World × Deed) :=
  [.start "gate" .null, .turn (.select "more"), .turn .advance].map fun c =>
    ({ World.plain reward with supply }, .call c)

def rewards : List (World × Deed) :=
  errandsFor (.constant .failure false) ++ errandsFor ⟨fun _ => .stored, fun n => n == 0⟩ ++
    errandsFor .working ++ errandsFor .working

theorem rewardedOnce_of_rewards :
    ((start (.ofItems [("coin", 1)] 3 [])).afterDeeds rewards).written =
        [[⟨.str "coin", 1⟩, ⟨.str "key", 1⟩, .vacant],
          [⟨.str "coin", 1⟩, ⟨.str "key", 1⟩, ⟨.str "map", 3⟩]] ∧
      RewardedOnce [[⟨.str "coin", 1⟩, .vacant, .vacant],
        [⟨.str "coin", 1⟩, ⟨.str "key", 1⟩, .vacant],
        [⟨.str "coin", 1⟩, ⟨.str "key", 1⟩, ⟨.str "map", 3⟩]] := by
  have hstep : ∀ step ∈ rewards, ¬ step.2.IsNews ∧
      ∃ supply, step.1 = { World.plain reward with supply } := by
    intro step hstep
    simp only [rewards, errandsFor, List.mem_append, List.mem_map, List.mem_cons, List.not_mem_nil,
      or_false, exists_eq_or_imp, exists_eq_left] at hstep
    rcases hstep with (((rfl | rfl | rfl) | rfl | rfl | rfl) | rfl | rfl | rfl) |
      rfl | rfl | rfl <;> exact ⟨by rintro ⟨_, ⟨⟩⟩, _, rfl⟩
  have hgifts : ∀ step ∈ rewards, step.1.Within Action.OnlyMissing := by
    intro step hs npcId d hd a ha
    obtain ⟨-, supply, hw⟩ := hstep step hs
    rw [hw] at hd
    cases hd
    simp only [reward, Document.actionsWithin, Line.allWithin, Choice.allWithin, Line.said,
      Line.actionsWithin, Choice.actionsWithin, Option.getD, List.mem_append, List.mem_cons,
      List.not_mem_nil, or_false, List.flatMap_nil] at ha
    rcases ha with (rfl | rfl | rfl) | rfl <;> exact ⟨by decide, rfl⟩
  exact ⟨rfl, (rewardedOnce_of_deeds (e := start (.ofItems [("coin", 1)] 3 []))
    (fresh_start _) rfl rfl (quiet_start _) rewards (fun step hs => (hstep step hs).1) hgifts).1⟩

end Parley.Engine
