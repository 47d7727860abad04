import Parley.Proofs.Dialogue.ActionsWithin
import Parley.Proofs.Dialogue.ReadBack
import Parley.Inventory.Grant

/-!
# Actions that can be executed

A document that was loaded has finite amounts, whatever it was loaded from. Executing its actions
fails only where an inventory cannot be written.
-/

namespace Parley

theorem forall_mem_getD {α : Type} {P : α → Prop} {entries : Option (List α)}
    (h : ∀ as, entries = some as → ∀ a ∈ as, P a) : ∀ a ∈ entries.getD [], P a := by
  cases entries with
  | none => nofun
  | some as => exact h as rfl

mutual

theorem Line.Canonical.actionsWithin {l : Line} : l.Canonical → ∀ a ∈ l.actionsWithin, a.Canonical
  | .intro _ _ options, a, ha => by
    have hchoices := forall_mem_getD fun cs hcs c hc => (options cs hcs c hc).actionsWithin
    rw [l.actionsWithin_eq, Choice.allWithin_eq_flatMap] at ha
    obtain ⟨c, hc, ha⟩ := List.mem_flatMap.mp ha
    exact hchoices c hc a ha

theorem Choice.Canonical.actionsWithin {c : Choice} :
    c.Canonical → ∀ a ∈ c.actionsWithin, a.Canonical
  | .intro _ lines actions branches, a, ha => by
    have hlines := forall_mem_getD fun ls hls l hl => (lines ls hls l hl).actionsWithin
    have hbranches := forall_mem_getD fun bs hbs b hb => (branches bs hbs b hb).actionsWithin
    simp only [c.actionsWithin_eq, Line.allWithin_eq_flatMap, Branch.allWithin_eq_flatMap,
      List.mem_append, List.mem_flatMap] at ha
    rcases ha with (ha | ⟨l, hl, ha⟩) | ⟨b, hb, ha⟩
    · exact forall_mem_getD actions a ha
    · exact hlines l hl a ha
    · exact hbranches b hb a ha

theorem Branch.Canonical.actionsWithin {b : Branch} :
    b.Canonical → ∀ a ∈ b.actionsWithin, a.Canonical
  | .intro _ lines actions, a, ha => by
    have hlines := forall_mem_getD fun ls hls l hl => (lines ls hls l hl).actionsWithin
    simp only [b.actionsWithin_eq, Line.allWithin_eq_flatMap, List.mem_append,
      List.mem_flatMap] at ha
    rcases ha with ha | ⟨l, hl, ha⟩
    · exact forall_mem_getD actions a ha
    · exact hlines l hl a ha

end

theorem Document.Canonical.actionsWithin {d : Document} (h : d.Canonical) :
    ∀ a ∈ d.actionsWithin, a.Canonical := by
  intro a ha
  simp only [Document.actionsWithin, Fork.actionsWithin, Line.allWithin_eq_flatMap,
    List.mem_append, List.mem_flatMap] at ha
  rcases ha with (ha | ⟨l, hl, ha⟩) | ⟨f, hf, ha | ⟨l, hl, ha⟩⟩
  · exact forall_mem_getD h.actions a ha
  · exact (forall_mem_getD h.lines l hl).actionsWithin a ha
  · exact forall_mem_getD (forall_mem_getD h.forks f hf).actions a ha
  · exact ((forall_mem_getD h.forks f hf).lines l hl).actionsWithin a ha

def Document.IsLoaded (d : Document) : Prop :=
  ∃ v defaultId l, Document.load v defaultId = .ok l ∧ l.document = some d

theorem Document.IsLoaded.canonical {d : Document} (h : d.IsLoaded) : d.Canonical := by
  obtain ⟨v, defaultId, l, hload, hd⟩ := h
  exact Document.canonical_of_load hload hd

def Action.Grantable : Action → Prop
  | .giveItem _ amount _ => ∃ count, grantAmount amount = .ok count
  | .unknown .. => True

theorem Action.Canonical.grantable {a : Action} (h : a.Canonical) : a.Grantable := by
  cases a with
  | unknown type source => trivial
  | giveItem item amount ifMissing =>
    cases amount with
    | none => exact ⟨1, rfl⟩
    | some n =>
      have hfinite := h n rfl
      cases n with
      | int n =>
        exact ⟨max 1 n, by simp only [grantAmount, hfinite]; rfl⟩
      | double x =>
        cases x with
        | finite negative mantissa exponent => exact ⟨_, rfl⟩
        | infinite negative => cases hfinite
        | nan => cases hfinite

namespace GrantSite

variable {σ : Type} (site : GrantSite σ) {supply : Supply}

theorem give_ok (hwrites : ∀ n, supply.writeFails n = false) {item : String}
    {amount : Option Number} {ifMissing : Bool} (h : (Action.giveItem item amount ifMissing).Grantable)
    (s : σ) : ∃ given, (site.give supply item amount ifMissing s).1 = .ok given := by
  obtain ⟨count, hcount⟩ := h
  unfold give
  dsimp only
  split
  · exact ⟨false, rfl⟩
  · split
    · exact ⟨false, rfl⟩
    · split
      · exact ⟨false, rfl⟩
      · rw [hcount]
        dsimp only
        split
        · exact ⟨false, rfl⟩
        · simp only [Stock.write, hwrites, Bool.false_eq_true, if_false]
          exact ⟨true, rfl⟩

/-- Actions with amounts that can be given are executed without a fault, as long as inventories can
be written. -/
theorem execute_ok (hwrites : ∀ n, supply.writeFails n = false) {actions : List Action}
    (h : ∀ a ∈ actions, a.Grantable) (s : σ) : (site.execute supply actions s).1 = .ok () := by
  induction actions generalizing s with
  | nil => rfl
  | cons a rest ih =>
    have hrest := ih fun a ha => h a (List.mem_cons_of_mem _ ha)
    cases a with
    | unknown type source => exact hrest s
    | giveItem item amount ifMissing =>
      obtain ⟨given, hgiven⟩ := site.give_ok hwrites (h _ List.mem_cons_self) s
      unfold execute
      split
      · rename_i hfault
        rw [hfault] at hgiven
        cases hgiven
      · exact hrest _

end GrantSite
end Parley
