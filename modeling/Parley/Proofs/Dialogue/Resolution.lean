import Mathlib.Data.List.Find
import Parley.Dialogue.Resolution

/-!
# Resolution on one inventory

All checks of a resolution are evaluated on one inventory, as long as fetches do not change their
mind: the snapshot that is known, what every fetch brings if none is known, or no inventory at all.
Resolution is then the choice of the first entry whose checks all pass there. It depends on nothing
but the results of these checks.
-/

namespace Parley

def Supply.FetchWorks (supply : Supply) : Prop := ∀ n, supply.fetch n = .stored

/-- The snapshot that a check sees while fetches work. -/
def Stock.known (s : Stock) : Snapshot := s.cache.getD s.service.stored

def Check.allPass (inventory : Option Snapshot) (checks : List Check) : Bool :=
  checks.all (Check.passes inventory)

def Document.resolveOn (inventory : Option Snapshot) (d : Document) : Resolution :=
  .ofFork d ((d.forks.getD []).find? fun f => Check.allPass inventory f.checks)

def Choice.resolveOn (inventory : Option Snapshot) (c : Choice) : Resolution :=
  .ofBranch c ((c.branches.getD []).find? fun b => Check.allPass inventory b.checks)

/-- Whoever asks the stock, now or later, gets this inventory. -/
def Stock.Offers (supply : Supply) (s : Stock) (inventory : Option Snapshot) : Prop :=
  match s.cache with
  | some snapshot => inventory = some snapshot
  | none => ∀ n, inventory = if supply.fetch n = .stored then some s.service.stored else none

variable {supply : Supply} {inventory : Option Snapshot} {s : Stock}

theorem Stock.offers_known (h : supply.FetchWorks) (s : Stock) : s.Offers supply (some s.known) := by
  obtain ⟨service, cache⟩ := s
  cases cache with
  | some snapshot => rfl
  | none => exact fun n => (if_pos (h n)).symm

theorem Stock.get_of_known {s : Stock} {inventory : Snapshot} (h : s.cache = some inventory)
    (supply : Supply) : s.get supply = (some inventory, s) := by
  simp [Stock.get, h]

theorem Stock.get_of_stored (h : s.cache = none)
    (hfetch : supply.fetch s.service.fetches = .stored) :
    s.get supply = (some s.service.stored,
      ⟨{ s.service with fetches := s.service.fetches + 1 }, some s.service.stored⟩) := by
  simp [get, h, hfetch]

theorem Stock.get_of_not_stored (h : s.cache = none)
    (hfetch : supply.fetch s.service.fetches ≠ .stored) :
    s.get supply = (none, ⟨{ s.service with fetches := s.service.fetches + 1 }, none⟩) := by
  unfold get
  rw [h]
  dsimp only
  cases houtcome : supply.fetch s.service.fetches with
  | stored => exact absurd houtcome hfetch
  | nothing => rfl
  | failure => rfl

theorem Stock.get_eq (h : s.Offers supply inventory) :
    (s.get supply).1 = inventory ∧ (s.get supply).2.Offers supply inventory := by
  obtain ⟨service, cache⟩ := s
  cases cache with
  | some snapshot => exact ⟨h.symm, h⟩
  | none =>
    have hfetched := h service.fetches
    unfold get
    dsimp only
    cases hfetch : supply.fetch service.fetches with
    | stored =>
      rw [if_pos hfetch] at hfetched
      exact ⟨hfetched.symm, hfetched⟩
    | nothing =>
      rw [if_neg (by rw [hfetch]; nofun)] at hfetched
      exact ⟨hfetched.symm, h⟩
    | failure =>
      rw [if_neg (by rw [hfetch]; nofun)] at hfetched
      exact ⟨hfetched.symm, h⟩

namespace Resolution

theorem passes_eq (h : s.Offers supply inventory) (checks : List Check) :
    (passes supply checks s).1 = Check.allPass inventory checks ∧
      (passes supply checks s).2.Offers supply inventory := by
  induction checks generalizing s with
  | nil => exact ⟨rfl, h⟩
  | cons c rest ih =>
    obtain ⟨hsees, hoffers⟩ := Stock.get_eq h
    simp only [passes, hsees]
    cases hc : c.passes inventory with
    | false => exact ⟨by simp [Check.allPass, hc], by simpa using hoffers⟩
    | true =>
      have hrest := ih hoffers
      exact ⟨by simpa [Check.allPass, hc] using hrest.1, hrest.2⟩

theorem firstPassing_eq {α : Type} (h : s.Offers supply inventory) (checks : α → List Check)
    (as : List α) :
    (firstPassing supply checks as s).1 =
        as.find? (fun a => Check.allPass inventory (checks a)) ∧
      (firstPassing supply checks as s).2.Offers supply inventory := by
  induction as generalizing s with
  | nil => exact ⟨rfl, h⟩
  | cons a rest ih =>
    obtain ⟨hpasses, hoffers⟩ := passes_eq h (checks a)
    unfold firstPassing
    cases hp : passes supply (checks a) s with
    | mk passed s' =>
      rw [hp] at hpasses hoffers
      dsimp only at hpasses hoffers
      cases passed with
      | true => exact ⟨by simp [List.find?, ← hpasses], hoffers⟩
      | false =>
        have hrest := ih hoffers
        exact ⟨by simpa [List.find?, ← hpasses] using hrest.1, hrest.2⟩

end Resolution

theorem Document.resolve_eq (h : s.Offers supply inventory) (d : Document) :
    (d.resolve supply s).1 = d.resolveOn inventory ∧
      (d.resolve supply s).2.Offers supply inventory := by
  obtain ⟨hfork, hoffers⟩ := Resolution.firstPassing_eq h Fork.checks (d.forks.getD [])
  exact ⟨congrArg (Resolution.ofFork d) hfork, hoffers⟩

theorem Choice.resolve_eq (h : s.Offers supply inventory) (c : Choice) :
    (c.resolve supply s).1 = c.resolveOn inventory ∧
      (c.resolve supply s).2.Offers supply inventory := by
  obtain ⟨hbranch, hoffers⟩ := Resolution.firstPassing_eq h Branch.checks (c.branches.getD [])
  exact ⟨congrArg (Resolution.ofBranch c) hbranch, hoffers⟩

variable {inventory' : Option Snapshot}

def Check.Agree (inventory inventory' : Option Snapshot) (checks : List Check) : Prop :=
  ∀ c ∈ checks, c.passes inventory = c.passes inventory'

theorem Check.allPass_congr {checks : List Check} (h : Check.Agree inventory inventory' checks) :
    Check.allPass inventory checks = Check.allPass inventory' checks := by
  rw [Bool.eq_iff_iff]
  simp only [allPass, List.all_eq_true]
  exact forall₂_congr fun c hc => by rw [h c hc]

theorem Check.find?_congr {α : Type} {checks : α → List Check} {as : List α}
    (h : Check.Agree inventory inventory' (as.flatMap checks)) :
    (as.find? fun a => Check.allPass inventory (checks a)) =
      as.find? fun a => Check.allPass inventory' (checks a) := by
  apply List.find?_congr
  intro a ha
  exact Check.allPass_congr fun c hc => h c (List.mem_flatMap.mpr ⟨a, ha, hc⟩)

theorem Document.resolveOn_congr {d : Document}
    (h : Check.Agree inventory inventory' ((d.forks.getD []).flatMap Fork.checks)) :
    d.resolveOn inventory = d.resolveOn inventory' :=
  congrArg (Resolution.ofFork d) (Check.find?_congr h)

theorem Choice.resolveOn_congr {c : Choice}
    (h : Check.Agree inventory inventory' ((c.branches.getD []).flatMap Branch.checks)) :
    c.resolveOn inventory = c.resolveOn inventory' :=
  congrArg (Resolution.ofBranch c) (Check.find?_congr h)

end Parley
