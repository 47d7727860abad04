import Parley.Proofs.Dialogue.Resolution

/-!
# What a resolution fetches

Every check that is evaluated looks at the stock, and a look fetches as long as no snapshot is
known. What a fetch brings is known from then on, so no fetch follows one that brings a snapshot; but
that a fetch brought nothing is not remembered, and the next look fetches again. So a resolution
fetches at most once, and sees one inventory, except where its first fetch brings nothing and it goes
on to other checks.
-/

namespace Parley

/-- Looks at a stock one after another, with the inventory that each of them sees. -/
inductive Stock.Looks (supply : Supply) : Stock → List (Option Snapshot) → Stock → Prop where
  | nil (s : Stock) : Looks supply s [] s
  | cons {s s' : Stock} {sights : List (Option Snapshot)}
      (rest : Looks supply (s.get supply).2 sights s') :
      Looks supply s ((s.get supply).1 :: sights) s'

namespace Stock

variable {supply : Supply} {s s' s'' : Stock} {sights sights' : List (Option Snapshot)}

theorem Looks.append (h : Looks supply s sights s') (h' : Looks supply s' sights' s'') :
    Looks supply s (sights ++ sights') s'' := by
  induction h with
  | nil s => exact h'
  | cons rest ih => exact .cons (ih h')

theorem Looks.of_known (h : Looks supply s sights s') {inventory : Snapshot}
    (hknown : s.cache = some inventory) :
    s' = s ∧ ∀ sight ∈ sights, sight = some inventory := by
  induction h with
  | nil s => exact ⟨rfl, nofun⟩
  | cons rest ih =>
    rw [get_of_known hknown] at ih ⊢
    obtain ⟨hkept, hsights⟩ := ih hknown
    exact ⟨hkept, List.forall_mem_cons.mpr ⟨rfl, hsights⟩⟩

/-- The first fetch that brings a snapshot is the last. Until then every look fetches and sees
nothing, and from then on every look sees that snapshot. -/
theorem Looks.of_unknown (h : Looks supply s sights s') (hunknown : s.cache = none) :
    (s'.service.fetches = s.service.fetches + sights.length ∧
        (∀ n < sights.length, supply.fetch (s.service.fetches + n) ≠ .stored) ∧
        ∀ sight ∈ sights, sight = none) ∨
      ∃ missed rest, sights = List.replicate missed none ++ some s.service.stored :: rest ∧
        s'.service.fetches = s.service.fetches + missed + 1 ∧
        (∀ n < missed, supply.fetch (s.service.fetches + n) ≠ .stored) ∧
        supply.fetch (s.service.fetches + missed) = .stored ∧
        ∀ sight ∈ rest, sight = some s.service.stored := by
  induction h with
  | nil s => exact .inl ⟨rfl, nofun, nofun⟩
  | @cons s s' sights rest ih =>
    by_cases hfetch : supply.fetch s.service.fetches = .stored
    · rw [get_of_stored hunknown hfetch] at rest ⊢
      obtain ⟨rfl, hsights⟩ := rest.of_known rfl
      exact .inr ⟨0, sights, rfl, rfl, nofun, hfetch, hsights⟩
    · rw [get_of_not_stored hunknown hfetch] at ih ⊢
      -- What the later looks fetch is counted from one more.
      have hshift (n : Nat) : s.service.fetches + 1 + n = s.service.fetches + (n + 1) := by omega
      have hmissed {m : Nat}
          (hlater : ∀ n < m, supply.fetch (s.service.fetches + 1 + n) ≠ .stored) :
          ∀ n < m + 1, supply.fetch (s.service.fetches + n) ≠ .stored := by
        intro n hn
        cases n with
        | zero => exact hfetch
        | succ n => exact hshift n ▸ hlater n (by omega)
      rcases ih rfl with ⟨hcount, hnone, hsights⟩ |
        ⟨missed, seen, rfl, hcount, hnone, hstored, hseen⟩
      · refine .inl ⟨?_, hmissed hnone, List.forall_mem_cons.mpr ⟨rfl, hsights⟩⟩
        rw [hcount, hshift, List.length_cons]
      · refine .inr ⟨missed + 1, seen, rfl, ?_, hmissed hnone, hshift missed ▸ hstored, hseen⟩
        rw [hcount, hshift]

/-- Looks fetch at most once exactly if a snapshot is known, if there is at most one of them, or if
the first fetch brings a snapshot. -/
theorem Looks.fetches_le_iff (h : Looks supply s sights s') :
    s'.service.fetches ≤ s.service.fetches + 1 ↔
      s.cache.isSome = true ∨ sights.length ≤ 1 ∨
        supply.fetch s.service.fetches = .stored := by
  cases hcache : s.cache with
  | some inventory =>
    obtain ⟨rfl, -⟩ := h.of_known hcache
    simp
  | none =>
    rcases h.of_unknown hcache with ⟨hcount, hnone, -⟩ |
      ⟨missed, rest, rfl, hcount, hnone, hstored, -⟩
    · have hfirst (hmore : 1 < sights.length) : supply.fetch s.service.fetches ≠ .stored :=
        hnone 0 (by omega)
      grind
    · cases missed with
      | zero =>
        rw [hcount, Nat.add_zero]
        exact iff_of_true le_rfl (.inr (.inr hstored))
      | succ missed =>
        have hfirst : supply.fetch s.service.fetches ≠ .stored := hnone 0 (by omega)
        simp [hcount, hfirst]
        omega

theorem Looks.fetches_eq_iff (h : Looks supply s sights s') :
    s'.service.fetches = s.service.fetches ↔ s.cache.isSome = true ∨ sights = [] := by
  cases hcache : s.cache with
  | some inventory =>
    obtain ⟨rfl, -⟩ := h.of_known hcache
    simp
  | none =>
    rcases h.of_unknown hcache with ⟨hcount, -, -⟩ | ⟨missed, rest, rfl, hcount, -, -, -⟩
    · simp [hcount]
    · simp [hcount, Nat.add_assoc]

/-- Looks see one inventory exactly if a snapshot is known, if the first fetch brings one, or if no
fetch does that is made. -/
theorem Looks.alike_iff (h : Looks supply s sights s') :
    (∃ inventory, ∀ sight ∈ sights, sight = inventory) ↔
      s.cache.isSome = true ∨ supply.fetch s.service.fetches = .stored ∨
        ∀ n < sights.length, supply.fetch (s.service.fetches + n) ≠ .stored := by
  cases hcache : s.cache with
  | some inventory =>
    obtain ⟨-, hsights⟩ := h.of_known hcache
    exact iff_of_true ⟨_, hsights⟩ (.inl rfl)
  | none =>
    rcases h.of_unknown hcache with ⟨-, hnone, hsights⟩ |
      ⟨missed, rest, rfl, -, hnone, hstored, hseen⟩
    · exact iff_of_true ⟨_, hsights⟩ (.inr (.inr hnone))
    · cases missed with
      | zero =>
        exact iff_of_true ⟨_, List.forall_mem_cons.mpr ⟨rfl, hseen⟩⟩ (.inr (.inl hstored))
      | succ missed =>
        refine iff_of_false ?_ ?_
        · rintro ⟨inventory, halike⟩
          have hfirst := halike none (by simp [List.replicate_succ])
          have hlater := halike (some s.service.stored) (by simp)
          cases hfirst.trans hlater.symm
        · rintro (hknown | hfirst | hmade)
          · cases hknown
          · exact hnone 0 (by omega) hfirst
          · exact hmade (missed + 1) (by simp) hstored

end Stock

namespace Resolution

variable {α : Type}

/-- The inventories on which checks are evaluated, one check after another up to the first that
fails. -/
def sights (supply : Supply) : List Check → Stock → List (Option Snapshot)
  | [], _ => []
  | c :: rest, s =>
    let (inventory, s) := s.get supply
    inventory :: if c.passes inventory then sights supply rest s else []

/-- The inventories on which the checks of entries are evaluated, one entry after another up to the
first whose checks all pass. -/
def sightsAmong (supply : Supply) (checks : α → List Check) : List α → Stock →
    List (Option Snapshot)
  | [], _ => []
  | a :: rest, s =>
    sights supply (checks a) s ++ match passes supply (checks a) s with
      | (true, _) => []
      | (false, s) => sightsAmong supply checks rest s

variable {supply : Supply}

theorem passes_cons (c : Check) (rest : List Check) (s : Stock) :
    passes supply (c :: rest) s =
      if c.passes (s.get supply).1 then passes supply rest (s.get supply).2
      else (false, (s.get supply).2) := rfl

theorem sights_cons (c : Check) (rest : List Check) (s : Stock) :
    sights supply (c :: rest) s =
      (s.get supply).1 :: if c.passes (s.get supply).1 then sights supply rest (s.get supply).2
        else [] := rfl

theorem looks_passes (supply : Supply) (checks : List Check) (s : Stock) :
    Stock.Looks supply s (sights supply checks s) (passes supply checks s).2 := by
  induction checks generalizing s with
  | nil => exact .nil s
  | cons c rest ih =>
    rw [sights_cons, passes_cons]
    refine .cons ?_
    cases c.passes (s.get supply).1 with
    | true => exact ih (s.get supply).2
    | false => exact .nil (s.get supply).2

theorem looks_firstPassing (supply : Supply) (checks : α → List Check) (as : List α) (s : Stock) :
    Stock.Looks supply s (sightsAmong supply checks as s)
      (firstPassing supply checks as s).2 := by
  induction as generalizing s with
  | nil => exact .nil s
  | cons a rest ih =>
    have hfirst := looks_passes supply (checks a) s
    unfold sightsAmong firstPassing
    cases hpasses : passes supply (checks a) s with
    | mk passed s' =>
      rw [hpasses] at hfirst
      cases passed with
      | true => exact hfirst.append (.nil s')
      | false => exact hfirst.append (ih s')

theorem passes_of_alike {checks : List Check} {s : Stock} {inventory : Option Snapshot}
    (h : ∀ sight ∈ sights supply checks s, sight = inventory) :
    (passes supply checks s).1 = Check.allPass inventory checks := by
  induction checks generalizing s with
  | nil => rfl
  | cons c rest ih =>
    rw [sights_cons] at h
    obtain ⟨hfirst, hrest⟩ := List.forall_mem_cons.mp h
    rw [hfirst] at hrest
    rw [passes_cons, hfirst]
    cases hc : c.passes inventory with
    | false => simp [Check.allPass, hc]
    | true =>
      rw [hc, if_pos rfl] at hrest
      simpa [Check.allPass, hc] using ih hrest

theorem firstPassing_of_alike {checks : α → List Check} {as : List α} {s : Stock}
    {inventory : Option Snapshot}
    (h : ∀ sight ∈ sightsAmong supply checks as s, sight = inventory) :
    (firstPassing supply checks as s).1 =
      as.find? fun a => Check.allPass inventory (checks a) := by
  induction as generalizing s with
  | nil => rfl
  | cons a rest ih =>
    obtain ⟨hfirst, hrest⟩ := List.forall_mem_append.mp h
    have hpassed := passes_of_alike hfirst
    unfold firstPassing
    cases hpasses : passes supply (checks a) s with
    | mk passed s' =>
      rw [hpasses] at hpassed hrest
      cases passed with
      | true => simp [List.find?, ← hpassed]
      | false => simpa [List.find?, ← hpassed] using ih hrest

theorem sightsAmong_eq_nil_iff {checks : α → List Check} {as : List α} {s : Stock} :
    sightsAmong supply checks as s = [] ↔ ∀ a, as.head? = some a → checks a = [] := by
  cases as with
  | nil => simp [sightsAmong]
  | cons a rest =>
    cases hchecks : checks a with
    | nil => simp [sightsAmong, hchecks, sights, passes]
    | cons c others => simp [sightsAmong, hchecks, sights]

/-- What was fetched and seen until the first entry whose checks all pass was found. -/
structure Survey (supply : Supply) (checks : α → List Check) (as : List α) (s : Stock)
    (found : Option α) (s' : Stock) : Prop where
  /-- At most one fetch. -/
  once : s'.service.fetches ≤ s.service.fetches + 1 ↔
    s.cache.isSome = true ∨ (sightsAmong supply checks as s).length ≤ 1 ∨
      supply.fetch s.service.fetches = .stored
  /-- No fetch: a snapshot is known, or no check is evaluated. -/
  never : s'.service.fetches = s.service.fetches ↔
    s.cache.isSome = true ∨ ∀ a, as.head? = some a → checks a = []
  /-- One inventory for all checks that are evaluated. -/
  alike : (∃ inventory, ∀ sight ∈ sightsAmong supply checks as s, sight = inventory) ↔
    s.cache.isSome = true ∨ supply.fetch s.service.fetches = .stored ∨
      ∀ n < (sightsAmong supply checks as s).length,
        supply.fetch (s.service.fetches + n) ≠ .stored
  /-- What is found on one inventory. -/
  found : ∀ inventory, (∀ sight ∈ sightsAmong supply checks as s, sight = inventory) →
    found = as.find? fun a => Check.allPass inventory (checks a)

theorem survey_firstPassing (supply : Supply) (checks : α → List Check) (as : List α) (s : Stock) :
    Survey supply checks as s (firstPassing supply checks as s).1
      (firstPassing supply checks as s).2 := by
  have hlooks := looks_firstPassing supply checks as s
  exact {
    once := hlooks.fetches_le_iff
    never := hlooks.fetches_eq_iff.trans (or_congr_right sightsAmong_eq_nil_iff)
    alike := hlooks.alike_iff
    found := fun _ h => firstPassing_of_alike h }

end Resolution

/-- To resolve a document or a choice fetches nothing if a snapshot is known or no check is
evaluated. Otherwise it fetches once, and all its checks are evaluated on one inventory, if the
first fetch brings a snapshot; if that brings nothing, each further check fetches again until one
does. -/
theorem fetches_of_resolve (supply : Supply) (s : Stock) (d : Document) (c : Choice) :
    (∃ fork, (d.resolve supply s).1 = .ofFork d fork ∧
      Resolution.Survey supply Fork.checks (d.forks.getD []) s fork (d.resolve supply s).2) ∧
    ∃ branch, (c.resolve supply s).1 = .ofBranch c branch ∧
      Resolution.Survey supply Branch.checks (c.branches.getD []) s branch
        (c.resolve supply s).2 :=
  ⟨⟨_, rfl, Resolution.survey_firstPassing supply Fork.checks (d.forks.getD []) s⟩,
    ⟨_, rfl, Resolution.survey_firstPassing supply Branch.checks (c.branches.getD []) s⟩⟩

/-- An answer for those who come with neither a pass nor a key. -/
def emptyHanded : Choice where
  id := "o"
  text := "Empty hands."
  textKey := .null
  lines := none
  actions := none
  branches := some [⟨[.hasItem "pass" true, .hasItem "key" true], some [], none⟩]

/-- Where the inventory cannot be fetched, it is asked for at each check. -/
theorem not_fetched_once_emptyHanded :
    ¬ ∀ (supply : Supply) (s : Stock) (c : Choice),
      (c.resolve supply s).2.service.fetches ≤ s.service.fetches + 1 := by
  intro h
  have hsilent := h (.constant .nothing false) (.ofService (.ofItems [] 1 [])) emptyHanded
  exact absurd hsilent (by decide)

end Parley
