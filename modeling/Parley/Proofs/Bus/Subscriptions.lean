import Mathlib.Data.List.Count
import Mathlib.Data.List.Perm.Basic
import Parley.Proofs.Bus.Rehearsal

/-!
# Registrations and subscriptions

A bus knows handlers and not who subscribed them. So a subscription that is cancelled takes away the
first registration of its handler, which need not be its own. As many registrations of a handler
stand as subscriptions of it are active, but they stand in the places of those that were made last. A
publication calls the handlers of the active subscriptions in the order in which these were made
as long as every subscription is cancelled in its turn.
-/

namespace Parley

section

variable {α : Type} [BEq α] [LawfulBEq α]

/-- Of the entries that are equal to each other the last ones, as many as `n` tells. -/
def lastOf (n : α → Nat) : List α → List α
  | [] => []
  | a :: rest => if rest.count a < n a then a :: lastOf n rest else lastOf n rest

variable {n n' : α → Nat} {a : α}

theorem lastOf_congr {as : List α}
    (h : ∀ b, min (n b) (as.count b) = min (n' b) (as.count b)) : lastOf n as = lastOf n' as := by
  induction as with
  | nil => rfl
  | cons c rest ih =>
    have hrest : lastOf n rest = lastOf n' rest := by
      refine ih fun b => ?_
      have hb := h b
      rw [List.count_cons] at hb
      split at hb <;> omega
    have hc := h c
    rw [List.count_cons_self] at hc
    have hiff : rest.count c < n c ↔ rest.count c < n' c := by omega
    simp only [lastOf, hiff, hrest]

theorem lastOf_concat (h : ∀ b, n' b = n b + [a].count b) (as : List α) :
    lastOf n' (as ++ [a]) = lastOf n as ++ [a] := by
  induction as with
  | nil => simp [lastOf, h a]
  | cons c rest ih =>
    have hiff : (rest ++ [a]).count c < n' c ↔ rest.count c < n c := by
      rw [List.count_append, h c]
      omega
    simp only [List.cons_append, lastOf, hiff, ih]
    split <;> rfl

/-- With one less of a kind, the first one of the kind is left out. -/
theorem lastOf_erase (h : ∀ b, n b = n' b + [a].count b) {as : List α} (hle : n a ≤ as.count a) :
    lastOf n' as = (lastOf n as).erase a := by
  have ha : n a = n' a + 1 := by rw [h a, List.count_singleton_self]
  induction as with
  | nil =>
    rw [List.count_nil] at hle
    omega
  | cons c rest ih =>
    by_cases hc : c = a
    · subst hc
      rw [List.count_cons_self] at hle
      have hout : ¬rest.count c < n' c := by omega
      rw [lastOf, if_neg hout, lastOf]
      split
      · rw [List.erase_cons_head]
        refine lastOf_congr fun b => ?_
        by_cases hb : b = c
        · subst hb
          omega
        · rw [h b, List.count_singleton, if_neg (by simpa using Ne.symm hb), Nat.add_zero]
      · exact ih (by omega)
    · rw [List.count_cons_of_ne hc] at hle
      have hsame : n c = n' c := by
        rw [h c, List.count_singleton, if_neg (by simpa using Ne.symm hc), Nat.add_zero]
      rw [lastOf, lastOf, hsame, ih hle]
      split
      · rw [List.erase_cons_tail (by simpa using hc)]
      · rfl

theorem count_lastOf (n : α → Nat) (as : List α) (b : α) :
    (lastOf n as).count b = min (n b) (as.count b) := by
  induction as with
  | nil => simp [lastOf]
  | cons c rest ih =>
    rw [lastOf]
    split
    · rename_i hlt
      rw [List.count_cons, List.count_cons, ih]
      by_cases hc : c = b
      · subst hc
        simp only [beq_self_eq_true, if_true]
        omega
      · simp [hc]
    · rename_i hge
      rw [ih, List.count_cons]
      by_cases hc : c = b
      · subst hc
        simp only [beq_self_eq_true, if_true]
        omega
      · simp [hc]

/-- Taking the first entry of a kind away takes a given one away, if from the first one on there
are no others before it. -/
theorem erase_middle_iff (as bs : List α) :
    (as ++ a :: bs).erase a = as ++ bs ↔ ∀ b ∈ as.dropWhile (· != a), b = a := by
  have hmove (as : List α) : as ++ a :: bs = a :: (as ++ bs) ↔ ∀ b ∈ as, b = a := by
    induction as with
    | nil => simp
    | cons c as ih =>
      rw [List.cons_append, List.cons_append, List.cons_eq_cons, List.forall_mem_cons]
      refine and_congr_right ?_
      rintro rfl
      exact ih
  induction as with
  | nil => simp
  | cons c as ih =>
    by_cases hc : c = a
    · subst hc
      rw [List.cons_append, List.erase_cons_head, List.cons_append, hmove,
        List.dropWhile_cons_of_neg (by simp), List.forall_mem_cons]
      simp
    · rw [List.cons_append, List.erase_cons_tail (by simpa using hc), List.cons_append,
        List.cons_inj_right, List.dropWhile_cons_of_pos (by simpa using hc)]
      exact ih

end

theorem Bus.handlers_unsubscribe {τ η : Type} [DecidableEq τ] [DecidableEq η] (b : Bus τ η)
    (topic topic' : τ) (h : η) : (b.unsubscribe topic h).handlers topic' =
      if topic = topic' then (b.handlers topic').erase h else b.handlers topic' := by
  obtain ⟨registrations⟩ := b
  unfold unsubscribe handlers
  dsimp only
  induction registrations with
  | nil => simp
  | cons r rest ih =>
    by_cases hr : r = (topic, h)
    · subst hr
      rw [List.erase_cons_head]
      split
      · rename_i ht
        subst ht
        simp
      · rename_i ht
        simp [ht]
    · rw [List.erase_cons_tail (by simpa using hr)]
      by_cases hr' : r.1 = topic'
      · rw [List.filter_cons_of_pos (by simpa using hr'), List.map_cons, ih,
          List.filter_cons_of_pos (by simpa using hr'), List.map_cons]
        split
        · rename_i ht
          have hne : r.2 ≠ h := fun h₂ => hr (Prod.ext (hr'.trans ht.symm) h₂)
          rw [List.erase_cons_tail (by simpa using hne)]
        · rfl
      · rw [List.filter_cons_of_neg (by simpa using hr'), ih,
          List.filter_cons_of_neg (by simpa using hr')]

namespace Subscription

def entry (s : Subscription) : Topic × Handler := (s.topic, s.handler)

def cancelled (s : Subscription) : Subscription := { s with active := false }

/-- What the active ones of some subscriptions have registered, in order. -/
def activeEntries (made : List (String × Subscription)) : List (Topic × Handler) :=
  ((made.map Prod.snd).filter active).map entry

/-- The handlers of the active subscriptions to a topic, in order. -/
def activeOn (topic : Topic) (made : List (String × Subscription)) : List Handler :=
  ((made.map Prod.snd).filter fun s => s.active && s.topic == topic).map handler

/-- A bus with the last registrations of each handler for each topic, as many as there are active
subscriptions of it. -/
def standing (made : List (String × Subscription)) : Bus Topic Handler :=
  ⟨lastOf ((activeEntries made).count ·) (made.map fun p => p.2.entry)⟩

/-- The subscription that was made last under a name. -/
def latest (name : String) : List (String × Subscription) → Option Subscription
  | [] => none
  | (n, s) :: rest => latest name rest <|> if n = name then some s else none

/-- Cancels the subscription that was made last under a name. -/
def cancelLatest (name : String) : List (String × Subscription) → List (String × Subscription)
  | [] => []
  | (n, s) :: rest =>
    if n = name ∧ latest name rest = none then (n, s.cancelled) :: rest
    else (n, s) :: cancelLatest name rest

/-- A subscription is cancelled in its turn if its topic has no other handler from the first
active subscription of its own handler on up to it. -/
def InTurn (name : String) (made : List (String × Subscription)) : Prop :=
  ∀ before s rest, made = before ++ (name, s) :: rest → latest name rest = none →
    s.active = true → ∀ h ∈ (activeOn s.topic before).dropWhile (· != s.handler), h = s.handler

variable {name name' : String} {made before rest : List (String × Subscription)} {s : Subscription}

theorem handlers_activeEntries (topic : Topic) (made : List (String × Subscription)) :
    Bus.handlers ⟨activeEntries made⟩ topic = activeOn topic made := by
  unfold Bus.handlers activeEntries activeOn
  dsimp only
  rw [List.filter_map, List.filter_filter, List.map_map]
  refine congrArg _ (List.filter_congr fun s _ => ?_)
  simp [entry, Bool.and_comm]

theorem activeOn_append (topic : Topic) (made made' : List (String × Subscription)) :
    activeOn topic (made ++ made') = activeOn topic made ++ activeOn topic made' := by
  simp [activeOn]

theorem count_activeEntries_le (made : List (String × Subscription)) (k : Topic × Handler) :
    (activeEntries made).count k ≤ (made.map fun p => p.2.entry).count k := by
  have hsub : (activeEntries made).Sublist ((made.map Prod.snd).map entry) :=
    List.Sublist.map entry List.filter_sublist
  rw [List.map_map] at hsub
  exact hsub.count_le k

theorem standing_perm (made : List (String × Subscription)) :
    (standing made).registrations.Perm (activeEntries made) := by
  rw [List.perm_iff_count]
  intro k
  exact (count_lastOf _ _ k).trans (Nat.min_eq_left (count_activeEntries_le made k))

theorem latest_concat : latest name (made ++ [(name', s)]) =
    if name' = name then some s else latest name made := by
  induction made with
  | nil => simp [latest]
  | cons p rest ih =>
    obtain ⟨n, t⟩ := p
    rw [List.cons_append, latest, ih, latest]
    split <;> rfl

/-- The subscription made last under a name, and those made before and after it. -/
theorem exists_of_latest (h : latest name made = some s) :
    ∃ before rest, made = before ++ (name, s) :: rest ∧ latest name rest = none := by
  induction made with
  | nil => cases h
  | cons p made ih =>
    obtain ⟨n, t⟩ := p
    rw [latest] at h
    cases hrest : latest name made with
    | some t' =>
      rw [hrest] at h
      obtain ⟨before, rest, hmade, hnone⟩ := ih (hrest.trans h)
      exact ⟨(n, t) :: before, rest, by rw [hmade, List.cons_append], hnone⟩
    | none =>
      rw [hrest] at h
      change (if n = name then some t else none) = some s at h
      split at h
      · rename_i hn
        cases h
        exact ⟨[], made, by rw [hn, List.nil_append], hrest⟩
      · cases h

theorem latest_middle (h : latest name rest = none) :
    latest name (before ++ (name, s) :: rest) = some s := by
  induction before with
  | nil => simp [latest, h]
  | cons p before ih =>
    obtain ⟨n, t⟩ := p
    rw [List.cons_append, latest, ih]
    rfl

theorem latest_middle_of_ne (h : name' ≠ name) (t : Subscription) :
    latest name (before ++ (name', t) :: rest) = latest name (before ++ rest) := by
  induction before with
  | nil => simp [latest, h]
  | cons p before ih =>
    obtain ⟨n, t⟩ := p
    rw [List.cons_append, latest, ih, List.cons_append, latest]

theorem cancelLatest_of_none (h : latest name made = none) : cancelLatest name made = made := by
  induction made with
  | nil => rfl
  | cons p rest ih =>
    obtain ⟨n, t⟩ := p
    cases hrest : latest name rest with
    | some t' =>
      rw [latest, hrest] at h
      cases h
    | none =>
      have hne : n ≠ name := fun hn => by simp [latest, hrest, hn] at h
      rw [cancelLatest, if_neg (fun h => hne h.1), ih hrest]

theorem cancelLatest_middle (h : latest name rest = none) :
    cancelLatest name (before ++ (name, s) :: rest) = before ++ (name, s.cancelled) :: rest := by
  induction before with
  | nil => simp [cancelLatest, h]
  | cons p before ih =>
    obtain ⟨n, t⟩ := p
    rw [List.cons_append, cancelLatest, latest_middle h, if_neg (fun h => nomatch h.2), ih,
      List.cons_append]

theorem latest_cancelLatest (h : latest name made = some s) :
    latest name' (cancelLatest name made) =
      if name = name' then some s.cancelled else latest name' made := by
  obtain ⟨before, rest, rfl, hrest⟩ := exists_of_latest h
  rw [cancelLatest_middle hrest]
  split
  · rename_i hn
    subst hn
    exact latest_middle hrest
  · rename_i hn
    rw [latest_middle_of_ne hn, latest_middle_of_ne hn]

theorem cancelLatest_of_inactive (h : latest name made = some s) (hs : s.active = false) :
    cancelLatest name made = made := by
  obtain ⟨before, rest, rfl, hrest⟩ := exists_of_latest h
  have hsame : s.cancelled = s := by rw [cancelled, ← hs]
  rw [cancelLatest_middle hrest, hsame]

theorem activeEntries_middle (hs : s.active = true) :
    activeEntries (before ++ (name, s) :: rest) =
      activeEntries before ++ s.entry :: activeEntries rest := by
  simp [activeEntries, hs]

theorem activeEntries_middle_cancelled :
    activeEntries (before ++ (name, s.cancelled) :: rest) =
      activeEntries before ++ activeEntries rest := by
  simp [activeEntries, cancelled]

theorem activeOn_middle (hs : s.active = true) :
    activeOn s.topic (before ++ (name, s) :: rest) =
      activeOn s.topic before ++ s.handler :: activeOn s.topic rest := by
  simp [activeOn, hs]

theorem activeOn_middle_of_ne {topic : Topic} (h : s.topic ≠ topic) :
    activeOn topic (before ++ (name, s) :: rest) =
      activeOn topic before ++ activeOn topic rest := by
  simp [activeOn, h]

theorem activeOn_middle_cancelled (topic : Topic) :
    activeOn topic (before ++ (name, s.cancelled) :: rest) =
      activeOn topic before ++ activeOn topic rest := by
  simp [activeOn, cancelled]

/-- With one more subscription, its handler stands after all others. -/
theorem standing_concat (made : List (String × Subscription)) (hs : s.active = true) :
    standing (made ++ [(name, s)]) = (standing made).subscribe s.topic s.handler := by
  have hcount : ∀ b, (activeEntries (made ++ [(name, s)])).count b =
      (activeEntries made).count b + [s.entry].count b := by
    intro b
    rw [activeEntries_middle hs, List.count_append]
    rfl
  have hlast := lastOf_concat hcount (made.map fun p => p.2.entry)
  rw [standing, List.map_append]
  exact congrArg Bus.mk hlast

/-- With one less active subscription, the first registration of its handler stands no more. -/
theorem standing_cancelLatest (h : latest name made = some s) (hs : s.active = true) :
    standing (cancelLatest name made) = (standing made).unsubscribe s.topic s.handler := by
  obtain ⟨before, rest, rfl, hrest⟩ := exists_of_latest h
  have hcount : ∀ b, (activeEntries (before ++ (name, s) :: rest)).count b =
      (activeEntries (before ++ (name, s.cancelled) :: rest)).count b + [s.entry].count b := by
    intro b
    rw [activeEntries_middle hs, activeEntries_middle_cancelled, List.count_append,
      List.count_append, List.count_cons, List.count_cons, List.count_nil]
    omega
  have hentries : (before ++ (name, s.cancelled) :: rest).map (fun p => p.2.entry) =
      (before ++ (name, s) :: rest).map fun p => p.2.entry := by
    rw [List.map_append, List.map_append]
    rfl
  have hlast := lastOf_erase hcount (count_activeEntries_le (before ++ (name, s) :: rest) s.entry)
  rw [cancelLatest_middle hrest, standing, hentries]
  exact congrArg Bus.mk hlast

/-- As many registrations for a topic stand as it has active subscriptions, of the same handlers. -/
theorem handlers_standing_perm (topic : Topic) (made : List (String × Subscription)) :
    ((standing made).handlers topic).Perm (activeOn topic made) := by
  rw [← handlers_activeEntries]
  exact ((standing_perm made).filter _).map _

end Subscription

namespace Rehearsal

open Bus Subscription

/-- What is done to a rehearsal between publications. -/
inductive Arrangement where
  | defines (name : String) (behaviour : Behaviour)
  | subscribes (topic : Topic) (handler subscription : String)
  | cancels (subscription : String)
deriving DecidableEq

/-- A rehearsal and the subscriptions that were made in it, in order. -/
structure Register where
  rehearsal : Rehearsal
  made : List (String × Subscription)
deriving Repr

/-- The handlers that a publication itself calls, in order. -/
def called (r : Rehearsal) (cue : Cue) : List Handler :=
  directCalls (stagePublish Cue.topic Handler.script nestingLimit cue r.stage).log

namespace Register

def empty : Register := ⟨Rehearsal.empty, []⟩

def after (g : Register) : Arrangement → Register
  | .defines name behaviour => { g with rehearsal := g.rehearsal.define name behaviour }
  | .subscribes topic handler subscription =>
    ⟨(g.rehearsal.subscribe topic handler subscription).2, match g.rehearsal.handler? handler with
      | .ok h => g.made ++ [(subscription, ⟨topic, h, true⟩)]
      | .error _ => g.made⟩
  | .cancels subscription =>
    ⟨(g.rehearsal.cancel subscription).2, cancelLatest subscription g.made⟩

def run (g : Register) (steps : List Arrangement) : Register := steps.foldl after g

/-- The names stand for the subscriptions that were made last under them, and the registrations are
the last ones of the active subscriptions. -/
structure Kept (g : Register) : Prop where
  names : ∀ name, g.rehearsal.subscriptions.lookup name = latest name g.made
  standing : g.rehearsal.bus = Subscription.standing g.made

/-- Each topic has the handlers of its active subscriptions, in the order in which these were
made. -/
def Follows (g : Register) : Prop :=
  ∀ topic, g.rehearsal.bus.handlers topic = activeOn topic g.made

end Register

theorem called_eq (r : Rehearsal) (cue : Cue) : r.called cue = r.bus.handlers cue.topic := by
  obtain ⟨log, hlog, hunfolds⟩ :=
    goes_stagePublish Cue.topic Handler.script nestingLimit cue r.stage
  have hstage : r.stage.log = [] := rfl
  rw [hstage, List.nil_append] at hlog
  rw [called, hlog]
  exact hunfolds.directCalls_eq

theorem lookup_cons_eq_ite (name name' : String) (s : Subscription)
    (subs : List (String × Subscription)) :
    ((name, s) :: subs).lookup name' = if name = name' then some s else subs.lookup name' := by
  by_cases h : name = name'
  · subst h
    rw [if_pos rfl, List.lookup_cons_self]
  · have hne : (name' == name) = false := by simpa using Ne.symm h
    rw [if_neg h, List.lookup_cons, hne]

theorem lookup_keep (subs : List (String × Subscription)) (name name' : String)
    (s : Subscription) :
    (keep subs name s).lookup name' = if name = name' then some s else subs.lookup name' := by
  induction subs with
  | nil => exact lookup_cons_eq_ite name name' s []
  | cons p rest ih =>
    obtain ⟨n, t⟩ := p
    rw [keep]
    by_cases hn : n = name
    · subst hn
      rw [if_pos (beq_self_eq_true n), lookup_cons_eq_ite, lookup_cons_eq_ite]
      split <;> rfl
    · rw [if_neg (by simpa using hn), lookup_cons_eq_ite, ih, lookup_cons_eq_ite]
      by_cases hname : name = name'
      · rw [← hname, if_neg hn, if_pos rfl, if_pos rfl]
      · rw [if_neg hname, if_neg hname]

namespace Register

variable {g : Register}

theorem kept_empty : empty.Kept := ⟨fun _ => rfl, rfl⟩

theorem Kept.define (h : g.Kept) (name : String) (behaviour : Behaviour) :
    (g.after (.defines name behaviour)).Kept :=
  ⟨h.names, h.standing⟩

theorem Kept.subscribe (h : g.Kept) (topic : Topic) (handler subscription : String) :
    (g.after (.subscribes topic handler subscription)).Kept := by
  rw [after, Rehearsal.subscribe]
  cases g.rehearsal.handler? handler with
  | error f => exact h
  | ok c =>
    refine ⟨fun name => ?_, ?_⟩
    · rw [latest_concat, ← h.names]
      exact lookup_keep _ _ _ _
    · rw [standing_concat g.made rfl, ← h.standing]

theorem Kept.cancel (h : g.Kept) (subscription : String) :
    (g.after (.cancels subscription)).Kept := by
  rw [after, Rehearsal.cancel, h.names]
  cases hs : latest subscription g.made with
  | none =>
    rw [cancelLatest_of_none hs]
    exact h
  | some s =>
    dsimp only
    split
    · rename_i hactive
      refine ⟨fun name => ?_, ?_⟩
      · refine (lookup_keep _ _ _ _).trans ?_
        rw [h.names, latest_cancelLatest hs]
        rfl
      · rw [standing_cancelLatest hs hactive, ← h.standing]
    · rename_i hinactive
      rw [cancelLatest_of_inactive hs (by simpa using hinactive)]
      exact h

theorem Kept.after (h : g.Kept) (step : Arrangement) : (g.after step).Kept := by
  cases step with
  | defines name behaviour => exact h.define name behaviour
  | subscribes topic handler subscription => exact h.subscribe topic handler subscription
  | cancels subscription => exact h.cancel subscription

theorem Kept.run (h : g.Kept) (steps : List Arrangement) : (g.run steps).Kept := by
  induction steps generalizing g with
  | nil => exact h
  | cons step steps ih => exact ih (h.after step)

theorem Follows.define (h : g.Follows) (name : String) (behaviour : Behaviour) :
    (g.after (.defines name behaviour)).Follows := h

theorem Follows.subscribe (h : g.Follows) (topic : Topic) (handler subscription : String) :
    (g.after (.subscribes topic handler subscription)).Follows := by
  rw [after, Rehearsal.subscribe]
  cases g.rehearsal.handler? handler with
  | error f => exact h
  | ok c =>
    intro topic'
    refine (handlers_subscribe _ _ _ _).trans ?_
    rw [h topic', activeOn_append]
    refine congrArg _ ?_
    by_cases ht : topic = topic'
    · subst ht
      simp [activeOn]
    · simp [activeOn, ht]

/-- A subscription that is cancelled takes its own registration away exactly if none of its topic's
other handlers come between. -/
theorem follows_cancel_middle_iff {name : String} {s : Subscription}
    {before rest : List (String × Subscription)} (hkept : g.Kept) (h : g.Follows)
    (hmade : g.made = before ++ (name, s) :: rest) (hrest : latest name rest = none)
    (hactive : s.active = true) : (g.after (.cancels name)).Follows ↔
      ∀ c ∈ (activeOn s.topic before).dropWhile (· != s.handler), c = s.handler := by
  have hlatest : latest name g.made = some s := by rw [hmade, latest_middle hrest]
  have hhandlers : ∀ topic, (g.after (.cancels name)).rehearsal.bus.handlers topic =
      if s.topic = topic then (activeOn topic g.made).erase s.handler
      else activeOn topic g.made := by
    intro topic
    rw [← h topic, ← handlers_unsubscribe, (hkept.cancel name).standing, Register.after,
      standing_cancelLatest hlatest hactive, ← hkept.standing]
  have hleft : ∀ topic, activeOn topic (g.after (.cancels name)).made =
      activeOn topic before ++ activeOn topic rest := by
    intro topic
    rw [Register.after, hmade, cancelLatest_middle hrest, activeOn_middle_cancelled]
  have hown := hhandlers s.topic
  rw [if_pos rfl, hmade, activeOn_middle hactive] at hown
  rw [← erase_middle_iff, ← hown, ← hleft]
  refine ⟨fun hfollows => hfollows s.topic, fun htopic topic => ?_⟩
  by_cases ht : s.topic = topic
  · rw [← ht]
    exact htopic
  · rw [hhandlers, if_neg ht, hmade, activeOn_middle_of_ne ht, hleft]

theorem follows_cancel_iff (hkept : g.Kept) (h : g.Follows) (name : String) :
    (g.after (.cancels name)).Follows ↔ InTurn name g.made := by
  constructor
  · intro hfollows before s rest hmade hrest hactive
    exact (follows_cancel_middle_iff hkept h hmade hrest hactive).mp hfollows
  · intro hturn
    cases hs : latest name g.made with
    | none =>
      have hsame : g.after (.cancels name) = g := by
        rw [Register.after, cancel, hkept.names, hs, cancelLatest_of_none hs]
      rw [hsame]
      exact h
    | some s =>
      cases hactive : s.active with
      | false =>
        have hsame : g.after (.cancels name) = g := by
          rw [Register.after, cancel, hkept.names, hs, cancelLatest_of_inactive hs hactive]
          dsimp only
          rw [if_neg (by simp [hactive])]
        rw [hsame]
        exact h
      | true =>
        obtain ⟨before, rest, hmade, hrest⟩ := exists_of_latest hs
        exact (follows_cancel_middle_iff hkept h hmade hrest hactive).mpr
          (hturn before s rest hmade hrest hactive)

theorem follows_after_iff (hkept : g.Kept) (h : g.Follows) (step : Arrangement) :
    (g.after step).Follows ↔ ∀ name, step = .cancels name → InTurn name g.made := by
  cases step with
  | defines name behaviour =>
    exact iff_of_true (h.define name behaviour) fun _ he => nomatch he
  | subscribes topic handler subscription =>
    exact iff_of_true (h.subscribe topic handler subscription) fun _ he => nomatch he
  | cancels name =>
    rw [follows_cancel_iff hkept h]
    refine ⟨fun hturn _ he => ?_, fun hturn => hturn name rfl⟩
    cases he
    exact hturn

/-- The handlers are in order all the time exactly if every subscription is cancelled in its
turn. -/
theorem follows_run_iff (hkept : g.Kept) (h : g.Follows) (steps : List Arrangement) :
    (∀ before, before <+: steps → (g.run before).Follows) ↔
      ∀ before name, before ++ [.cancels name] <+: steps →
        InTurn name (g.run before).made := by
  induction steps generalizing g with
  | nil =>
    refine iff_of_true (fun before hb => ?_) fun before name hb => ?_
    · rw [List.prefix_nil.mp hb]
      exact h
    · simp at hb
  | cons step steps ih =>
    have hstep := follows_after_iff hkept h step
    constructor
    · intro hfollows before name hb
      have hafter : (g.after step).Follows := hfollows [step] (by simp)
      cases before with
      | nil => exact hstep.mp hafter name (List.cons_prefix_cons.mp hb).1.symm
      | cons first before =>
        obtain ⟨rfl, htail⟩ := List.cons_prefix_cons.mp hb
        refine (ih (hkept.after first) hafter).mp (fun b hprefix => ?_) before name htail
        exact hfollows (first :: b) (List.cons_prefix_cons.mpr ⟨rfl, hprefix⟩)
    · intro hturn before hb
      have hafter : (g.after step).Follows := by
        refine hstep.mpr fun name hname => hturn [] name ?_
        rw [hname]
        simp
      cases before with
      | nil => exact h
      | cons first before =>
        obtain ⟨rfl, htail⟩ := List.cons_prefix_cons.mp hb
        refine (ih (hkept.after first) hafter).mpr (fun b name hprefix => ?_) before htail
        exact hturn (first :: b) name (List.cons_prefix_cons.mpr ⟨rfl, hprefix⟩)

end Register

/-- After every run of subscriptions and cancellations, a publication calls the last registrations
of each handler for the event's topic, as many as its active subscriptions. These are the handlers
of the active subscriptions, and their number is the topic's listener count. They are called in the
order in which the subscriptions were made, all along the run, exactly if every subscription that
was cancelled was cancelled in its turn. -/
theorem called_of_arrangements (steps : List Arrangement) :
    (∀ cue, (Register.empty.run steps).rehearsal.called cue =
      (standing (Register.empty.run steps).made).handlers cue.topic) ∧
    (∀ topic,
      ((Register.empty.run steps).rehearsal.bus.handlers topic).Perm
        (activeOn topic (Register.empty.run steps).made) ∧
      (Register.empty.run steps).rehearsal.bus.listenerCount topic =
        (activeOn topic (Register.empty.run steps).made).length) ∧
    ((∀ before, before <+: steps → ∀ cue, (Register.empty.run before).rehearsal.called cue =
        activeOn cue.topic (Register.empty.run before).made) ↔
      ∀ before name, before ++ [.cancels name] <+: steps →
        InTurn name (Register.empty.run before).made) := by
  have hkept := Register.kept_empty.run steps
  refine ⟨fun cue => ?_, fun topic => ?_, ?_⟩
  · rw [called_eq, hkept.standing]
  · have hperm := handlers_standing_perm topic (Register.empty.run steps).made
    rw [← hkept.standing] at hperm
    exact ⟨hperm, hperm.length_eq⟩
  · rw [← Register.follows_run_iff Register.kept_empty (fun _ => rfl) steps]
    refine forall_congr' fun before => imp_congr_right fun _ => ?_
    simp only [called_eq]
    exact ⟨fun h topic => h ⟨topic, ""⟩, fun h cue => h cue.topic⟩

/-- The handler of a name is subscribed twice, with another one between, and the second subscription
is cancelled: it is the first registration that is taken away. -/
def crossing : List Arrangement :=
  [.defines "a" .quiet, .defines "b" .quiet, .subscribes .interaction "a" "first",
    .subscribes .interaction "b" "second", .subscribes .interaction "a" "third",
    .cancels "third"]

theorem not_called_crossing :
    (Register.empty.run crossing).rehearsal.called ⟨.interaction, "x"⟩ ≠
      activeOn .interaction (Register.empty.run crossing).made := by
  rw [called_eq]
  decide

end Rehearsal

end Parley
