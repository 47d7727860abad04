import Parley.Proofs.Conversation.Indifference
import Parley.Proofs.Dialogue.Census
import Parley.Proofs.Dialogue.Fetching
import Parley.Proofs.Dialogue.ReadBack

/-!
# The items that a conversation comes to

A conversation tests items where it resolves the document at the start and a choice at each
selection, and it gives items at the end. Whatever goes on around it, the lines of its session name
no items but those that the document names, nor do the actions that wait, so the statistics of the
document have every item that it tests or gives.
-/

namespace Parley

namespace Resolution

variable {α : Type} {supply : Supply}

/-- The checks that are evaluated, one after another up to the first that fails. -/
def evaluated (supply : Supply) : List Check → Stock → List Check
  | [], _ => []
  | c :: rest, s =>
    let (inventory, s) := s.get supply
    c :: if c.passes inventory then evaluated supply rest s else []

/-- The checks of entries that are evaluated, one entry after another up to the first whose checks
all pass. -/
def evaluatedAmong (supply : Supply) (checks : α → List Check) : List α → Stock → List Check
  | [], _ => []
  | a :: rest, s =>
    evaluated supply (checks a) s ++ match passes supply (checks a) s with
      | (true, _) => []
      | (false, s) => evaluatedAmong supply checks rest s

theorem mem_of_mem_evaluated {checks : List Check} {s : Stock} {c : Check}
    (h : c ∈ evaluated supply checks s) : c ∈ checks := by
  induction checks generalizing s with
  | nil => cases h
  | cons first rest ih =>
    unfold evaluated at h
    dsimp only at h
    rcases List.mem_cons.mp h with rfl | h
    · exact List.mem_cons_self
    · split at h
      · exact List.mem_cons_of_mem _ (ih h)
      · cases h

theorem exists_of_mem_evaluatedAmong {checks : α → List Check} {as : List α} {s : Stock} {c : Check}
    (h : c ∈ evaluatedAmong supply checks as s) : ∃ a ∈ as, c ∈ checks a := by
  induction as generalizing s with
  | nil => cases h
  | cons a rest ih =>
    unfold evaluatedAmong at h
    rcases List.mem_append.mp h with h | h
    · exact ⟨a, List.mem_cons_self, mem_of_mem_evaluated h⟩
    · split at h
      · cases h
      · obtain ⟨b, hb, hc⟩ := ih h
        exact ⟨b, List.mem_cons_of_mem _ hb, hc⟩

end Resolution

/-- Lines and actions name no items but these. -/
structure NamesOnly (items : List String) (lines : List Line) (actions : List Action) : Prop where
  lines : ∀ l ∈ lines, l.tally.items ⊆ items
  actions : ∀ a ∈ actions, (Piece.action a).tally.items ⊆ items

namespace NamesOnly

variable {items items' : List String} {lines lines' : List Line} {actions actions' : List Action}

theorem mono (h : NamesOnly items lines actions) (hitems : items ⊆ items') :
    NamesOnly items' lines actions :=
  ⟨fun l hl => List.Subset.trans (h.lines l hl) hitems,
    fun a ha => List.Subset.trans (h.actions a ha) hitems⟩

/-- What takes the place of absent sections names no other items, if neither does. -/
theorem orElse {ls ls' : Option (List Line)} {as as' : Option (List Action)}
    (h : NamesOnly items (ls.getD []) (as.getD []))
    (h' : NamesOnly items (ls'.getD []) (as'.getD [])) :
    NamesOnly items ((ls <|> ls').getD []) ((as <|> as').getD []) where
  lines l hl := (mem_of_mem_orElse (fun ls => ls) hl).elim (h.lines l) (h'.lines l)
  actions a ha := (mem_of_mem_orElse (fun as => as) ha).elim (h.actions a) (h'.actions a)

end NamesOnly

namespace Piece

theorem items_subset {p q : Piece} {name : String} {entries : List Piece}
    (hlist : (name, entries) ∈ p.sections) (hq : q ∈ entries) : q.tally.items ⊆ p.tally.items :=
  fun _ hitem => mem_items_tally.mpr (.inr ⟨_, hlist, q, hq, hitem⟩)

theorem namesOnly {p : Piece} {lines : List Line} {actions : List Action}
    (hlines : ("lines", lines.map .line) ∈ p.sections)
    (hactions : ("actions", actions.map .action) ∈ p.sections) :
    NamesOnly p.tally.items lines actions :=
  ⟨fun _ hl => items_subset hlines (List.mem_map_of_mem hl),
    fun _ ha => items_subset hactions (List.mem_map_of_mem ha)⟩

theorem mem_items_of_check {p : Piece} {c : Check} (hc : c ∈ p.checks) {item : String}
    (hitem : c.item? = some item) : item ∈ p.tally.items := by
  cases c <;> cases hitem
  exact mem_items_tally.mpr (.inl (mem_items_own.mpr (.inl ⟨_, hc⟩)))

theorem mem_items_action {a : Action} {item : String} :
    item ∈ (action a).tally.items ↔ a.item? = some item := by
  simp [tally, own]

end Piece

namespace Resolution

theorem items_of_evaluatedAmong {α : Type} {supply : Supply} {checks : α → List Check} {as : List α}
    {s : Stock} {items : List String} (wrap : α → Piece) (hchecks : ∀ a, (wrap a).checks = checks a)
    (h : ∀ a ∈ as, (wrap a).tally.items ⊆ items) :
    (evaluatedAmong supply checks as s).filterMap Check.item? ⊆ items := by
  intro item hitem
  obtain ⟨c, hc, hitem⟩ := List.mem_filterMap.mp hitem
  obtain ⟨a, ha, hc⟩ := exists_of_mem_evaluatedAmong hc
  exact h a ha (Piece.mem_items_of_check (hchecks a ▸ hc) hitem)

end Resolution

theorem Document.items_of_fork {d : Document} {f : Fork} (hf : f ∈ d.forks.getD []) :
    (Piece.fork f).tally.items ⊆ d.tally.items := by
  have hlist : ("forks", (d.forks.getD []).map .fork) ∈ (Piece.document d).sections := by
    simp [Piece.sections]
  exact Piece.items_subset hlist (List.mem_map_of_mem hf)

theorem Line.items_of_choice {l : Line} {c : Choice} (hc : c ∈ l.options.getD []) :
    c.tally.items ⊆ l.tally.items := by
  have hlist : ("options", (l.options.getD []).map .choice) ∈ (Piece.line l).sections := by
    simp [Piece.sections]
  exact Piece.items_subset hlist (List.mem_map_of_mem hc)

theorem Choice.items_of_branch {c : Choice} {b : Branch} (hb : b ∈ c.branches.getD []) :
    (Piece.branch b).tally.items ⊆ c.tally.items := by
  have hlist : ("branches", (c.branches.getD []).map .branch) ∈ (Piece.choice c).sections := by
    simp [Piece.sections]
  exact Piece.items_subset hlist (List.mem_map_of_mem hb)

theorem Document.namesOnly_resolve (d : Document) (supply : Supply) (s : Stock) :
    NamesOnly d.tally.items (d.resolve supply s).1.lines (d.resolve supply s).1.actions := by
  have hbase : NamesOnly d.tally.items (d.lines.getD []) (d.actions.getD []) :=
    Piece.namesOnly (p := .document d) (by simp [Piece.sections]) (by simp [Piece.sections])
  obtain ⟨f, hresolve, hmem⟩ := d.exists_resolve supply s
  rw [hresolve]
  cases f with
  | none => exact hbase
  | some f =>
    have hfork : NamesOnly (Piece.fork f).tally.items ((some f.lines).getD [])
        (f.actions.getD []) :=
      Piece.namesOnly (by simp [Piece.sections]) (by simp [Piece.sections])
    exact (hfork.mono (items_of_fork (hmem f rfl))).orElse hbase

theorem Choice.namesOnly_resolve (c : Choice) (supply : Supply) (s : Stock) :
    NamesOnly c.tally.items (c.resolve supply s).1.lines (c.resolve supply s).1.actions := by
  have hbase : NamesOnly c.tally.items (c.lines.getD []) (c.actions.getD []) :=
    Piece.namesOnly (p := .choice c) (by simp [Piece.sections]) (by simp [Piece.sections])
  obtain ⟨b, hresolve, hmem⟩ := c.exists_resolve supply s
  rw [hresolve]
  cases b with
  | none => exact hbase
  | some b =>
    have hbranch : NamesOnly (Piece.branch b).tally.items (b.lines.getD []) (b.actions.getD []) :=
      Piece.namesOnly (by simp [Piece.sections]) (by simp [Piece.sections])
    exact (hbranch.mono (items_of_branch (hmem b rfl))).orElse hbase

/-- While the session is active, its lines and the actions that wait name no items but these. -/
def Session.NamesOnly (items : List String) (s : Session) : Prop :=
  s.active = true → Parley.NamesOnly items s.lines s.pending

namespace Engine

variable {items : List String}

/-- From a session that names no items but these, one that names no others. -/
def Keeps (items : List String) (e e' : Engine) : Prop :=
  e.session.NamesOnly items → e'.session.NamesOnly items

instance : IsPreorder Engine (Keeps items) where
  refl _ := id
  trans _ _ _ h h' := h' ∘ h

theorem Keeps.of_session {e e' : Engine} (h : e'.session = e.session) : Keeps items e e' :=
  fun hnames => h ▸ hnames

theorem Keeps.of_offstage {e e' : Engine} (h : Offstage e e') : Keeps items e e' :=
  .of_session h.session

variable {τ : Type} {w : Surroundings τ}

/-- The checks that a start evaluates: those of the forks of the document that it asks for. -/
def startChecks (w : Surroundings τ) (npcId : String) (e : Engine) : List Check :=
  match e.begin, w.document npcId with
  | (true, _), .ok (some d) =>
    Resolution.evaluatedAmong w.supply Fork.checks (d.forks.getD []) e.stock
  | _, _ => []

theorem startChecks_items {npcId : String} {d : Document} (hd : w.document npcId = .ok (some d))
    (e : Engine) : (startChecks w npcId e).filterMap Check.item? ⊆ d.tally.items := by
  unfold startChecks
  split
  · rename_i d' _ hd'
    obtain rfl : d = d' := by
      rw [hd] at hd'
      cases hd'
      rfl
    exact Resolution.items_of_evaluatedAmong .fork (fun _ => rfl)
      fun f hf => Document.items_of_fork hf
  · exact List.nil_subset _

theorem keeps_call (c : ViewCall) : Play.Rel (Keeps items) (call w c) := by
  intro e
  unfold call
  dsimp only
  split <;> exact .of_session rfl

theorem keeps_teardown : Play.Rel (Keeps items) (teardown w) :=
  .teardown (keeps_call _) (fun _ => keeps_call _) fun _ _ => nofun

theorem keeps_conclude (supply : Supply) (actions : List Action) :
    Play.Rel (Keeps items) (conclude (executeActions supply) w actions) :=
  .bind (keeps_call _) fun _ =>
    .followedBy (fun e => .of_offstage (offstage_executeActions supply actions e)) keeps_teardown

variable [Translation τ]

theorem keeps_renderCurrent : Play.Rel (Keeps items) (renderCurrent w) :=
  .renderCurrent (keeps_call _) (fun _ => keeps_call _) fun _ h => h

theorem keeps_present : Play.Rel (Keeps items) (present w) :=
  .present (fun _ => keeps_call _) keeps_renderCurrent

/-- A start on a document opens a session that names no items but those of the document. -/
theorem keeps_converse {npcId : String} {d : Document} (hd : w.document npcId = .ok (some d))
    (npcName : Json) : Play.Rel (Keeps d.tally.items) (converse w npcId npcName) := by
  intro e
  by_cases hbusy : e.session.active = true ∨ e.starting = true
  · rw [converse_of_busy hbusy]
    exact refl_of _ e
  · simp only [not_or, Bool.not_eq_true] at hbusy
    rw [converse_of_free hbusy.1 hbusy.2, hd]
    dsimp only
    split
    · exact .of_session rfl
    · refine trans_of (Keeps d.tally.items) ?_ (keeps_present _)
      intro _ _
      have hresolved := d.namesOnly_resolve w.supply e.stock
      refine ⟨?_, hresolved.actions⟩
      rw [Session.opened, Line.copyList_eq]
      exact hresolved.lines

theorem keeps_advance : Play.Rel (Keeps items) (advance w) :=
  .advance (fun _ _ _ h => h) keeps_renderCurrent keeps_teardown fun e =>
    keeps_conclude w.supply e.session.pending e

/-- A choice on the line on screen names no items but those that the session names. -/
theorem items_of_offered {e : Engine} {id : String} {l : Line} {choice : Choice}
    (hoffered : e.offered id = some (l, choice)) (h : e.session.NamesOnly items) :
    choice.tally.items ⊆ items := by
  obtain ⟨hl, hchoice⟩ := mem_of_offered hoffered
  exact List.Subset.trans (Line.items_of_choice hchoice)
    ((h (of_offered hoffered).1).lines l hl)

/-- What a taken choice leads to names no items but those of the choice, and an answer names
none. -/
theorem keeps_answered {supply : Supply} {e : Engine} {id : String} {l : Line} {choice : Choice}
    (hoffered : e.offered id = some (l, choice)) (text : String) :
    Keeps items e (e.answered supply l choice text) := by
  intro h _
  have hnames := h (of_offered hoffered).1
  have hresolved := (choice.namesOnly_resolve supply e.stock).mono (items_of_offered hoffered h)
  constructor
  · intro l' hl'
    rcases mem_lines_answered hl' with hl' | rfl | hl'
    · exact hnames.lines l' hl'
    · exact List.nil_subset items
    · exact hresolved.lines l' hl'
  · intro a ha
    exact (List.mem_append.mp ha).elim (hnames.actions a) (hresolved.actions a)

theorem keeps_select (id : String) : Play.Rel (Keeps items) (select w id) :=
  .select (fun _ _ _ text hoffered => keeps_answered hoffered text) keeps_renderCurrent

theorem keeps_turn (t : Turn) (e : Engine) :
    Keeps items e (t.perform (executeActions w.supply) w e) := by
  cases t with
  | advance => exact keeps_advance e
  | select id => exact keeps_select id e
  | news inventory => exact .of_offstage (offstage_publishInventory inventory e)

/-- The checks that a turn evaluates: those of the branches of the choice that it takes. -/
def turnChecks (w : Surroundings τ) (e : Engine) : Turn → List Check
  | .select id => match e.offered id with
    | some (_, choice) => match localize w choice.textKey choice.text with
      | .ok _ => Resolution.evaluatedAmong w.supply Branch.checks (choice.branches.getD []) e.stock
      | .error _ => []
    | none => []
  | _ => []

/-- The items that a turn tests, and those of the actions that it hands to the executor. -/
def turnItems (w : Surroundings τ) (e : Engine) (t : Turn) : List String :=
  (turnChecks w e t).filterMap Check.item? ++ ((e.handed t).getD []).filterMap Action.item?

/-- The items that turns test and give, one turn after another, each in surroundings of its own. -/
def turnsItems : List (Surroundings τ × Turn) → Engine → List String
  | [], _ => []
  | (w, t) :: steps, e =>
    turnItems w e t ++ turnsItems steps (t.perform (executeActions w.supply) w e)

/-- The items that a conversation tests and gives that is started and taken through some turns. -/
def conversationItems (w : Surroundings τ) (npcId : String) (npcName : Json)
    (steps : List (Surroundings τ × Turn)) (e : Engine) : List String :=
  (startChecks w npcId e).filterMap Check.item? ++
    turnsItems steps (converse w npcId npcName e).2

theorem turnItems_subset {e : Engine} (h : e.session.NamesOnly items) (t : Turn) :
    turnItems w e t ⊆ items := by
  refine List.append_subset.mpr ⟨?_, ?_⟩
  · cases t with
    | select id =>
      unfold turnChecks
      dsimp only
      split
      · rename_i l choice hoffered
        split
        · exact Resolution.items_of_evaluatedAmong .branch (fun _ => rfl) fun b hb =>
            List.Subset.trans (Choice.items_of_branch hb) (items_of_offered hoffered h)
        · exact List.nil_subset _
      · exact List.nil_subset _
    | _ => exact List.nil_subset _
  · cases t with
    | advance =>
      unfold handed
      dsimp only
      split
      · rename_i hlast
        simp only [Bool.and_eq_true] at hlast
        intro item hitem
        obtain ⟨a, ha, hitem⟩ := List.mem_filterMap.mp hitem
        exact (h hlast.1.1).actions a ha (Piece.mem_items_action.mpr hitem)
      · exact List.nil_subset _
    | _ => exact List.nil_subset _

theorem turnsItems_subset {e : Engine} (h : e.session.NamesOnly items)
    (steps : List (Surroundings τ × Turn)) : turnsItems steps e ⊆ items := by
  induction steps generalizing e with
  | nil => exact List.nil_subset _
  | cons step steps ih =>
    exact List.append_subset.mpr ⟨turnItems_subset h step.2, ih (keeps_turn step.2 e h)⟩

theorem conversationItems_subset {npcId : String} {d : Document}
    (hd : w.document npcId = .ok (some d)) {e : Engine} (hidle : e.session.active = false)
    (npcName : Json) (steps : List (Surroundings τ × Turn)) :
    conversationItems w npcId npcName steps e ⊆ d.tally.items := by
  have hnone : e.session.NamesOnly d.tally.items := by
    intro hactive
    rw [hidle] at hactive
    cases hactive
  exact List.append_subset.mpr
    ⟨startChecks_items hd e, turnsItems_subset (keeps_converse hd npcName e hnone) steps⟩

end Engine

/-- The statistics of a loaded document count all its nodes, each once, and list the items that it
tests or gives. They are the same once it is loaded again from its written form, and whatever a
conversation on it tests or gives is among their items. -/
theorem statistics_of_load {v : Json} {defaultId : String} {l : Loaded} {d : Document}
    (hload : Document.load v defaultId = .ok l) (hd : l.document = some d) (errors warnings : ℕ) :
    d.Census (d.statistics errors warnings) ∧
    (∃ again e, Document.load d.toJson "" = .ok again ∧ again.document = some e ∧
      e.statistics errors warnings = d.statistics errors warnings) ∧
    ∀ {τ : Type} [Translation τ] (w : Surroundings τ) (npcId : String) (npcName : Json)
      (steps : List (Surroundings τ × Turn)) (e : Engine),
      w.document npcId = .ok (some d) → e.session.active = false →
        ∀ item ∈ Engine.conversationItems w npcId npcName steps e, item ≠ "" →
          item ∈ (d.statistics errors warnings).items := by
  refine ⟨d.census errors warnings, ?_, ?_⟩
  · obtain ⟨again, hagain, hdoc⟩ :=
      Loaded.ofNoted_of_yields (Document.canonical_of_load hload hd).yields_toJson
    exact ⟨again, d, hagain, hdoc, rfl⟩
  · intro τ _ w npcId npcName steps e hdocument hidle item hitem hne
    exact mem_sortedDistinct.mpr
      ⟨Engine.conversationItems_subset hdocument hidle npcName steps hitem, hne⟩

/-- The smith's trade has four lines. A player who buys is asked for a coin and is given a sword for
it, and a map, and all three are among the items. -/
theorem statistics_trade :
    {way | ∃ l, (Piece.document Engine.trade).At way (.line l)}.encard = 4 ∧
    Engine.conversationItems (World.plain Engine.trade) "smith" .null
      (Engine.purchase.map (World.plain Engine.trade, ·)) (Engine.start Engine.purse) =
        ["coin", "map", "sword"] ∧
    ∀ item ∈ ["coin", "map", "sword"], item ∈ (Engine.trade.statistics 0 0).items := by
  have hload : ∃ l, Document.load Engine.trade.toJson "" = .ok l ∧
    l.document = some Engine.trade := ⟨_, rfl, rfl⟩
  have hitems : Engine.conversationItems (World.plain Engine.trade) "smith" .null
    (Engine.purchase.map (World.plain Engine.trade, ·)) (Engine.start Engine.purse) =
      ["coin", "map", "sword"] := rfl
  obtain ⟨l, hl, hd⟩ := hload
  obtain ⟨hcensus, -, hplayed⟩ := statistics_of_load hl hd 0 0
  refine ⟨hcensus.lines, hitems, ?_⟩
  intro item hitem
  refine hplayed _ _ _ _ _ rfl rfl item (hitems ▸ hitem) ?_
  rintro rfl
  exact absurd hitem (by decide)

end Parley
