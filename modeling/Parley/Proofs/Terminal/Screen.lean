import Parley.Proofs.Conversation.Calm
import Parley.Proofs.Conversation.Ending
import Parley.Proofs.Conversation.Rendering
import Parley.Proofs.Conversation.Repertoire
import Parley.Terminal.Player

/-!
# What the screen shows

In a terminal the view fails at nothing but lines, so the engine of a player goes on as if every line
could be written. While a conversation runs, the screen shows the line that it has come to. What is
entered is judged by the choices on screen: a number takes the choice that it stands before, and
where there are choices nothing else does anything to the conversation.
-/

namespace Parley

/-- A line that can be shown, and whose choices have different ids. -/
structure Surroundings.Presents {τ : Type} [Translation τ] (w : Surroundings τ) (l : Line) :
    Prop where
  told : w.TellsLine l
  ids : ((l.options.getD []).map Choice.id).Nodup

theorem Surroundings.Presents.answered {τ : Type} [Translation τ] {w : Surroundings τ} {l : Line}
    (h : w.Presents l) (text : String) : w.Presents (l.answered text) :=
  ⟨⟨nofun, h.told.name, nofun⟩, List.nodup_nil⟩

namespace Engine

variable {τ : Type} [Translation τ] {w : Surroundings τ} {e : Engine} {l : Line}

/-- Where ids are different, a choice is found by its own. -/
theorem find?_of_nodup {cs : List Choice} (hids : (cs.map Choice.id).Nodup) {c : Choice}
    (hc : c ∈ cs) : cs.find? (·.id == c.id) = some c := by
  induction cs with
  | nil => cases hc
  | cons c' cs ih =>
    rw [List.map_cons, List.nodup_cons] at hids
    rcases List.mem_cons.mp hc with rfl | hc
    · rw [List.find?_cons_of_pos (by simp)]
    · have hne : c'.id ≠ c.id := by
        intro hid
        apply hids.1
        rw [hid]
        exact List.mem_map_of_mem hc
      rw [List.find?_cons_of_neg (by simpa using hne)]
      exact ih hids.2 hc

theorem exists_showing (hview : w.FailsAtLines) (htexts : ∀ s : String, w.Tells (.str s))
    (hrunning : e.session.Running) (hlines : e.session.Throughout w.Presents) :
    ∃ l shown, e.session.current? = some l ∧ renderLine w e.session l = .ok shown ∧
      renderCurrent w e = (outcomeAt w shown, e.showing shown) := by
  obtain ⟨l, hl⟩ := hrunning.current
  obtain ⟨shown, hshown⟩ := exists_renderLine htexts e.session (hlines.of_current hl).told
  refine ⟨l, shown, hl, hshown, ?_⟩
  rw [renderCurrent_of_failsAtLines hview, hl]
  dsimp only
  rw [hshown]

theorem select_of_shown (hview : w.FailsAtLines) (htexts : ∀ s : String, w.Tells (.str s))
    (hrunning : e.session.Running) (hlines : e.session.Throughout w.Presents)
    (hl : e.session.current? = some l) {n : Nat} {c : Choice}
    (hc : (l.options.getD [])[n]? = some c) :
    (e.answered w.supply l c (replyText w c)).session.Throughout w.Presents ∧
    ∃ shown, renderLine w e.session (l.answered (replyText w c)) = .ok shown ∧
      select w c.id e =
        (outcomeAt w shown, (e.answered w.supply l c (replyText w c)).showing shown) := by
  have hpresents := hlines.of_current hl
  have hmem := List.mem_of_getElem? hc
  have hoffered : e.offered c.id = some (l, c) := by
    simp [offered, hrunning.active, hl, find?_of_nodup hpresents.ids hmem]
  have hanswered :
      (e.answered w.supply l c (replyText w c)).session.Throughout w.Presents :=
    throughout_answered (fun l text hl => hl.answered text) hoffered hlines (replyText w c)
  have htext : localize w c.textKey c.text = .ok (replyText w c) := by
    obtain ⟨shown, hshown⟩ := exists_renderLine htexts e.session hpresents.told
    exact localize_of_renderLine hshown hmem
  obtain ⟨l', shown, hl', hshown, hcurrent⟩ := exists_showing hview htexts
    (running_answered w.supply l c (replyText w c) hrunning) hanswered
  obtain rfl := Option.some.inj (hl'.symm.trans (current?_answered hrunning hl w.supply c _))
  refine ⟨hanswered, shown, ?_, ?_⟩
  · rw [← hshown]
    exact (congrFun (renderLine_congr rfl rfl) _).symm
  · rw [select_of_offered hoffered, htext]
    exact hcurrent

end Engine

namespace Terminal

def Output.prompt? : Output → Option String
  | .prompt text => some text
  | .row _ => none

theorem prompts_rows (rows : List String) :
    (rows.map Output.row).filterMap Output.prompt? = [] := by
  induction rows with
  | nil => rfl
  | cons row rows ih => exact ih

/-- Of all calls only that to show a line writes anything that a stream may refuse. -/
theorem viewFault_eq_none (columns : Int) (stream : Stream) {c : ViewCall}
    (hc : c.rendered? = none) : viewFault columns stream c = none := by
  have hrule : stream.refusal? conversationRule = none := by
    cases stream with
    | characters => rfl
    | bytes =>
      have hplain : Text.unwritable? conversationRule = none := by decide +kernel
      rw [Stream.refusal?, hplain]
      rfl
  cases c with
  | render line => cases hc
  | enter point => simp [viewFault, writeCall, callRows, Stream.write, hrule]
  | endCue => simp [viewFault, writeCall, callRows, Stream.write, hrule]
  | exit | cooldown ms | advanceCue => rfl

namespace Player

def shows (p : Player) (event : Event) : Player :=
  match event with
  | .view c => { p with screen := p.screen.after c }.print (writeCall p.columns p.stream c).1
  | _ => p

theorem foldl_shows (events : List Event) (p : Player) : ∃ rows : List String,
    events.foldl shows p = { p with
      screen := (events.filterMap Event.viewCall?).foldl Screen.after p.screen
      outputs := p.outputs ++ rows.map Output.row } := by
  induction events generalizing p with
  | nil => exact ⟨[], by simp⟩
  | cons event events ih =>
    obtain ⟨rows, hrows⟩ := ih (p.shows event)
    rw [List.foldl_cons, hrows]
    cases event with
    | view c =>
      refine ⟨(writeCall p.columns p.stream c).1 ++ rows, ?_⟩
      simp [shows, print, Event.viewCall?]
    | write slots => exact ⟨rows, rfl⟩
    | broadcast inventory => exact ⟨rows, rfl⟩

theorem showEvents_eq (p : Player) : ∃ rows : List String, p.showEvents = { p with
    engine := { p.engine with events := [] }
    screen := p.engine.viewCalls.foldl Screen.after p.screen
    outputs := p.outputs ++ rows.map Output.row } := by
  obtain ⟨rows, hrows⟩ := foldl_shows p.engine.events p
  refine ⟨rows, ?_⟩
  have hfold : p.showEvents = { p.engine.events.foldl shows p with
    engine := { (p.engine.events.foldl shows p).engine with events := [] } } := rfl
  rw [hfold, hrows]
  rfl

theorem play_eq (p : Player) (x : Play Unit) : ∃ rows : List String,
    p.play x = ((x p.engine).1, { p with
      engine := { (x p.engine).2 with events := [] }
      screen := (x p.engine).2.viewCalls.foldl Screen.after p.screen
      outputs := p.outputs ++ rows.map Output.row }) := by
  obtain ⟨rows, hrows⟩ := showEvents_eq { p with engine := (x p.engine).2 }
  exact ⟨rows, congrArg (Prod.mk _) hrows⟩

/-- The word that is entered, without blanks around it and in small letters. -/
def wordOf (entered : String) : String :=
  String.ofList ((Text.strip entered).toList.map Char.toLower)

def picks (options : List RenderOption) (entered : String) : Bool :=
  match Text.readInteger (wordOf entered) with
  | .ok n => decide (1 ≤ n ∧ n ≤ options.length)
  | .error _ => false

theorem picks_eq_true_iff {options : List RenderOption} {s : String} :
    picks options s = true ↔
      ∃ n, Text.readInteger (wordOf s) = .ok n ∧ 1 ≤ n ∧ n ≤ options.length := by
  unfold picks
  cases Text.readInteger (wordOf s) with
  | ok n => simp
  | error problem => simp

theorem picks_of_option {options : List RenderOption} {s : String} {n : Nat} {o : RenderOption}
    (hn : Text.readInteger (wordOf s) = .ok (n + 1)) (ho : options[n]? = some o) :
    picks options s = true := by
  obtain ⟨hlt, -⟩ := List.getElem?_eq_some_iff.mp ho
  exact picks_eq_true_iff.mpr ⟨_, hn, by omega, by omega⟩

def Request.Idle (r : Request) : Prop := r ≠ .advance ∧ ∀ id, r ≠ .select id

theorem picks_of_command {options : List RenderOption} {s : String}
    (h : wordOf s ∈ ["quit", "exit", "q", "state"]) : picks options s = false := by
  simp only [List.mem_cons, List.not_mem_nil, or_false] at h
  unfold picks
  rcases h with h | h | h | h
  all_goals
    rw [h]
    rfl

/-- What is entered takes the choice of its number, or goes on where there are no choices, or does
not reach the engine. -/
theorem readRequest_cases (options : List RenderOption) (s : String) :
    (∃ (n : Nat) (o : RenderOption), Text.readInteger (wordOf s) = .ok (n + 1) ∧
      options[n]? = some o ∧ readRequest options s = .select o.id) ∨
    (options = [] ∧ readRequest options s = .advance) ∨
    (picks options s = false ∧ (readRequest options s).Idle) := by
  have hword : String.ofList ((Text.strip s).toList.map Char.toLower) = wordOf s := rfl
  unfold readRequest
  dsimp only
  rw [hword]
  by_cases hquit : ["quit", "exit", "q"].contains (wordOf s) = true
  · have hcommand : wordOf s ∈ ["quit", "exit", "q", "state"] :=
      List.mem_append_left ["state"] (List.contains_iff_mem.mp hquit)
    rw [if_pos hquit]
    exact .inr (.inr ⟨picks_of_command hcommand, nofun, nofun⟩)
  rw [if_neg hquit]
  by_cases hstate : (wordOf s == "state") = true
  · have hcommand : wordOf s ∈ ["quit", "exit", "q", "state"] := by
      rw [eq_of_beq hstate]
      decide
    rw [if_pos hstate]
    exact .inr (.inr ⟨picks_of_command hcommand, nofun, nofun⟩)
  rw [if_neg hstate]
  by_cases hempty : options = []
  · rw [hempty]
    exact .inr (.inl ⟨rfl, rfl⟩)
  rw [if_neg (by simpa using hempty)]
  cases hnumber : Text.readInteger (wordOf s) with
  | error problem =>
    refine .inr (.inr ⟨Bool.eq_false_iff.mpr fun hpicks => ?_, nofun, nofun⟩)
    obtain ⟨n, hn, -⟩ := picks_eq_true_iff.mp hpicks
    rw [hnumber] at hn
    cases hn
  | ok n =>
    dsimp only
    by_cases hrange : 1 ≤ n ∧ n ≤ options.length
    · have hlt : (n - 1).toNat < options.length := by omega
      have hn : n = (n - 1).toNat + 1 := by omega
      rw [if_pos hrange, List.getElem?_eq_getElem hlt]
      refine .inl ⟨(n - 1).toNat, options[(n - 1).toNat], ?_, List.getElem?_eq_getElem hlt, rfl⟩
      rw [← hn]
    · rw [if_neg hrange]
      refine .inr (.inr ⟨Bool.eq_false_iff.mpr fun hpicks => ?_, nofun, nofun⟩)
      obtain ⟨m, hm, hinside⟩ := picks_eq_true_iff.mp hpicks
      rw [hnumber] at hm
      cases hm
      exact hrange hinside

/-- The screen shows the line that the session has come to. -/
def ShowsCurrent (p : Player) : Prop :=
  ∃ l shown, p.engine.session.current? = some l ∧
    Engine.renderLine p.world p.engine.session l = .ok shown ∧ p.screen.current = some shown

/-- A conversation is on screen, all of whose lines can be shown. -/
structure OnScreen (p : Player) : Prop where
  view : p.world.FailsAtLines
  texts : ∀ s : String, p.world.Tells (.str s)
  running : p.engine.session.Running
  lines : p.engine.session.Throughout p.world.Presents
  current : p.ShowsCurrent

/-- The choice at an index was taken as it is on screen: its text became the line, and what it
resolves to follows. The player goes on if the line can be written. -/
structure Took (p : Player) (n : Nat) (o : RenderOption) (x : Except Fault Bool × Player) :
    Prop where
  taken : ∃ l c, p.engine.session.current? = some l ∧ (l.options.getD [])[n]? = some c ∧
    c.id = o.id ∧
    x.2.engine.session =
      { (p.engine.answered p.world.supply l c o.text).session with shown := true } ∧
    x.2.engine.stock = (p.engine.answered p.world.supply l c o.text).stock ∧
    x.2.engine.session.current? = some (l.answered o.text)
  told : ∃ shown, x.2.screen.current = some shown ∧ shown.text = o.text ∧ shown.options = none ∧
    x.1 = (Engine.outcomeAt p.world shown).map fun _ => true

/-- What comes of a prompt with a conversation on screen. -/
inductive Outcome (p : Player) (input : Option Input) : Except Fault Bool × Player → Prop
  /-- Nothing happens but that something is written. -/
  | stays {r : Except Fault Bool} {outputs : List Output}
      (picks : ∀ s, input = some (.text s) → picks p.options s = false) :
      Outcome p input (r, { p with outputs })
  | takes {r : Except Fault Bool} {p' : Player} {s : String} {n : Nat} {o : RenderOption}
      (entered : input = some (.text s)) (number : Text.readInteger (wordOf s) = .ok (n + 1))
      (option : p.options[n]? = some o) (took : p.Took n o (r, p')) (next : p'.OnScreen)
      (index : p'.engine.session.index = p.engine.session.index) : Outcome p input (r, p')
  | goesOn {r : Except Fault Bool} {p' : Player} (options : p.options = []) (next : p'.OnScreen)
      (index : p'.engine.session.index = p.engine.session.index + 1) : Outcome p input (r, p')
  | ends {r : Except Fault Bool} {p' : Player} (options : p.options = [])
      (idle : p'.engine.session = .idle) : Outcome p input (r, p')

variable {p : Player}

theorem obey_of_idle {request : Request} (h : request.Idle) (p : Player) :
    ∃ (r : Except Fault Bool) (rows : List String), p.obey request =
      (r, { p with outputs := p.outputs ++ rows.map Output.row }) := by
  cases request with
  | quit => exact ⟨.ok false, [], by simp [obey]⟩
  | state => exact ⟨_, _, rfl⟩
  | advance => exact absurd rfl h.1
  | select id => exact absurd rfl (h.2 id)
  | unreadable => exact ⟨_, _, rfl⟩
  | outOfRange => exact ⟨_, _, rfl⟩

theorem step_text (p : Player) (s : String) :
    p.step (some (.text s)) = p.ask.obey (readRequest p.options s) := by
  have hoptions : p.ask.options = p.options := rfl
  rw [step, reply, hoptions]

/-- A prompt, and then rows; nothing changes but the engine and what is on screen. -/
theorem exists_step (p : Player) (input : Option Input) :
    ∃ engine screen, ∃ rows : List String, (p.step input).2 = { p with
      engine
      screen
      outputs := p.outputs ++ .prompt p.promptText :: rows.map Output.row } := by
  have hobey (request : Request) : ∃ engine screen, ∃ rows : List String,
      (p.ask.obey request).2 = { p.ask with
        engine
        screen
        outputs := p.ask.outputs ++ rows.map Output.row } := by
    by_cases h : request.Idle
    · obtain ⟨r, rows, hrows⟩ := obey_of_idle h p.ask
      exact ⟨_, _, rows, by rw [hrows]⟩
    · cases request with
      | advance =>
        obtain ⟨rows, hrows⟩ := p.ask.play_eq (Engine.advance p.world)
        exact ⟨_, _, rows, congrArg Prod.snd hrows⟩
      | select id =>
        obtain ⟨rows, hrows⟩ := p.ask.play_eq (Engine.select p.world id)
        exact ⟨_, _, rows, congrArg Prod.snd hrows⟩
      | quit | state | unreadable | outOfRange => exact absurd ⟨nofun, nofun⟩ h
  rcases input with _ | s | _
  · exact ⟨_, _, [], rfl⟩
  · obtain ⟨engine, screen, rows, hrows⟩ := hobey (readRequest p.options s)
    refine ⟨engine, screen, rows, ?_⟩
    rw [step_text, hrows, List.append_cons]
    rfl
  · exact ⟨_, _, [], rfl⟩

theorem onScreen_of_showing {e : Engine} {l : Line} {shown : RenderLine}
    (hview : p.world.FailsAtLines) (htexts : ∀ s : String, p.world.Tells (.str s))
    (hrunning : e.session.Running) (hlines : e.session.Throughout p.world.Presents)
    (hl : e.session.current? = some l)
    (hshown : Engine.renderLine p.world e.session l = .ok shown)
    (hsession : p.engine.session = (e.showing shown).session)
    (hscreen : p.screen.current = some shown) : p.OnScreen := by
  refine ⟨hview, htexts, ?_, ?_, l, shown, ?_, ?_, hscreen⟩
  · rw [hsession]
    exact hrunning.withShown true
  · rw [hsession]
    exact hlines
  · rw [hsession]
    exact hl
  · rw [hsession, ← hshown]
    exact congrFun (Engine.renderLine_congr rfl rfl) l

theorem current_after_showing (e : Engine) (shown : RenderLine) (s : Screen) :
    ((e.showing shown).viewCalls.foldl Screen.after s).current = some shown := by
  rw [Engine.viewCalls_showing, List.foldl_append]
  rfl

theorem options_eq {l : Line} {shown : RenderLine} {s : Session}
    (hshown : Engine.renderLine p.world s l = .ok shown) (hscreen : p.screen.current = some shown) :
    p.options = (l.options.getD []).map fun c => ⟨c.id, Engine.replyText p.world c⟩ := by
  rw [options, hscreen]
  exact Engine.options_of_renderLine hshown

theorem OnScreen.select (h : p.OnScreen) {n : Nat} {o : RenderOption}
    (ho : p.options[n]? = some o) :
    ∃ r p', p.ask.play (Engine.select p.world o.id) = (r, p') ∧
      p.Took n o (r.map fun _ => true, p') ∧ p'.OnScreen ∧
      p'.engine.session.index = p.engine.session.index := by
  obtain ⟨l, before, hl, hbefore, hscreen⟩ := h.current
  rw [options_eq hbefore hscreen, List.getElem?_map, Option.map_eq_some_iff] at ho
  obtain ⟨c, hc, rfl⟩ := ho
  obtain ⟨hlines, shown, hshown, hselect⟩ :=
    Engine.select_of_shown h.view h.texts h.running h.lines hl hc
  obtain ⟨rows, hplay⟩ := p.ask.play_eq (Engine.select p.world c.id)
  have hengine : p.ask.engine = p.engine := rfl
  rw [hengine, hselect] at hplay
  have hcurrent := current_after_showing
    (p.engine.answered p.world.supply l c (Engine.replyText p.world c)) shown p.screen
  have hrunning := Engine.running_answered p.world.supply l c (Engine.replyText p.world c) h.running
  have hanswer := Engine.current?_answered h.running hl p.world.supply c
    (Engine.replyText p.world c)
  refine ⟨_, _, hplay, ⟨⟨l, c, hl, hc, rfl, rfl, rfl, hanswer⟩, shown, hcurrent, ?_, ?_, rfl⟩, ?_,
    rfl⟩
  · exact (Except.ok.inj (Engine.parts_of_renderLine hshown).2.1).symm
  · exact (Except.ok.inj (Engine.parts_of_renderLine hshown).2.2).symm
  · refine onScreen_of_showing h.view h.texts hrunning hlines hanswer ?_ rfl hcurrent
    rw [← hshown]
    exact congrFun (Engine.renderLine_congr rfl rfl) _

theorem OnScreen.advance (h : p.OnScreen) :
    ∃ r p', p.ask.play (Engine.advance p.world) = (r, p') ∧
      (p'.engine.session = .idle ∨
        p'.OnScreen ∧ p'.engine.session.index = p.engine.session.index + 1) := by
  obtain ⟨rows, hplay⟩ := p.ask.play_eq (Engine.advance p.world)
  refine ⟨_, _, hplay, ?_⟩
  have hengine : p.ask.engine = p.engine := rfl
  rw [hengine]
  have hactive := h.running.active
  have hlines := h.running.lines_ne_nil
  cases hlast : p.engine.session.isLast with
  | true =>
    left
    change (Engine.advance p.world p.engine).2.session = .idle
    rw [Engine.advance, Engine.advanceWith_of_isLast hactive hlines hlast,
      Engine.conclude_calm h.view, Engine.session_conclude p.world.viewWorks_calm]
  | false =>
    right
    have hrunning : p.engine.next.session.Running := h.running.next hlast
    obtain ⟨l, shown, hl, hshown, hrender⟩ :=
      Engine.exists_showing h.view h.texts hrunning h.lines
    have hadvance : Engine.advance p.world p.engine =
        (Engine.outcomeAt p.world shown, p.engine.next.showing shown) := by
      rw [Engine.advance, Engine.advanceWith_of_not_isLast hactive hlines hlast, hrender]
    rw [hadvance]
    have hcurrent := current_after_showing p.engine.next shown p.screen
    exact ⟨onScreen_of_showing h.view h.texts hrunning h.lines hl hshown rfl hcurrent, rfl⟩

theorem OnScreen.step (h : p.OnScreen) (input : Option Input) :
    p.Outcome input (p.step input) := by
  have hworld : p.ask.world = p.world := rfl
  rcases input with _ | s | _
  · exact .stays nofun
  · rw [step_text]
    rcases readRequest_cases p.options s with ⟨n, o, hn, ho, hread⟩ | ⟨hoptions, hread⟩ |
      ⟨hpicks, hidle⟩
    · obtain ⟨r, p', hplay, htook, hnext, hindex⟩ := h.select ho
      have hobey : p.ask.obey (.select o.id) = (r.map fun _ => true, p') := by
        rw [obey, hworld, hplay]
      rw [hread, hobey]
      exact .takes rfl hn ho htook hnext hindex
    · obtain ⟨r, p', hplay, hnext⟩ := h.advance
      have hobey : p.ask.obey .advance = (r.map fun _ => true, p') := by
        rw [obey, hworld, hplay]
      rw [hread, hobey]
      rcases hnext with hidle | ⟨hnext, hindex⟩
      · exact .ends hoptions hidle
      · exact .goesOn hoptions hnext hindex
    · obtain ⟨r, rows, hobey⟩ := obey_of_idle hidle p.ask
      rw [hobey]
      refine .stays fun s' hs' => ?_
      cases hs'
      exact hpicks
  · exact .stays nofun

/-- Where choices are on screen, what is no number of one of them changes neither the engine nor the
screen. -/
theorem OnScreen.unmoved (h : p.OnScreen) (hoptions : p.options ≠ []) {s : String}
    (hpicks : picks p.options s = false) :
    (p.step (some (.text s))).2.engine = p.engine ∧
      (p.step (some (.text s))).2.screen = p.screen := by
  have houtcome := h.step (some (.text s))
  generalize p.step (some (.text s)) = x at houtcome
  cases houtcome with
  | stays _ => exact ⟨rfl, rfl⟩
  | takes hentered hnumber hoption _ _ _ =>
    cases hentered
    rw [picks_of_option hnumber hoption] at hpicks
    cases hpicks
  | goesOn hnone _ _ => exact absurd hnone hoptions
  | ends hnone _ => exact absurd hnone hoptions

theorem OnScreen.took (h : p.OnScreen) {s : String} {n : Nat} {o : RenderOption}
    (hn : Text.readInteger (wordOf s) = .ok (n + 1)) (ho : p.options[n]? = some o) :
    p.Took n o (p.step (some (.text s))) := by
  have houtcome := h.step (some (.text s))
  have hoptions : p.options ≠ [] := by
    intro hnone
    rw [hnone] at ho
    cases ho
  generalize p.step (some (.text s)) = x at houtcome
  cases houtcome with
  | stays hpicks =>
    have hnot := hpicks s rfl
    rw [picks_of_option hn ho] at hnot
    cases hnot
  | @takes _ _ _ n' _ hentered hnumber hoption htook _ _ =>
    cases hentered
    have hsame := Except.ok.inj (hn.symm.trans hnumber)
    obtain rfl : n = n' := by omega
    obtain rfl := Option.some.inj (ho.symm.trans hoption)
    exact htook
  | goesOn hnone _ _ => exact absurd hnone hoptions
  | ends hnone _ => exact absurd hnone hoptions

end Player
end Terminal
end Parley
