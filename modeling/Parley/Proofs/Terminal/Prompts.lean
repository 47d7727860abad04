import Parley.Proofs.Terminal.Screen

/-!
# Conversations as prompts

A conversation in a terminal is a list of prompts, each with what is entered at it. From one prompt
to the next the conversation stays where it is, or what is entered takes a choice of the line on
screen, or the conversation goes on from a line without choices. So a line with choices is left only
through one of them, and no line is answered twice.
-/

namespace Parley.Terminal.Player

/-- The prompts of a conversation, each with the player as it stands there and what is entered, which
is nothing at the end of the inputs. -/
def prompts : List Input → Player → List (Player × Option Input)
  | inputs, p =>
    if !p.engine.session.active then []
    else match inputs with
      | [] => [(p, none)]
      | input :: rest => (p, some input) :: match p.step (some input) with
        | (.ok true, p) => p.prompts rest
        | _ => []

def placeAt (x : Player × Option Input) : Int := x.1.engine.session.index

def takesAt (x : Player × Option Input) : Bool :=
  match x.2 with
  | some (.text s) => picks x.1.options s
  | _ => false

/-- How often a choice of the line at a place is taken. -/
def takenAt (place : Int) (all : List (Player × Option Input)) : Nat :=
  all.countP fun x => placeAt x == place && takesAt x

/-- The prompts from a player on, with the session in the end. -/
inductive Course : Player → List (Player × Option Input) → Session → Prop
  | last {p : Player} {input : Option Input} {x : Except Fault Bool × Player} (here : p.OnScreen)
      (outcome : p.Outcome input x) : Course p [(p, input)] x.2.engine.session
  | more {p : Player} {input : Option Input} {x : Except Fault Bool × Player}
      {all : List (Player × Option Input)} {s : Session} (here : p.OnScreen)
      (outcome : p.Outcome input x) (rest : Course x.2 all s) : Course p ((p, input) :: all) s

variable {p : Player} {all : List (Player × Option Input)} {s : Session}

@[simp] theorem takesAt_text (p : Player) (text : String) :
    takesAt (p, some (.text text)) = picks p.options text := by
  rw [takesAt]

theorem takesAt_of_no_options {x : Player × Option Input} (h : x.1.options = []) :
    takesAt x = false := by
  unfold takesAt
  split
  · rename_i text _
    rw [h, Bool.eq_false_iff]
    intro hpicks
    obtain ⟨n, -, hone, hnone⟩ := picks_eq_true_iff.mp hpicks
    rw [List.length_nil] at hnone
    omega
  · rfl

/-- A conversation that is still on screen stays where it is, or a choice of its line was taken, or
it went on from a line without choices. -/
theorem Outcome.moves {input : Option Input} {x : Except Fault Bool × Player}
    (h : p.Outcome input x) (hnext : x.2.OnScreen) :
    (takesAt (p, input) = false ∧ x.2.options = p.options ∧
      x.2.engine.session.index = p.engine.session.index) ∨
    (takesAt (p, input) = true ∧ x.2.options = [] ∧
      x.2.engine.session.index = p.engine.session.index) ∨
    (p.options = [] ∧ x.2.engine.session.index = p.engine.session.index + 1) := by
  cases h with
  | stays hpicks =>
    refine .inl ⟨?_, rfl, rfl⟩
    rcases input with _ | text | _
    · rfl
    · rw [takesAt_text]
      exact hpicks text rfl
    · rfl
  | takes hinput hnumber hoption htook _ hindex =>
    refine .inr (.inl ⟨?_, ?_, hindex⟩)
    · rw [hinput, takesAt_text]
      exact picks_of_option hnumber hoption
    · obtain ⟨shown, hcurrent, -, hnone, -⟩ := htook.told
      rw [options, hcurrent]
      exact congrArg (Option.getD · []) hnone
  | goesOn hoptions _ hindex => exact .inr (.inr ⟨hoptions, hindex⟩)
  | ends _ hidle =>
    have hactive := hnext.running.active
    rw [hidle] at hactive
    cases hactive

/-- A conversation that ends or goes on at a prompt was at a line without choices. -/
theorem Outcome.options_of_left {input : Option Input} {x : Except Fault Bool × Player}
    (h : p.Outcome input x) (hactive : p.engine.session.active = true)
    (hleft : x.2.engine.session.active = false ∨
      p.engine.session.index < x.2.engine.session.index) : p.options = [] := by
  cases h with
  | stays _ =>
    rcases hleft with hended | hlt
    · rw [hactive] at hended
      cases hended
    · exact absurd hlt (Int.lt_irrefl _)
  | takes _ _ _ _ hnext hindex =>
    rcases hleft with hended | hlt
    · rw [hnext.running.active] at hended
      cases hended
    · rw [hindex] at hlt
      exact absurd hlt (Int.lt_irrefl _)
  | goesOn hoptions _ _ => exact hoptions
  | ends hoptions _ => exact hoptions

namespace Course

theorem onScreen (h : Course p all s) : p.OnScreen := by
  cases h with
  | last here _ => exact here
  | more here _ _ => exact here

theorem onScreen_of_mem (h : Course p all s) : ∀ x ∈ all, x.1.OnScreen := by
  induction h with
  | last here _ =>
    intro x hx
    obtain rfl := List.mem_singleton.mp hx
    exact here
  | more here _ _ ih =>
    intro x hx
    rcases List.mem_cons.mp hx with rfl | hx
    · exact here
    · exact ih x hx

theorem exists_head (h : Course p all s) : ∃ input, (p, input) ∈ all := by
  cases h with
  | last _ _ => exact ⟨_, List.mem_cons_self⟩
  | more _ _ _ => exact ⟨_, List.mem_cons_self⟩

theorem index_le (h : Course p all s) : ∀ x ∈ all, p.engine.session.index ≤ placeAt x := by
  induction h with
  | last _ _ =>
    intro x hx
    obtain rfl := List.mem_singleton.mp hx
    exact Int.le_refl _
  | more _ outcome rest ih =>
    intro x hx
    rcases List.mem_cons.mp hx with rfl | hx
    · exact Int.le_refl _
    · have hle := ih x hx
      rcases outcome.moves rest.onScreen with ⟨-, -, hindex⟩ | ⟨-, -, hindex⟩ | ⟨-, hindex⟩ <;>
        omega

theorem pairwise_placeAt (h : Course p all s) : (all.map placeAt).Pairwise (· ≤ ·) := by
  induction h with
  | last _ _ => exact List.pairwise_singleton _ _
  | more here outcome rest ih =>
    rw [List.map_cons, List.pairwise_cons]
    refine ⟨?_, ih⟩
    intro place hplace
    obtain ⟨x, hx, rfl⟩ := List.mem_map.mp hplace
    exact (Course.more here outcome rest).index_le x (List.mem_cons_of_mem _ hx)

theorem options_of_no_options (h : Course p all s) (hoptions : p.options = []) :
    ∀ x ∈ all, placeAt x = p.engine.session.index → x.1.options = [] := by
  induction h with
  | last _ _ =>
    intro x hx _
    obtain rfl := List.mem_singleton.mp hx
    exact hoptions
  | more _ outcome rest ih =>
    intro x hx hplace
    rcases List.mem_cons.mp hx with rfl | hx
    · exact hoptions
    · rcases outcome.moves rest.onScreen with ⟨-, hsame, hindex⟩ | ⟨-, hnone, hindex⟩ |
        ⟨-, hindex⟩
      · exact ih (hsame.trans hoptions) x hx (hplace.trans hindex.symm)
      · exact ih hnone x hx (hplace.trans hindex.symm)
      · have hle := rest.index_le x hx
        omega

theorem takenAt_of_no_options (h : Course p all s) (hoptions : p.options = []) :
    takenAt p.engine.session.index all = 0 := by
  unfold takenAt
  rw [List.countP_eq_zero]
  intro x hx htakes
  rw [Bool.and_eq_true] at htakes
  obtain ⟨hplace, htakes⟩ := htakes
  have hnone := h.options_of_no_options hoptions x hx (eq_of_beq hplace)
  rw [takesAt_of_no_options hnone] at htakes
  cases htakes

end Course

theorem takenAt_cons_of_not_takesAt {x : Player × Option Input} (h : takesAt x = false)
    (place : Int) (all : List (Player × Option Input)) :
    takenAt place (x :: all) = takenAt place all := by
  simp [takenAt, h]

theorem takenAt_cons_of_ne {x : Player × Option Input} {place : Int} (h : placeAt x ≠ place)
    (all : List (Player × Option Input)) : takenAt place (x :: all) = takenAt place all := by
  simp [takenAt, h]

theorem takenAt_cons_self {x : Player × Option Input} (h : takesAt x = true)
    (all : List (Player × Option Input)) :
    takenAt (placeAt x) (x :: all) = takenAt (placeAt x) all + 1 := by
  simp [takenAt, h]

namespace Course

theorem takenAt_le_one (h : Course p all s) (place : Int) : takenAt place all ≤ 1 := by
  induction h with
  | last _ _ => exact List.countP_le_length
  | @more p input x all s _ outcome rest ih =>
    rcases outcome.moves rest.onScreen with ⟨hstays, -, -⟩ | ⟨htakes, hnone, hindex⟩ |
      ⟨hoptions, -⟩
    · rw [takenAt_cons_of_not_takesAt hstays]
      exact ih
    · by_cases hplace : placeAt (p, input) = place
      · have hrest := rest.takenAt_of_no_options hnone
        rw [hindex] at hrest
        rw [← hplace, takenAt_cons_self htakes]
        exact Nat.le_of_eq (congrArg (· + 1) hrest)
      · rw [takenAt_cons_of_ne hplace]
        exact ih
    · rw [takenAt_cons_of_not_takesAt (takesAt_of_no_options hoptions)]
      exact ih

theorem takenAt_of_left (h : Course p all s) : ∀ x ∈ all, x.1.options ≠ [] →
    ((∃ y ∈ all, placeAt x < placeAt y) ∨ s.active = false ∨ placeAt x < s.index) →
      takenAt (placeAt x) all = 1 := by
  induction h with
  | last here outcome =>
    intro x hx hoptions hleft
    obtain rfl := List.mem_singleton.mp hx
    rcases hleft with ⟨y, hy, hlt⟩ | hleft
    · obtain rfl := List.mem_singleton.mp hy
      exact absurd hlt (Int.lt_irrefl _)
    · exact absurd (outcome.options_of_left here.running.active hleft) hoptions
  | @more p input x all s here outcome rest ih =>
    intro z hz hoptions hleft
    -- What the conversation leaves a line for comes after its own first prompt.
    have hlater : (∃ y ∈ all, placeAt z < placeAt y) ∨ s.active = false ∨ placeAt z < s.index := by
      refine hleft.imp_left ?_
      rintro ⟨y, hy, hlt⟩
      rcases List.mem_cons.mp hy with rfl | hy
      · have hle := (Course.more here outcome rest).index_le z hz
        exact absurd hlt (Int.not_lt.mpr hle)
      · exact ⟨y, hy, hlt⟩
    rcases outcome.moves rest.onScreen with ⟨hstays, hsame, hindex⟩ | ⟨htakes, hnone, hindex⟩ |
      ⟨hnone, hindex⟩
    · rw [takenAt_cons_of_not_takesAt hstays]
      rcases List.mem_cons.mp hz with rfl | hz
      · obtain ⟨input', hhead⟩ := rest.exists_head
        have hplace : placeAt (x.2, input') = placeAt (p, input) := hindex
        rw [← hplace] at hlater ⊢
        exact ih _ hhead (hsame.trans_ne hoptions) hlater
      · exact ih z hz hoptions hlater
    · have hanswered := rest.takenAt_of_no_options hnone
      rw [hindex] at hanswered
      rcases List.mem_cons.mp hz with rfl | hz
      · rw [takenAt_cons_self htakes]
        exact congrArg (· + 1) hanswered
      · have hne : placeAt (p, input) ≠ placeAt z := by
          intro hplace
          exact hoptions (rest.options_of_no_options hnone z hz (hplace.symm.trans hindex.symm))
        rw [takenAt_cons_of_ne hne]
        exact ih z hz hoptions hlater
    · rw [takenAt_cons_of_not_takesAt (takesAt_of_no_options hnone)]
      rcases List.mem_cons.mp hz with rfl | hz
      · exact absurd hnone hoptions
      · exact ih z hz hoptions hlater

end Course

theorem prompts_of_ended (h : p.engine.session.active = false) (inputs : List Input) :
    p.prompts inputs = [] := by
  unfold prompts
  rw [h]
  rfl

theorem playOn_of_ended (h : p.engine.session.active = false) (inputs : List Input) :
    p.playOn inputs = (.ok (), p) := by
  unfold playOn
  rw [h]
  rfl

theorem prompts_nil (h : p.engine.session.active = true) : p.prompts [] = [(p, none)] := by
  unfold prompts
  rw [h]
  rfl

theorem prompts_cons (h : p.engine.session.active = true) (input : Input) (rest : List Input) :
    p.prompts (input :: rest) = (p, some input) :: match p.step (some input) with
      | (.ok true, p) => p.prompts rest
      | _ => [] := by
  rw [prompts, h]
  rfl

theorem playOn_nil (h : p.engine.session.active = true) :
    p.playOn [] = (.ok (), p.ask.abandon) := by
  unfold playOn
  rw [h]
  rfl

theorem playOn_cons (h : p.engine.session.active = true) (input : Input) (rest : List Input) :
    p.playOn (input :: rest) = match p.step (some input) with
      | (.error fault, p) => (.error fault, p)
      | (.ok true, p) => p.playOn rest
      | (.ok false, p) => (.ok (), p.abandon) := by
  rw [playOn, h]
  rfl

/-- What is on screen after a prompt is a conversation, or there is none any more. -/
theorem Outcome.next {input : Option Input} {x : Except Fault Bool × Player}
    (h : p.Outcome input x) (here : p.OnScreen) :
    x.2.OnScreen ∨ x.2.engine.session.active = false := by
  cases h with
  | stays _ => exact .inl ⟨here.view, here.texts, here.running, here.lines, here.current⟩
  | takes _ _ _ _ next _ => exact .inl next
  | goesOn _ next _ => exact .inl next
  | ends _ idle =>
    right
    rw [idle]
    rfl

theorem course_prompts (h : p.OnScreen) (inputs : List Input) :
    Course p (p.prompts inputs) (p.playOn inputs).2.engine.session := by
  induction inputs generalizing p with
  | nil =>
    rw [prompts_nil h.running.active, playOn_nil h.running.active]
    exact .last h (h.step none)
  | cons input rest ih =>
    have houtcome := h.step (some input)
    have hlast := Course.last h houtcome
    have hnext := houtcome.next h
    rw [prompts_cons h.running.active, playOn_cons h.running.active]
    generalize hx : p.step (some input) = x at houtcome hlast hnext
    obtain ⟨r, p'⟩ := x
    cases r with
    | error fault => exact hlast
    | ok goes =>
      cases goes with
      | false => exact hlast
      | true =>
        dsimp only
        rcases hnext with hnext | hended
        · exact .more h houtcome (ih hnext)
        · rw [prompts_of_ended hended, playOn_of_ended hended]
          exact hlast

theorem world_of_mem_prompts (inputs : List Input) :
    ∀ x ∈ p.prompts inputs, x.1.world = p.world := by
  induction inputs generalizing p with
  | nil =>
    intro x hx
    cases hactive : p.engine.session.active with
    | false =>
      rw [prompts_of_ended hactive] at hx
      cases hx
    | true =>
      rw [prompts_nil hactive] at hx
      obtain rfl := List.mem_singleton.mp hx
      rfl
  | cons input rest ih =>
    intro x hx
    cases hactive : p.engine.session.active with
    | false =>
      rw [prompts_of_ended hactive] at hx
      cases hx
    | true =>
      obtain ⟨engine, screen, rows, hstep⟩ := p.exists_step (some input)
      have hworld : (p.step (some input)).2.world = p.world := by rw [hstep]
      rw [prompts_cons hactive] at hx
      rcases List.mem_cons.mp hx with rfl | hx
      · rfl
      · generalize p.step (some input) = y at hx hworld
        obtain ⟨r, p'⟩ := y
        split at hx
        · rename_i heq
          cases heq
          exact (ih x hx).trans hworld
        · cases hx

def promptTexts (outputs : List Output) : List String := outputs.filterMap Output.prompt?

theorem promptTexts_append_rows (outputs : List Output) (rows : List String) :
    promptTexts (outputs ++ rows.map Output.row) = promptTexts outputs := by
  rw [promptTexts, List.filterMap_append, prompts_rows, List.append_nil]
  rfl

theorem promptTexts_step (p : Player) (input : Option Input) :
    promptTexts (p.step input).2.outputs = promptTexts p.outputs ++ [p.promptText] := by
  obtain ⟨engine, screen, rows, hstep⟩ := p.exists_step input
  rw [hstep, List.append_cons, promptTexts_append_rows, promptTexts, List.filterMap_append]
  rfl

theorem promptTexts_playOn (p : Player) (inputs : List Input) :
    promptTexts (p.playOn inputs).2.outputs =
      promptTexts p.outputs ++ (p.prompts inputs).map (·.1.promptText) := by
  induction inputs generalizing p with
  | nil =>
    cases hactive : p.engine.session.active with
    | false => rw [prompts_of_ended hactive, playOn_of_ended hactive, List.map_nil, List.append_nil]
    | true =>
      rw [prompts_nil hactive, playOn_nil hactive]
      exact (promptTexts_append_rows p.ask.outputs [_]).trans (promptTexts_step p none)
  | cons input rest ih =>
    cases hactive : p.engine.session.active with
    | false => rw [prompts_of_ended hactive, playOn_of_ended hactive, List.map_nil, List.append_nil]
    | true =>
      have hstep := promptTexts_step p (some input)
      rw [prompts_cons hactive, playOn_cons hactive]
      generalize p.step (some input) = x at hstep
      obtain ⟨r, p'⟩ := x
      cases r with
      | error fault => exact hstep
      | ok goes =>
        cases goes with
        | false => exact (promptTexts_append_rows p'.outputs [_]).trans hstep
        | true => exact (ih p').trans (by rw [hstep, List.append_assoc]; rfl)

/-- A beginning prompts for nothing, and without a conversation the player does not go on. -/
theorem begin_cases (p : Player) (npcId : String) (npcName : Json) :
    (p.begin npcId npcName).2.world = p.world ∧
      promptTexts (p.begin npcId npcName).2.outputs = promptTexts p.outputs ∧
      ((p.begin npcId npcName).1 = .ok true ∨
        (p.begin npcId npcName).2.engine.session.active = false ∧
          (p.begin npcId npcName).1 ≠ .ok true) := by
  obtain ⟨rows, hrows⟩ :=
    showEvents_eq { p with engine := p.engine.interact p.world npcId npcName }
  have htexts := promptTexts_append_rows p.outputs rows
  unfold begin
  dsimp only
  generalize { p with engine := p.engine.interact p.world npcId npcName }.showEvents = q at hrows
  have hquiet : promptTexts q.outputs = promptTexts p.outputs := by
    rw [hrows]
    exact htexts
  have hworld : q.world = p.world := by rw [hrows]
  cases hactive : q.engine.session.active with
  | true => exact ⟨hworld, hquiet, .inl rfl⟩
  | false =>
    refine ⟨hworld, (promptTexts_append_rows q.outputs _).trans hquiet, .inr ⟨hactive, ?_⟩⟩
    cases (q.write [silenceRow npcId]).1 with
    | error fault => exact nofun
    | ok _ => exact nofun

/-- A run has the prompts of the conversation that it began, and leaves the session as the
conversation left it. -/
theorem run_eq (p : Player) (npcId : String) (npcName : Json) (inputs : List Input)
    (hnew : p.outputs = []) :
    promptTexts (p.run npcId npcName inputs).2.outputs =
        ((p.begin npcId npcName).2.prompts inputs).map (·.1.promptText) ∧
      (p.run npcId npcName inputs).2.engine.session =
        ((p.begin npcId npcName).2.playOn inputs).2.engine.session := by
  obtain ⟨-, hbegun, hgoes⟩ := p.begin_cases npcId npcName
  have hprompts := promptTexts_playOn (p.begin npcId npcName).2 inputs
  rw [hbegun, hnew] at hprompts
  unfold run
  generalize p.begin npcId npcName = x at hbegun hgoes hprompts
  obtain ⟨r, q⟩ := x
  rcases hgoes with rfl | ⟨hended, hnot⟩
  · dsimp only at hprompts ⊢
    generalize q.playOn inputs = y at hprompts
    obtain ⟨r', q'⟩ := y
    cases r' with
    | error fault => exact ⟨hprompts, rfl⟩
    | ok _ => exact ⟨(promptTexts_append_rows q'.outputs _).trans hprompts, rfl⟩
  · dsimp only at hended hbegun hnot ⊢
    rw [prompts_of_ended hended, playOn_of_ended hended]
    rw [hnew] at hbegun
    cases r with
    | error fault => exact ⟨hbegun, rfl⟩
    | ok goes =>
      cases goes with
      | false => exact ⟨hbegun, rfl⟩
      | true => exact absurd rfl hnot

end Parley.Terminal.Player
