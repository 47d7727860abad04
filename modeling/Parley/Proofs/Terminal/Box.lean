import Parley.Terminal.Box
import Parley.Proofs.Terminal.Wrap
import Parley.Proofs.Text.Carries
import Parley.Proofs.Text.OneLine
import Parley.Proofs.Text.Split

/-!
# Boxes are rectangles

The rows of a box are equally long but for the indent and the codes of the colour, and the box is no
wider than the terminal allows or the name of the speaker demands. All of the text that is no white
space stands in it, in its order.
-/

namespace Parley.Terminal

open Text

theorem mem_textRows {width : Nat} {ns row : List Nat} (h : row ∈ textRows width ns) :
    row = [] ∨ ∃ p ∈ pieces 10 ns, row ∈ wrap width p := by
  obtain ⟨p, hp, hrow⟩ := List.mem_flatMap.mp h
  split at hrow
  · exact .inl (List.mem_singleton.mp hrow)
  · exact .inr ⟨p, hp, hrow⟩

theorem length_le_of_mem_textRows {width : Nat} {ns row : List Nat} (h : row ∈ textRows width ns) :
    row.length ≤ width := by
  rcases mem_textRows h with rfl | ⟨p, -, hrow⟩
  · exact Nat.zero_le width
  · exact length_le_of_mem_wrap hrow

theorem mem_of_mem_textRows {width n : Nat} {ns row : List Nat} (hwidth : 0 < width)
    (hrow : row ∈ textRows width ns) (hn : n ∈ row) : n = space ∨ n ∈ ns ∧ n ≠ 10 := by
  rcases mem_textRows hrow with rfl | ⟨p, hp, hrow⟩
  · cases hn
  · exact (mem_of_mem_wrap hwidth hrow hn).imp_right (mem_of_mem_piece hp)

theorem codes_of_mem_textRows {width : Nat} {cs : List Char} {row : List Nat} (hwidth : 0 < width)
    (hrow : row ∈ textRows width (codePoints cs)) :
    (∀ n ∈ row, n < codePointLimit) ∧ 10 ∉ row := by
  constructor
  · intro n hn
    rcases mem_of_mem_textRows hwidth hrow hn with rfl | ⟨hn, -⟩
    · decide
    · exact lt_of_mem_codePoints hn
  · intro hlineFeed
    rcases mem_of_mem_textRows hwidth hrow hlineFeed with hspace | ⟨-, hne⟩
    · exact absurd hspace (by decide)
    · exact hne rfl

theorem ink_intercalate (ps : List (List Nat)) : ink ([10].intercalate ps) = ink ps.flatten := by
  have hlineFeed : ink [10] = [] := by decide
  induction ps with
  | nil => rfl
  | cons p ps ih =>
    cases ps with
    | nil => simp
    | cons q qs =>
      rw [List.intercalate_cons_cons, List.flatten_cons]
      simp only [ink_append, ih, hlineFeed, List.append_nil]

theorem ink_textRows {width : Nat} (hwidth : 0 < width) (ns : List Nat) :
    ink (textRows width ns).flatten = ink ns := by
  have hparagraphs (ps : List (List Nat)) :
      ink (ps.flatMap fun p => if p.isEmpty then [[]] else wrap width p).flatten =
        ink ps.flatten := by
    induction ps with
    | nil => rfl
    | cons p ps ih =>
      rw [List.flatMap_cons, List.flatten_append, List.flatten_cons, ink_append, ink_append, ih]
      congr 1
      split
      · rename_i hempty
        rw [List.isEmpty_iff.mp hempty]
        rfl
      · rw [(thinned_wrap hwidth p).ink_eq, ink_normalizeBlanks]
  have hpieces : textRows width ns =
      (pieces 10 ns).flatMap fun p => if p.isEmpty then [[]] else wrap width p := rfl
  rw [hpieces, hparagraphs, ← ink_intercalate, (pieces_eq_iff.mp rfl).2.2]

theorem twenty_le_innerWidth (maxWidth columns : Int) : 20 ≤ innerWidth maxWidth columns := by
  unfold innerWidth leastWidth
  omega

theorem foldl_max_le_iff {ns : List Nat} {a b : Nat} :
    ns.foldl max a ≤ b ↔ a ≤ b ∧ ∀ n ∈ ns, n ≤ b := by
  induction ns generalizing a with
  | nil => simp
  | cons n ns ih =>
    rw [List.foldl_cons, ih, Nat.max_le, List.forall_mem_cons, and_assoc]

theorem boxWidth_le {rows : List (List Nat)} {limit n : Nat} (hlimit : 20 ≤ limit)
    (h : ∀ row ∈ rows, row.length ≤ limit) : boxWidth rows n ≤ max limit (n + 2) := by
  have hwidest : (rows.map List.length).foldl max 0 ≤ limit :=
    foldl_max_le_iff.mpr ⟨Nat.zero_le limit, by simpa using h⟩
  unfold boxWidth
  dsimp only
  split
  · have hleast : leastWidth.toNat = 20 := rfl
    omega
  · omega

theorem length_le_boxWidth {rows : List (List Nat)} {row : List Nat} (h : row ∈ rows) (n : Nat) :
    row.length ≤ boxWidth rows n := by
  have hwidest : row.length ≤ (rows.map List.length).foldl max 0 :=
    (foldl_max_le_iff.mp (Nat.le_refl _)).2 _ (List.mem_map_of_mem h)
  unfold boxWidth
  dsimp only
  split
  · cases h
  · omega

theorem lt_boxWidth (rows : List (List Nat)) (n : Nat) : n + 1 < boxWidth rows n := by
  unfold boxWidth
  dsimp only
  omega

/-- A part of a row: of the frame, which has a colour, or of what stands in it. -/
inductive Stretch where
  | frame (text : String)
  | inside (text : String)

namespace Stretch

def text : Stretch → String
  | frame s => s
  | inside s => s

def written (color : String) : Stretch → String
  | frame s => color ++ s ++ Style.reset
  | inside s => s

end Stretch

/-- What is seen of a row: all but the indent and the codes of the colour. -/
def seen (row : List Stretch) : String := String.join (row.map Stretch.text)

def written (color : String) (row : List Stretch) : String :=
  "  " ++ String.join (row.map (Stretch.written color))

/-- The rows of a box of some width around rows of text. -/
def framedRows (speaker : String) (width : Nat) (content : List String) : List (List Stretch) :=
  [.frame ("╭─ " ++ speaker ++ " " ++ rule (width - Text.length speaker.toList - 1) ++ "╮")] ::
    content.map (fun cells => [.frame "│", .inside (" " ++ cells ++ " "), .frame "│"]) ++
    [[.frame ("╰" ++ rule (width + 2) ++ "╯")]]

/-- A row of text as it stands in a box. -/
def cells (width : Nat) (row : List Nat) : String :=
  String.ofList (ofCodePoints (padRight width space row))

def boxContent (rows : List (List Nat)) (speaker : String) : List String :=
  rows.map (cells (boxWidth rows (Text.length speaker.toList)))

theorem boxRows_eq (rows : List (List Nat)) (speaker color : String) :
    boxRows rows speaker color (Text.length speaker.toList) =
      (framedRows speaker (boxWidth rows (Text.length speaker.toList))
        (boxContent rows speaker)).map (written color) := by
  simp [boxRows, framedRows, boxContent, written, Stretch.written, contentRow, cells,
    String.append_assoc]

theorem carries_rule (width : Nat) :
    Carries (rule width) ∧ Text.length (rule width).toList = width := by
  have hplain : (rule width).toList.any isReserved = false := by
    have hdash : isReserved '─' = false := by decide
    rw [rule, String.toList_ofList, List.any_replicate, hdash, ite_self]
  refine ⟨carries_of_unreserved hplain, ?_⟩
  rw [Text.length, codePoints_of_unreserved hplain, List.length_map, rule, String.toList_ofList,
    List.length_replicate]

section

variable {row : List Nat}

theorem mem_padRight {width n : Nat} (h : n ∈ padRight width space row) : n = space ∨ n ∈ row := by
  rcases List.mem_append.mp h with h | h
  · exact .inr h
  · exact .inl (List.eq_of_mem_replicate h)

theorem carries_cells (width : Nat) (hrow : ∀ n ∈ row, n < codePointLimit) :
    Carries (cells width row) ∧ codePoints (cells width row).toList = padRight width space row := by
  have hpadded : ∀ n ∈ padRight width space row, n < codePointLimit := by
    intro n hn
    rcases mem_padRight hn with rfl | hn
    · decide
    · exact hrow n hn
  refine ⟨carries_ofCodePoints hpadded, ?_⟩
  rw [cells, String.toList_ofList, codePoints_ofCodePoints hpadded]

theorem length_cells {width : Nat} (hrow : ∀ n ∈ row, n < codePointLimit)
    (hfits : row.length ≤ width) : Text.length (cells width row).toList = width := by
  rw [Text.length, (carries_cells width hrow).2, length_padRight space hfits]

theorem ink_cells (width : Nat) (hrow : ∀ n ∈ row, n < codePointLimit) :
    ink (codePoints (cells width row).toList) = ink row := by
  rw [(carries_cells width hrow).2, padRight, ink_append, ink_replicate_space, List.append_nil]

theorem ink_content (width : Nat) {rows : List (List Nat)}
    (hrows : ∀ row ∈ rows, ∀ n ∈ row, n < codePointLimit) :
    (rows.map (cells width)).flatMap (fun s => ink (codePoints s.toList)) = ink rows.flatten := by
  induction rows with
  | nil => rfl
  | cons row rows ih =>
    obtain ⟨hrow, hrows⟩ := List.forall_mem_cons.mp hrows
    rw [List.map_cons, List.flatMap_cons, List.flatten_cons, ink_append, ink_cells width hrow,
      ih hrows]

theorem oneLine_cells (width : Nat) (hrow : 10 ∉ row) : OneLine (cells width row) := by
  apply oneLine_ofList.mpr
  apply lineFeed_not_mem_ofCodePoints
  intro hmem
  rcases mem_padRight hmem with hspace | hmem
  · exact absurd hspace (by decide)
  · exact hrow hmem

end

theorem seen_frame (s : String) : seen [.frame s] = s := String.empty_append

theorem seen_sides (s : String) :
    seen [.frame "│", .inside (" " ++ s ++ " "), .frame "│"] = "│" ++ (" " ++ s ++ " ") ++ "│" := by
  simp [seen, Stretch.text, String.append_assoc]

theorem length_seen {speaker : String} {width : Nat} {content : List String}
    (hspeaker : Carries speaker) (hwidth : Text.length speaker.toList + 1 < width)
    (hcontent : ∀ s ∈ content, Carries s ∧ Text.length s.toList = width) :
    ∀ row ∈ framedRows speaker width content, Text.length (seen row).toList = width + 4 := by
  have hgap : Carries " " := carries_of_unreserved (by decide)
  have hone : Text.length " ".toList = 1 := by decide
  intro row hrow
  rw [framedRows, List.mem_append, List.mem_cons, List.mem_map, List.mem_singleton] at hrow
  rcases hrow with (rfl | ⟨s, hs, rfl⟩) | rfl
  · obtain ⟨hrule, hlength⟩ := carries_rule (width - Text.length speaker.toList - 1)
    have hcorner : Carries "╭─ " := carries_of_unreserved (by decide)
    have hends : Text.length "╭─ ".toList = 3 ∧ Text.length "╮".toList = 1 := by decide
    rw [seen_frame, ((hcorner.append hspeaker).append hgap).length_between hrule,
      hcorner.length_between hspeaker, hlength]
    omega
  · obtain ⟨hs, hlength⟩ := hcontent s hs
    have hside : Carries "│" := carries_of_unreserved (by decide)
    have hends : Text.length "│".toList = 1 := by decide
    rw [seen_sides, hside.length_between ((hgap.append hs).append hgap),
      hgap.length_between hs, hlength]
    omega
  · obtain ⟨hrule, hlength⟩ := carries_rule (width + 2)
    have hcorner : Carries "╰" := carries_of_unreserved (by decide)
    have hends : Text.length "╰".toList = 1 ∧ Text.length "╯".toList = 1 := by decide
    rw [seen_frame, hcorner.length_between hrule, hlength]
    omega

section

variable {color : String}

theorem oneLine_join {ss : List String} (h : ∀ s ∈ ss, OneLine s) : OneLine (String.join ss) := by
  intro hmem
  rw [String.toList_join, List.mem_flatMap] at hmem
  obtain ⟨s, hs, hlineFeed⟩ := hmem
  exact h s hs hlineFeed

/-- The codes of a colour have no line feed, so a row has none if nothing in it has one. -/
theorem oneLine_written (hcolor : OneLine color) {row : List Stretch}
    (h : ∀ s ∈ row, OneLine s.text) : OneLine (written color row) := by
  rw [written, oneLine_append]
  refine ⟨by decide, oneLine_join ?_⟩
  rw [List.forall_mem_map]
  intro s hs
  have htext := h s hs
  cases s with
  | inside s => exact htext
  | frame s =>
    rw [Stretch.written, oneLine_append, oneLine_append]
    exact ⟨⟨hcolor, htext⟩, by decide⟩

theorem oneLine_text {speaker : String} {width : Nat} {content : List String}
    (hspeaker : OneLine speaker) (hcontent : ∀ s ∈ content, OneLine s) :
    ∀ row ∈ framedRows speaker width content, ∀ s ∈ row, OneLine s.text := by
  have hrule (width : Nat) : OneLine (rule width) :=
    oneLine_ofList.mpr (lineFeed_not_mem_replicate (by decide) width)
  have hside : OneLine "│" := by decide
  have hgap : OneLine " " := by decide
  intro row hrow
  rw [framedRows, List.mem_append, List.mem_cons, List.mem_map, List.mem_singleton] at hrow
  rcases hrow with (rfl | ⟨s, hs, rfl⟩) | rfl
  · rw [List.forall_mem_singleton, Stretch.text]
    simp only [oneLine_append]
    exact ⟨⟨⟨⟨by decide, hspeaker⟩, hgap⟩, hrule _⟩, by decide⟩
  · simp only [List.forall_mem_cons, Stretch.text, oneLine_append]
    exact ⟨hside, ⟨⟨hgap, hcontent s hs⟩, hgap⟩, hside, List.forall_mem_nil _⟩
  · rw [List.forall_mem_singleton, Stretch.text]
    simp only [oneLine_append]
    exact ⟨⟨by decide, hrule _⟩, by decide⟩

end

/-- Rows of one line each, after a line feed, are the lines of the text that they make. -/
theorem pieces_of_rows {rows : List String} (hne : rows ≠ []) (h : ∀ row ∈ rows, OneLine row) :
    pieces '\n' ("\n" ++ "\n".intercalate rows).toList = [] :: rows.map String.toList := by
  obtain ⟨row, rest, rfl⟩ := List.exists_cons_of_ne_nil hne
  rw [pieces_eq_iff]
  refine ⟨List.cons_ne_nil _ _, ?_, ?_⟩
  · rw [List.forall_mem_cons, List.forall_mem_map]
    exact ⟨List.not_mem_nil, h⟩
  · rw [String.toList_append, String.toList_intercalate, List.map_cons,
      List.intercalate_cons_cons, List.nil_append]
    rfl

section

variable {rows : List (List Nat)} {speaker color : String}

theorem pieces_boxRows (hspeaker : OneLine speaker) (hcolor : OneLine color)
    (hrows : ∀ row ∈ rows, 10 ∉ row) :
    pieces '\n' ("\n" ++ "\n".intercalate
        (boxRows rows speaker color (Text.length speaker.toList))).toList =
      [] :: (framedRows speaker (boxWidth rows (Text.length speaker.toList))
        (boxContent rows speaker)).map (fun row => (written color row).toList) := by
  have hcontent : ∀ s ∈ boxContent rows speaker, OneLine s := by
    unfold boxContent
    rw [List.forall_mem_map]
    intro row hrow
    exact oneLine_cells _ (hrows row hrow)
  have hlines : ∀ row ∈ boxRows rows speaker color (Text.length speaker.toList),
      OneLine row := by
    rw [boxRows_eq, List.forall_mem_map]
    intro row hrow
    exact oneLine_written hcolor (oneLine_text hspeaker hcontent row hrow)
  rw [pieces_of_rows (by simp [boxRows]) hlines, boxRows_eq, List.map_map]
  rfl

theorem length_seen_boxRows (hspeaker : Carries speaker)
    (hrows : ∀ row ∈ rows, ∀ n ∈ row, n < codePointLimit) :
    ∀ row ∈ framedRows speaker (boxWidth rows (Text.length speaker.toList))
      (boxContent rows speaker),
      Text.length (seen row).toList = boxWidth rows (Text.length speaker.toList) + 4 := by
  apply length_seen hspeaker (lt_boxWidth rows _)
  unfold boxContent
  rw [List.forall_mem_map]
  intro row hrow
  exact ⟨(carries_cells _ (hrows row hrow)).1,
    length_cells (hrows row hrow) (length_le_boxWidth hrow _)⟩

end

/-- A box is rows of one length but for the indent and the codes of the colour, and these rows are its
lines after an empty one. It is no wider than the terminal allows or the name of the speaker demands,
and what stands between its sides is the text, white space apart. The name is a text that carries code
points, as texts from outside do. -/
theorem box_rectangle (text : String) {speaker : String} (color : String) (maxWidth columns : Int)
    (hcarries : Carries speaker) (hspeaker : OneLine speaker) :
    ∃ (output : String) (width : Nat) (content : List String),
      box text (.str speaker) color (.int maxWidth) columns = .ok output ∧
      output = "\n" ++ "\n".intercalate ((framedRows speaker width content).map (written color)) ∧
      (OneLine color → pieces '\n' output.toList =
        [] :: (framedRows speaker width content).map (fun row => (written color row).toList)) ∧
      (∀ row ∈ framedRows speaker width content, Text.length (seen row).toList = width + 4) ∧
      (width : Int) ≤
        max (max 20 (min maxWidth (columns - 8))) (Text.length speaker.toList + 2) ∧
      content.flatMap (fun s => ink (codePoints s.toList)) = ink (codePoints text.toList) := by
  have hleast := twenty_le_innerWidth maxWidth columns
  have hinner : 0 < innerWidth maxWidth columns := Nat.lt_of_lt_of_le (by decide) hleast
  -- One name for the rows, as the width of the box is taken from the rows that it shows.
  have hbox : ∃ rows, rows = textRows (innerWidth maxWidth columns) (codePoints text.toList) ∧
      box text (.str speaker) color (.int maxWidth) columns = .ok ("\n" ++ "\n".intercalate
        (boxRows rows speaker color (Text.length speaker.toList))) := ⟨_, rfl, rfl⟩
  obtain ⟨rows, hrows, hbox⟩ := hbox
  have hcodes : ∀ row ∈ rows, (∀ n ∈ row, n < codePointLimit) ∧ 10 ∉ row := by
    intro row hrow
    exact codes_of_mem_textRows hinner (hrows ▸ hrow)
  have hinside : ∀ row ∈ rows, row.length ≤ innerWidth maxWidth columns := by
    intro row hrow
    exact length_le_of_mem_textRows (hrows ▸ hrow)
  refine ⟨_, boxWidth rows (Text.length speaker.toList), boxContent rows speaker, hbox, ?_, ?_, ?_,
    ?_, ?_⟩
  · rw [boxRows_eq]
  · intro hcolor
    exact pieces_boxRows hspeaker hcolor fun row hrow => (hcodes row hrow).2
  · exact length_seen_boxRows hcarries fun row hrow => (hcodes row hrow).1
  · have hwidth := boxWidth_le (n := Text.length speaker.toList) hleast hinside
    unfold innerWidth leastWidth boxMargin at hwidth
    omega
  · rw [boxContent, ink_content _ fun row hrow => (hcodes row hrow).1, hrows, ink_textRows hinner]

/-- The box of a fisher who says more than fits a narrow terminal. -/
theorem box_rectangle_fisher :
    Carries "Old Fisher" ∧ OneLine "Old Fisher" ∧ OneLine Style.brightCyan.start ∧
      ∃ (output : String) (width : Nat) (content : List String),
        box "Mind the gap -- the\tbridge\n\nis low." (.str "Old Fisher") Style.brightCyan.start
          (.int 60) 12 = .ok output ∧
        pieces '\n' output.toList = [] :: (framedRows "Old Fisher" width content).map
          (fun row => (written Style.brightCyan.start row).toList) ∧
        (∀ row ∈ framedRows "Old Fisher" width content,
          Text.length (seen row).toList = width + 4) ∧
        (width : Int) ≤ max (max 20 (min 60 (12 - 8))) (Text.length "Old Fisher".toList + 2) ∧
        content.flatMap (fun s => ink (codePoints s.toList)) =
          ink (codePoints "Mind the gap -- the\tbridge\n\nis low.".toList) := by
  have hcarries : Carries "Old Fisher" := carries_of_unreserved (by decide)
  have hspeaker : OneLine "Old Fisher" := by decide
  have hcolor : OneLine Style.brightCyan.start := by decide
  obtain ⟨output, width, content, hbox, -, hlines, hsame, hwidth, hink⟩ :=
    box_rectangle "Mind the gap -- the\tbridge\n\nis low." Style.brightCyan.start 60 12 hcarries
      hspeaker
  exact ⟨hcarries, hspeaker, hcolor, output, width, content, hbox, hlines hcolor, hsame, hwidth,
    hink⟩

end Parley.Terminal
