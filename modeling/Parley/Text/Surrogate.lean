/-!
# Surrogates

A text is a list of code points. Nearly all of them are characters, but a surrogate is none, and a
JSON text can name one that stands alone. So a text carries its code points in characters: a
character carries itself, and a surrogate is carried by its stand-in, one of 2048 private-use
characters of plane fifteen. One of these that is meant itself follows a mark. The code points of a
text are read back as they were.
-/

namespace Parley.Text

def isHighSurrogate (n : Nat) : Bool := 0xD800 ≤ n && n < 0xDC00

def isLowSurrogate (n : Nat) : Bool := 0xDC00 ≤ n && n < 0xE000

def isSurrogate (n : Nat) : Bool := 0xD800 ≤ n && n < 0xE000

/-- The code point of a high surrogate and a low one. -/
def joinSurrogates (high low : Nat) : Nat := 0x10000 + (high - 0xD800) * 0x400 + (low - 0xDC00)

def codePointLimit : Nat := 0x110000

def standInOffset : Nat := 0xF0000

/-- Whether a character carries a surrogate, unless it follows the mark. -/
def isStandIn (c : Char) : Bool := isSurrogate (c.toNat - standInOffset)

/-- The mark before a character that carries itself. -/
def selfMark : Char := Char.ofNat 0xFD7FF

/-- Whether a character carries itself only after the mark. -/
def isReserved (c : Char) : Bool := c == selfMark || isStandIn c

def carry (n : Nat) : List Char :=
  if isSurrogate n then [Char.ofNat (n + standInOffset)]
  else
    let c := Char.ofNat n
    if isReserved c then [selfMark, c] else [c]

def ofCodePoints (ns : List Nat) : List Char := ns.flatMap carry

def ofChars (cs : List Char) : List Char := ofCodePoints (cs.map Char.toNat)

/-- A text that carries what a string of characters shows. -/
def carried (s : String) : String := String.ofList (ofChars s.toList)

def codePoints : List Char → List Nat
  | [] => []
  | [c] => [code c]
  | c :: d :: rest =>
    if c == selfMark then d.toNat :: codePoints rest else code c :: codePoints (d :: rest)
where
  /-- The code point that a character carries without the mark. -/
  code (c : Char) : Nat := if isStandIn c then c.toNat - standInOffset else c.toNat

/-- How many code points a text has. -/
def length (cs : List Char) : Nat := (codePoints cs).length

/-- The character that is shown for a code point: a surrogate has none of its own. -/
def shownChar (n : Nat) : Char := if isSurrogate n then '\ufffd' else Char.ofNat n

/-- Two surrogates that belong together as the one code point that they stand for. -/
def joinPairs : List Nat → List Nat
  | high :: low :: rest =>
    if isHighSurrogate high && isLowSurrogate low then joinSurrogates high low :: joinPairs rest
    else high :: joinPairs (low :: rest)
  | ns => ns

def shown (s : String) : String :=
  String.ofList ((joinPairs (codePoints s.toList)).map shownChar)

theorem toNat_ofNat {n : Nat} (h : n < codePointLimit) (hs : isSurrogate n = false) :
    (Char.ofNat n).toNat = n := by
  have hv : n.isValidChar := by
    simp only [isSurrogate, Bool.and_eq_false_iff, decide_eq_false_iff_not] at hs
    simp only [codePointLimit] at h
    rw [Nat.isValidChar]
    omega
  rw [Char.ofNat, dif_pos hv]
  rfl

theorem codePoints_selfMark (c : Char) (rest : List Char) :
    codePoints (selfMark :: c :: rest) = c.toNat :: codePoints rest := by
  simp [codePoints]

theorem codePoints_cons {c : Char} (h : c ≠ selfMark) (rest : List Char) :
    codePoints (c :: rest) = codePoints.code c :: codePoints rest := by
  cases rest with
  | nil => rfl
  | cons d rest => simp [codePoints, h]

theorem codePoints_carry_append {n : Nat} (h : n < codePointLimit) (rest : List Char) :
    codePoints (carry n ++ rest) = n :: codePoints rest := by
  cases hs : isSurrogate n with
  | true =>
    have hb := hs
    simp only [isSurrogate, Bool.and_eq_true, decide_eq_true_eq] at hb
    have hl : n + standInOffset < codePointLimit := by
      simp only [standInOffset, codePointLimit]
      omega
    have hu : ¬n + standInOffset < 0xE000 := by
      simp only [standInOffset]
      omega
    have hn := toNat_ofNat hl (by simp [isSurrogate, hu])
    have hm : Char.ofNat (n + standInOffset) ≠ selfMark := by
      intro e
      have he := congrArg Char.toNat e
      rw [hn] at he
      have : selfMark.toNat = 0xFD7FF := rfl
      simp only [standInOffset] at he
      omega
    simp only [carry, hs, if_true, List.cons_append, List.nil_append]
    rw [codePoints_cons hm]
    simp [codePoints.code, isStandIn, hn, hs]
  | false =>
    have hn := toNat_ofNat h hs
    cases hr : isReserved (Char.ofNat n) with
    | true =>
      simp only [carry, hs, hr, if_true, Bool.false_eq_true, if_false, List.cons_append,
        List.nil_append]
      rw [codePoints_selfMark, hn]
    | false =>
      have hr' := hr
      simp only [isReserved, Bool.or_eq_false_iff, beq_eq_false_iff_ne, ne_eq] at hr'
      simp only [carry, hs, hr, Bool.false_eq_true, if_false, List.cons_append, List.nil_append]
      rw [codePoints_cons hr'.1]
      simp [codePoints.code, hr'.2, hn]

theorem codePoints_ofCodePoints {ns : List Nat} (h : ∀ n ∈ ns, n < codePointLimit) :
    codePoints (ofCodePoints ns) = ns := by
  induction ns with
  | nil => rfl
  | cons n rest ih =>
    have hn := h n List.mem_cons_self
    have hr := ih fun m hm => h m (List.mem_cons_of_mem n hm)
    simp only [ofCodePoints, List.flatMap_cons] at hr ⊢
    rw [codePoints_carry_append hn, hr]

theorem toNat_lt_codePointLimit (c : Char) : c.toNat < codePointLimit := by
  have hv : c.toNat.isValidChar := c.valid
  simp only [Nat.isValidChar] at hv
  simp only [codePointLimit]
  omega

theorem isSurrogate_toNat (c : Char) : isSurrogate c.toNat = false := by
  have hv : c.toNat.isValidChar := c.valid
  simp only [Nat.isValidChar] at hv
  simp only [isSurrogate, Bool.and_eq_false_iff, decide_eq_false_iff_not]
  omega

end Parley.Text
