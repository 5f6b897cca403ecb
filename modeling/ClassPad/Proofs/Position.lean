import Mathlib.Data.Nat.Count
import Mathlib.Data.Nat.Find
import ClassPad.Position

/-!
Points and positions. The position of a point is defined by a walk over the text; it is also what
one gets by counting: the line breaks that end at or before the point, and the UTF-16 units since
the last of them. Going back from the position of a point gives the point, unless it stands between
a carriage return and the line feed after it, where it gives the point before both.
-/

set_option autoImplicit false
set_option relaxedAutoImplicit false

namespace ClassPad.Text

/-- Whether a point stands between a carriage return and the line feed that follows it. -/
def insideBreak (text : List Char) : Nat → Prop
  | 0 => False
  | i + 1 => text[i]? = some '\r' ∧ text[i + 1]? = some '\n'

instance (text : List Char) (i : Nat) : Decidable (insideBreak text i) :=
  match i with
  | 0 => inferInstanceAs (Decidable False)
  | i + 1 => inferInstanceAs (Decidable (text[i]? = some '\r' ∧ text[i + 1]? = some '\n'))

/-- Whether a line break ends at a point: a line feed, or a carriage return that stands alone. -/
def breakEndsAt (text : List Char) : Nat → Bool
  | 0 => false
  | i + 1 => text[i]? = some '\n' || (text[i]? = some '\r' && text[i + 1]? != some '\n')

/-- The start of the line of a point: the last end of a line break that is not after it. -/
def lineStart (text : List Char) (point : Nat) : Nat :=
  Nat.findGreatest (fun j => breakEndsAt text j) point

/-- The position of a point by counting: the line breaks that end at or before it, and the UTF-16
units since the start of its line. -/
def countedPosition (text : List Char) (point : Nat) : Position where
  line := Nat.count (fun j => breakEndsAt text j) (point + 1)
  character := length16 ((text.take point).drop (lineStart text point))

@[simp] theorem length16_nil : length16 [] = 0 := rfl

private theorem length16_append_single (text : List Char) (c : Char) :
    length16 (text ++ [c]) = length16 text + units16 c := by
  simp only [length16, List.foldl_append, List.foldl_cons, List.foldl_nil]

/-! Line ends -/

/-- Only a carriage return looks at the character that follows, and only for a line feed. -/
theorem endsLine_congr {c : Char} {next other : Option Char}
    (h : c = '\r' → (next = some '\n' ↔ other = some '\n')) :
    endsLine c next = endsLine c other := by
  by_cases hc : c = '\r'
  · have hsame : (next != some '\n') = (other != some '\n') := by
      rw [Bool.eq_iff_iff, bne_iff_ne, bne_iff_ne, ne_eq, ne_eq, h hc]
    rw [endsLine, endsLine, hsame]
  · simp [endsLine, hc]

theorem stride_congr {c : Char} {next other : Option Char}
    (h : c = '\r' → (next = some '\n' ↔ other = some '\n')) :
    stride c next = stride c other := by
  rw [stride, stride, endsLine_congr h]

theorem endsLine_feed (next : Option Char) : endsLine '\n' next = true := by
  simp [endsLine]

theorem endsLine_lone_return {rest : List Char} (h : ∀ tail, rest = '\n' :: tail → False) :
    endsLine '\r' rest.head? = true := by
  have hnext : rest.head? ≠ some '\n' := by
    intro hhead
    obtain ⟨tail, htail⟩ := List.head?_eq_some_iff.mp hhead
    exact h tail htail
  simpa [endsLine] using hnext

theorem endsLine_of_not_break {c : Char} (hfeed : c ≠ '\n') (hreturn : c ≠ '\r')
    (next : Option Char) : endsLine c next = false := by
  simp [endsLine, hfeed, hreturn]

/-! The walk to a point -/

@[simp] theorem positionAt_zero (text : List Char) : positionAt text 0 = .zero := by
  cases text <;> rfl

@[simp] theorem positionAt_nil (i : Nat) : positionAt [] i = .zero := rfl

private theorem positionFrom_eq_advance (p : Position) (text : List Char) (i : Nat) :
    positionFrom p text i = p.advance (positionAt text i) := by
  induction text generalizing p i with
  | nil => simp [positionFrom]
  | cons c rest ih =>
    cases i with
    | zero => simp [positionFrom]
    | succ i =>
      change positionFrom (p.advance (stride c rest.head?)) rest i =
        p.advance (positionFrom (Position.zero.advance (stride c rest.head?)) rest i)
      rw [ih (p.advance _), ih (Position.zero.advance _), Position.zero_advance,
        Position.advance_assoc]

theorem positionAt_cons_succ (c : Char) (rest : List Char) (i : Nat) :
    positionAt (c :: rest) (i + 1) = (stride c rest.head?).advance (positionAt rest i) := by
  change positionFrom (Position.zero.advance (stride c rest.head?)) rest i = _
  rw [positionFrom_eq_advance, Position.zero_advance]

theorem positionAt_succ {text : List Char} {i : Nat} {c : Char} (hc : text[i]? = some c) :
    positionAt text (i + 1) = (positionAt text i).advance (stride c text[i + 1]?) := by
  induction text generalizing i with
  | nil => simp at hc
  | cons b rest ih =>
    cases i with
    | zero =>
      obtain rfl : b = c := by simpa using hc
      rw [positionAt_cons_succ]
      simp [List.head?_eq_getElem?]
    | succ i =>
      rw [positionAt_cons_succ, positionAt_cons_succ, ih (by simpa using hc),
        Position.advance_assoc]
      simp

theorem positionAt_of_length_le {text : List Char} {i : Nat} (h : text.length ≤ i) :
    positionAt text i = positionAt text text.length := by
  induction text generalizing i with
  | nil => simp
  | cons c rest ih =>
    cases i with
    | zero => simp at h
    | succ i =>
      rw [List.length_cons, positionAt_cons_succ, positionAt_cons_succ, ih (by simpa using h)]

/-! Counting agrees with the walk -/

private theorem breakEndsAt_succ {text : List Char} {i : Nat} {c : Char} (hc : text[i]? = some c) :
    breakEndsAt text (i + 1) = endsLine c text[i + 1]? := by
  simp [breakEndsAt, endsLine, hc]

private theorem lineStart_succ_of_break {text : List Char} {i : Nat}
    (h : breakEndsAt text (i + 1) = true) : lineStart text (i + 1) = i + 1 := by
  simp [lineStart, h]

private theorem lineStart_succ_of_not_break {text : List Char} {i : Nat}
    (h : breakEndsAt text (i + 1) = false) : lineStart text (i + 1) = lineStart text i := by
  simp [lineStart, h]

private theorem lineStart_le (text : List Char) (i : Nat) : lineStart text i ≤ i :=
  Nat.findGreatest_le i

private theorem countedPosition_succ {text : List Char} {i : Nat} {c : Char}
    (hc : text[i]? = some c) :
    countedPosition text (i + 1) = (countedPosition text i).advance (stride c text[i + 1]?) := by
  have hi : i < text.length := (List.getElem?_eq_some_iff.mp hc).1
  have hends := breakEndsAt_succ hc
  cases h : endsLine c text[i + 1]? with
  | true =>
    rw [h] at hends
    simp [countedPosition, Position.advance, stride, h, lineStart_succ_of_break hends,
      Nat.count_succ _ (i + 1), hends]
  | false =>
    rw [h] at hends
    have htake : text.take (i + 1) = text.take i ++ [c] := by
      rw [List.take_add_one, hc, Option.toList_some]
    have hstart : lineStart text i ≤ (text.take i).length := by
      have := lineStart_le text i
      rw [List.length_take]
      omega
    simp only [countedPosition, Position.advance, stride, h, lineStart_succ_of_not_break hends,
      Nat.count_succ _ (i + 1), hends, htake, List.drop_append_of_le_length hstart,
      length16_append_single]
    simp

private theorem countedPosition_succ_of_length_le {text : List Char} {i : Nat}
    (h : text.length ≤ i) : countedPosition text (i + 1) = countedPosition text i := by
  have hnone : text[i]? = none := List.getElem?_eq_none h
  have hends : breakEndsAt text (i + 1) = false := by simp [breakEndsAt, hnone]
  simp only [countedPosition, lineStart_succ_of_not_break hends, Nat.count_succ _ (i + 1), hends,
    List.take_of_length_le h, List.take_of_length_le (Nat.le_succ_of_le h)]
  simp

theorem countedPosition_eq_positionAt (text : List Char) (i : Nat) :
    countedPosition text i = positionAt text i := by
  induction i with
  | zero =>
    simp [countedPosition, breakEndsAt, Nat.count_succ, Position.zero]
  | succ i ih =>
    rcases Nat.lt_or_ge i text.length with hi | hi
    · have hc : text[i]? = some text[i] := List.getElem?_eq_getElem hi
      rw [countedPosition_succ hc, ih, positionAt_succ hc]
    · rw [countedPosition_succ_of_length_le hi, ih, positionAt_of_length_le hi,
        positionAt_of_length_le (Nat.le_succ_of_le hi)]

/-! From a position back to a point -/

private theorem offsetFrom_eq_add (passed : Nat) (text : List Char) (p : Position) :
    offsetFrom passed text p = offsetAt text p + passed := by
  induction text generalizing passed p with
  | nil => simp [offsetFrom, offsetAt]
  | cons c rest ih =>
    obtain ⟨line, column⟩ := p
    cases line with
    | zero =>
      simp only [offsetAt, offsetFrom]
      split_ifs
      · omega
      · omega
      · rw [ih (passed + 1), ih (0 + 1)]
        omega
    | succ line =>
      simp only [offsetAt, offsetFrom]
      rw [ih (passed + 1), ih (0 + 1)]
      omega

theorem offsetAt_nil (p : Position) : offsetAt [] p = 0 := by
  simp [offsetAt, offsetFrom]

theorem offsetAt_cons_of_break {c : Char} (hc : c = '\n' ∨ c = '\r') (rest : List Char)
    (column : Nat) : offsetAt (c :: rest) ⟨0, column⟩ = 0 := by
  simp [offsetAt, offsetFrom, hc]

theorem offsetAt_cons_of_lt {c : Char} {column : Nat} (h : column < units16 c)
    (rest : List Char) : offsetAt (c :: rest) ⟨0, column⟩ = 0 := by
  simp [offsetAt, offsetFrom, h]

theorem offsetAt_cons_of_le {c : Char} {column : Nat} (hc : ¬(c = '\n' ∨ c = '\r'))
    (h : units16 c ≤ column) (rest : List Char) :
    offsetAt (c :: rest) ⟨0, column⟩ = offsetAt rest ⟨0, column - units16 c⟩ + 1 := by
  simp only [offsetAt, offsetFrom, if_neg hc, if_neg (Nat.not_lt.mpr h)]
  exact offsetFrom_eq_add _ _ _

theorem offsetAt_cons_succ (c : Char) (rest : List Char) (line column : Nat) :
    offsetAt (c :: rest) ⟨line + 1, column⟩ =
      offsetAt rest ⟨if endsLine c rest.head? then line else line + 1, column⟩ + 1 := by
  simp only [offsetAt, offsetFrom]
  exact offsetFrom_eq_add _ _ _

theorem offsetAt_zero (text : List Char) : offsetAt text .zero = 0 := by
  cases text with
  | nil => exact offsetAt_nil _
  | cons c rest => exact offsetAt_cons_of_lt (units16_pos c) rest

theorem advance_break (p : Position) :
    Position.advance ⟨1, 0⟩ p = ⟨p.line + 1, p.character⟩ := by
  unfold Position.advance
  split_ifs with h <;> simp [h, Nat.add_comm]

theorem one_le_line_after_feed (rest : List Char) (i : Nat) :
    1 ≤ (positionAt ('\n' :: rest) (i + 1)).line := by
  rw [positionAt_cons_succ, stride, endsLine]
  simp [advance_break]

/-- A character adds its stride to a position and one to the point, except for a carriage return
before a line feed when the position is on the line that the two end. -/
theorem offsetAt_cons_advance {c : Char} {rest : List Char} {p : Position}
    (h : ¬(c = '\r' ∧ rest.head? = some '\n' ∧ p.line = 0)) :
    offsetAt (c :: rest) ((stride c rest.head?).advance p) = offsetAt rest p + 1 := by
  obtain ⟨line, column⟩ := p
  cases hends : endsLine c rest.head? with
  | true =>
    rw [stride, if_pos hends, advance_break, offsetAt_cons_succ, if_pos hends]
  | false =>
    have hstride : stride c rest.head? = ⟨0, units16 c⟩ := by simp [stride, hends]
    rw [hstride]
    cases line with
    | zero =>
      have hc : ¬(c = '\n' ∨ c = '\r') := by
        rintro (rfl | rfl)
        · simp [endsLine] at hends
        · exact h ⟨rfl, by simpa [endsLine] using hends, rfl⟩
      simp only [Position.advance, if_true]
      rw [offsetAt_cons_of_le hc (Nat.le_add_right _ _), Nat.add_sub_cancel_left]
    | succ line =>
      simp only [Position.advance, Nat.add_eq_zero_iff, one_ne_zero, and_false, if_false,
        Nat.zero_add]
      rw [offsetAt_cons_succ, hends, if_neg Bool.false_ne_true]

theorem insideBreak_cons_succ (c : Char) (rest : List Char) (i : Nat) :
    insideBreak (c :: rest) (i + 1) ↔
      (i = 0 ∧ c = '\r' ∧ rest.head? = some '\n') ∨ insideBreak rest i := by
  cases i with
  | zero => simp [insideBreak, List.head?_eq_getElem?]
  | succ i => simp [insideBreak]

/-- Going back from the position of a point gives the point; inside a line break of two characters
it gives the point before them. -/
theorem offsetAt_positionAt {text : List Char} {i : Nat} (hi : i ≤ text.length) :
    offsetAt text (positionAt text i) = if insideBreak text i then i - 1 else i := by
  induction text generalizing i with
  | nil =>
    obtain rfl : i = 0 := by simpa using hi
    simp [offsetAt_nil, insideBreak]
  | cons c rest ih =>
    cases i with
    | zero => simp [offsetAt_zero, insideBreak]
    | succ i =>
      have hrest := ih (i := i) (by simpa using hi)
      rw [positionAt_cons_succ]
      by_cases hpair : i = 0 ∧ c = '\r' ∧ rest.head? = some '\n'
      · -- the point between the two characters
        obtain ⟨rfl, rfl, hhead⟩ := hpair
        obtain ⟨tail, rfl⟩ := List.head?_eq_some_iff.mp hhead
        simp [stride, endsLine, offsetAt_cons_of_break, insideBreak]
      · have hinside : insideBreak (c :: rest) (i + 1) ↔ insideBreak rest i := by
          rw [insideBreak_cons_succ]
          exact or_iff_right hpair
        have hline : ¬(c = '\r' ∧ rest.head? = some '\n' ∧ (positionAt rest i).line = 0) := by
          rintro ⟨rfl, hhead, hzero⟩
          obtain ⟨tail, rfl⟩ := List.head?_eq_some_iff.mp hhead
          cases i with
          | zero => exact hpair ⟨rfl, rfl, hhead⟩
          | succ i =>
            have := one_le_line_after_feed tail i
            omega
        rw [offsetAt_cons_advance hline, hrest]
        simp only [hinside]
        split_ifs with hin
        · cases i with
          | zero => exact hin.elim
          | succ i => omega
        · rfl

end ClassPad.Text
