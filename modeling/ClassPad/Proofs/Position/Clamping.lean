import Mathlib.Order.Bounds.Basic
import ClassPad.Proofs.Position.Bytes

/-!
The point that a position means. Some points are meant by no position, those inside a line break;
of all the others, a position means the last one that is not after it. This holds for columns past
the end of their line, for lines past the end of the text and for columns inside a character alike.
-/

set_option autoImplicit false
set_option relaxedAutoImplicit false

namespace ClassPad

namespace Position

private theorem zero_le (p : Position) : zero ≤ p := by
  have hcolumn : zero.character ≤ p.character := Nat.zero_le _
  rcases Nat.eq_zero_or_pos p.line with hline | hline
  · exact Or.inr ⟨hline.symm, hcolumn⟩
  · exact Or.inl hline

private theorem columns_advance_le_iff {u column : Nat} (h : u ≤ column) (q : Position) :
    (⟨0, u⟩ : Position).advance q ≤ ⟨0, column⟩ ↔ q ≤ ⟨0, column - u⟩ := by
  rw [le_iff, le_iff]
  unfold advance
  split_ifs with hline
  · simp only [true_and]
    omega
  · simp only
    omega

private theorem not_columns_advance_le {u column : Nat} (h : column < u) (q : Position) :
    ¬(⟨0, u⟩ : Position).advance q ≤ ⟨0, column⟩ := by
  rw [le_iff]
  unfold advance
  split_ifs <;> simp only <;> omega

private theorem columns_advance_le_iff_of_line {u line column : Nat} (q : Position) :
    (⟨0, u⟩ : Position).advance q ≤ ⟨line + 1, column⟩ ↔ q ≤ ⟨line + 1, column⟩ := by
  rw [le_iff, le_iff]
  unfold advance
  split_ifs <;> simp only <;> omega

private theorem break_advance_le_iff {line column : Nat} (q : Position) :
    (⟨1, 0⟩ : Position).advance q ≤ ⟨line + 1, column⟩ ↔ q ≤ ⟨line, column⟩ := by
  rw [Text.advance_break, le_iff, le_iff]
  simp only
  omega

end Position

namespace Text

/-- A point of a text that does not stand inside a line break. -/
def ProperPoint (text : List Char) (i : Nat) : Prop := i ≤ text.length ∧ ¬insideBreak text i

instance (text : List Char) (i : Nat) : Decidable (ProperPoint text i) :=
  inferInstanceAs (Decidable (i ≤ text.length ∧ ¬insideBreak text i))

private theorem properPoint_zero (text : List Char) : ProperPoint text 0 :=
  ⟨Nat.zero_le _, fun h => h⟩

private theorem properPoint_cons_succ {c : Char} {rest : List Char} {i : Nat} :
    ProperPoint (c :: rest) (i + 1) ↔
      ProperPoint rest i ∧ ¬(i = 0 ∧ c = '\r' ∧ rest.head? = some '\n') := by
  rw [ProperPoint, ProperPoint, insideBreak_cons_succ, List.length_cons, Nat.add_le_add_iff_right,
    not_or, and_assoc, and_comm (a := ¬insideBreak rest i)]

/-! One character -/

private theorem stride_of_not_break {c : Char} (hc : ¬(c = '\n' ∨ c = '\r'))
    (next : Option Char) : stride c next = ⟨0, units16 c⟩ := by
  obtain ⟨hfeed, hreturn⟩ := not_or.mp hc
  rw [stride, endsLine_of_not_break hfeed hreturn, if_neg Bool.false_ne_true]

private theorem one_le_line_after_break {c : Char} {rest : List Char} {i : Nat}
    (hc : c = '\n' ∨ c = '\r') (h : ProperPoint (c :: rest) (i + 1)) :
    1 ≤ (positionAt (c :: rest) (i + 1)).line := by
  obtain ⟨-, hpair⟩ := properPoint_cons_succ.mp h
  rcases hc with rfl | rfl
  · exact one_le_line_after_feed rest i
  · by_cases hnext : rest.head? = some '\n'
    · -- the line feed of the pair comes next, and the point is past it as well
      obtain ⟨tail, rfl⟩ := List.head?_eq_some_iff.mp hnext
      cases i with
      | zero => exact absurd ⟨rfl, rfl, hnext⟩ hpair
      | succ i =>
        have hfeed := one_le_line_after_feed tail i
        rw [positionAt_cons_succ]
        unfold Position.advance
        split_ifs <;> simp only <;> omega
    · have hends : endsLine '\r' rest.head? = true := by simp [endsLine, hnext]
      rw [positionAt_cons_succ, stride, if_pos hends, advance_break]
      exact Nat.le_add_left _ _

/-! All of a text -/

/-- The point that a position means is the last proper one that is not after it. -/
theorem positionAt_le_iff {text : List Char} {i : Nat} (h : ProperPoint text i) (p : Position) :
    positionAt text i ≤ p ↔ i ≤ offsetAt text p := by
  induction text generalizing i p with
  | nil =>
    obtain rfl : i = 0 := by simpa using h.1
    simp [Position.zero_le]
  | cons c rest ih =>
    cases i with
    | zero => simp [Position.zero_le]
    | succ i =>
      obtain ⟨hrest, -⟩ := properPoint_cons_succ.mp h
      obtain ⟨line, column⟩ := p
      cases line with
      | zero =>
        by_cases hbreak : c = '\n' ∨ c = '\r'
        · have hline := one_le_line_after_break hbreak h
          rw [offsetAt_cons_of_break hbreak, Position.le_iff]
          simp only
          omega
        · rw [positionAt_cons_succ, stride_of_not_break hbreak]
          rcases Nat.lt_or_ge column (units16 c) with hlt | hge
          · rw [offsetAt_cons_of_lt hlt]
            exact iff_of_false (Position.not_columns_advance_le hlt _) (Nat.not_succ_le_zero i)
          · rw [offsetAt_cons_of_le hbreak hge, Position.columns_advance_le_iff hge, ih hrest,
              Nat.add_le_add_iff_right]
      | succ line =>
        rw [positionAt_cons_succ, offsetAt_cons_succ, Nat.add_le_add_iff_right, ← ih hrest, stride]
        split_ifs
        · exact Position.break_advance_le_iff _
        · exact Position.columns_advance_le_iff_of_line _

theorem properPoint_offsetAt (text : List Char) (p : Position) :
    ProperPoint text (offsetAt text p) := by
  induction text generalizing p with
  | nil =>
    rw [offsetAt_nil]
    exact properPoint_zero _
  | cons c rest ih =>
    obtain ⟨line, column⟩ := p
    cases line with
    | zero =>
      by_cases hbreak : c = '\n' ∨ c = '\r'
      · rw [offsetAt_cons_of_break hbreak]
        exact properPoint_zero _
      · rcases Nat.lt_or_ge column (units16 c) with hlt | hge
        · rw [offsetAt_cons_of_lt hlt]
          exact properPoint_zero _
        · rw [offsetAt_cons_of_le hbreak hge, properPoint_cons_succ]
          exact ⟨ih _, fun hpair => hbreak (Or.inr hpair.2.1)⟩
    | succ line =>
      rw [offsetAt_cons_succ, properPoint_cons_succ]
      refine ⟨ih _, ?_⟩
      rintro ⟨hzero, rfl, hnext⟩
      -- the line feed of the pair is passed too, for the position is on a later line
      obtain ⟨tail, rfl⟩ := List.head?_eq_some_iff.mp hnext
      rw [List.head?_cons, if_neg (by decide), offsetAt_cons_succ] at hzero
      exact Nat.succ_ne_zero _ hzero

private theorem positionAt_offsetAt_le (text : List Char) (p : Position) :
    positionAt text (offsetAt text p) ≤ p :=
  (positionAt_le_iff (properPoint_offsetAt text p) p).mpr (Nat.le_refl _)

theorem monotone_offsetAt (text : List Char) : Monotone (offsetAt text) := by
  intro p q hpq
  have hp := positionAt_offsetAt_le text p
  exact (positionAt_le_iff (properPoint_offsetAt text p) q).mp (le_trans hp hpq)

private theorem properPoint_iff {text : List Char} {i : Nat} :
    ProperPoint text i ↔ offsetAt text (positionAt text i) = i := by
  constructor
  · rintro ⟨hi, hinside⟩
    rw [offsetAt_positionAt hi, if_neg hinside]
  · intro hback
    rw [← hback]
    exact properPoint_offsetAt _ _

/-- A position means a point of the text that is not inside a line break, and the position of this
point is the greatest that is not after the given one among those of all such points. A later
position never means an earlier point, and the positions of these points, and of no others, mean
the points themselves. In a document whose UTF-16 length has 32 bits they are sent as they are. -/
theorem offsetAt_clamps (text : List Char) (p : Position) :
    offsetAt text p ≤ text.length ∧ ¬insideBreak text (offsetAt text p) ∧
      IsGreatest {q | q ≤ p ∧ ∃ i, ProperPoint text i ∧ countedPosition text i = q}
        (positionOfByte text (byteOfIndex text (offsetAt text p))) ∧
      (positionOfByte text (byteOfIndex text (offsetAt text p))).line < lineCount text ∧
      (positionOfByte text (byteOfIndex text (offsetAt text p))).character ≤ length16 text ∧
      Monotone (offsetAt text) ∧
      (∀ i, ProperPoint text i ↔ offsetAt text (countedPosition text i) = i) ∧
      ∀ d : Document, d.text = text → length16 text < 4294967296 →
        ∀ offset, d.sentPosition offset = positionOfByte text offset := by
  have hproper := properPoint_offsetAt text p
  have hlength := hproper.1
  rw [positionOfByte_byteOfIndex hlength]
  refine ⟨hlength, hproper.2, ⟨?_, ?_⟩, line_positionAt_lt _ _, character_positionAt_le _ _,
    monotone_offsetAt text, ?_, ?_⟩
  · exact ⟨positionAt_offsetAt_le text p, _, hproper, countedPosition_eq_positionAt _ _⟩
  · rintro q ⟨hq, i, hi, rfl⟩
    rw [countedPosition_eq_positionAt] at hq ⊢
    exact positionAt_le ((positionAt_le_iff hi p).mp hq) hlength
  · intro i
    rw [countedPosition_eq_positionAt]
    exact properPoint_iff
  · rintro d rfl hlength
    exact sentPosition_eq hlength

/-- Columns inside a character of two units and past the end of a line, and a line that is none. -/
example : [⟨0, 1⟩, ⟨0, 2⟩, ⟨0, 3⟩, ⟨0, 9⟩, ⟨1, 0⟩, ⟨1, 5⟩, ⟨2, 7⟩, ⟨5, 0⟩].map
      (offsetAt ['😀', 'a', '\r', '\n', '\r', 'b']) = [0, 1, 2, 2, 4, 4, 6, 6] := by decide

end Text

end ClassPad
