import Mathlib.Algebra.Order.SuccPred
import Mathlib.Data.Nat.SuccPred
import Mathlib.Order.Interval.Set.OrdConnected
import ClassPad.Proofs.Position.Bytes

/-!
Byte offsets in order. A later offset never has an earlier position, and two offsets share a
position only if one character holds them both or neither is before the end. So no two points of a
text have the same position, and the point inside a line break has one of its own.
-/

set_option autoImplicit false
set_option relaxedAutoImplicit false

namespace ClassPad.Text

/-- Whether one character of a text holds both of two byte offsets, or both are at the end of the
text or past it. -/
def Together (text : List Char) (b c : Nat) : Prop :=
  (∃ k < text.length, FallsOn text b k ∧ FallsOn text c k) ∨
    (bytesBefore text text.length ≤ b ∧ bytesBefore text text.length ≤ c)

instance (text : List Char) (b c : Nat) : Decidable (Together text b c) :=
  inferInstanceAs (Decidable ((∃ k < text.length, FallsOn text b k ∧ FallsOn text c k) ∨
    (bytesBefore text text.length ≤ b ∧ bytesBefore text text.length ≤ c)))

/-! Bytes and points -/

private theorem bytesBefore_succ {text : List Char} {i : Nat} {c : Char} (hc : text[i]? = some c) :
    bytesBefore text (i + 1) = bytesBefore text i + units8 c := by
  have hsplit : String.ofList (text.take (i + 1)) =
      String.ofList (text.take i) ++ String.singleton c := by
    rw [List.take_add_one, hc, Option.toList_some, String.ofList_append, String.singleton_eq_ofList]
  rw [bytesBefore, hsplit, String.utf8ByteSize_append, String.utf8ByteSize_singleton,
    ← units8_eq_utf8Size, bytesBefore]

private theorem strictMonoOn_bytesBefore (text : List Char) :
    StrictMonoOn (bytesBefore text) (Set.Iic text.length) := by
  refine strictMonoOn_of_lt_add_one Set.ordConnected_Iic fun i _ _ hi => ?_
  have hlt : i < text.length := hi
  rw [bytesBefore_succ (List.getElem?_eq_getElem hlt)]
  exact Nat.lt_add_of_pos_right (units8_pos _)

private theorem fallsOn_indexOfByte (text : List Char) (b : Nat) :
    FallsOn text b (indexOfByte text b) :=
  fallsOn_iff.mpr rfl

private theorem monotone_indexOfByte (text : List Char) : Monotone (indexOfByte text) := by
  intro b c hbc
  obtain ⟨hlength, hstart, -⟩ := fallsOn_indexOfByte text b
  obtain ⟨-, -, hend⟩ := fallsOn_indexOfByte text c
  by_contra hlt
  rw [Nat.not_le] at hlt
  -- `c` is before the end of its character, which is not after the start of the character of `b`
  have hbefore := hend (Nat.lt_of_lt_of_le hlt hlength)
  have hle : bytesBefore text (indexOfByte text c + 1) ≤ bytesBefore text (indexOfByte text b) :=
    (strictMonoOn_bytesBefore text).monotoneOn (Nat.le_trans hlt hlength) hlength hlt
  omega

private theorem fallsOn_length {text : List Char} {b : Nat} :
    FallsOn text b text.length ↔ bytesBefore text text.length ≤ b := by
  simp [FallsOn]

private theorem together_iff {text : List Char} {b c : Nat} :
    Together text b c ↔ indexOfByte text b = indexOfByte text c := by
  constructor
  · rintro (⟨k, -, hb, hc⟩ | ⟨hb, hc⟩)
    · rw [← fallsOn_iff.mp hb, ← fallsOn_iff.mp hc]
    · rw [← fallsOn_length] at hb hc
      rw [← fallsOn_iff.mp hb, ← fallsOn_iff.mp hc]
  · intro heq
    have hb := fallsOn_indexOfByte text b
    have hc : FallsOn text c (indexOfByte text b) := fallsOn_iff.mpr heq
    rcases Nat.lt_or_eq_of_le hb.1 with hlt | hend
    · exact Or.inl ⟨_, hlt, hb, hc⟩
    · rw [hend, fallsOn_length] at hb hc
      exact Or.inr ⟨hb, hc⟩

/-! Points and positions -/

private theorem strictMonoOn_positionAt (text : List Char) :
    StrictMonoOn (positionAt text) (Set.Iic text.length) :=
  fun _ _ _ hj hij => positionAt_lt hij hj

private theorem positionOfByte_le_iff {text : List Char} {b c : Nat} :
    positionOfByte text b ≤ positionOfByte text c ↔ indexOfByte text b ≤ indexOfByte text c :=
  (strictMonoOn_positionAt text).le_iff_le (fallsOn_indexOfByte text b).1
    (fallsOn_indexOfByte text c).1

private theorem positionOfByte_bytesBefore {text : List Char} {i : Nat} (hi : i ≤ text.length) :
    positionOfByte text (bytesBefore text i) = positionAt text i := by
  rw [← byteOfIndex_eq_bytesBefore, positionOfByte_byteOfIndex hi]

/-- A later byte offset has a later position or the same one, and the same one exactly if it is
together with the earlier offset. So the points of a text, those inside line breaks too, have
positions that ascend, from the origin to the last line. Lines are those of the text, and no column
is past its UTF-16 length. In a document where that has 32 bits, these positions are sent. -/
theorem positionOfByte_embeds_order (text : List Char) :
    Monotone (positionOfByte text) ∧
      (∀ b c, positionOfByte text b = positionOfByte text c ↔ Together text b c) ∧
      StrictMonoOn (fun i => positionOfByte text (bytesBefore text i)) (Set.Iic text.length) ∧
      positionOfByte text 0 = ⟨0, 0⟩ ∧
      (positionOfByte text (bytesBefore text text.length)).line = lineCount text - 1 ∧
      (∀ b, (positionOfByte text b).line < lineCount text ∧
        (positionOfByte text b).character ≤ length16 text) ∧
      ∀ d : Document, d.text = text → length16 text < 4294967296 →
        ∀ b, d.sentPosition b = positionOfByte text b := by
  refine ⟨?_, ?_, ?_, ?_, ?_, fun b => ⟨line_positionAt_lt _ _, character_positionAt_le _ _⟩, ?_⟩
  · intro b c hbc
    exact positionOfByte_le_iff.mpr (monotone_indexOfByte text hbc)
  · intro b c
    rw [together_iff, le_antisymm_iff, le_antisymm_iff, positionOfByte_le_iff,
      positionOfByte_le_iff]
  · intro i hi j hj hij
    simp only [positionOfByte_bytesBefore hi, positionOfByte_bytesBefore hj]
    exact strictMonoOn_positionAt text hi hj hij
  · have hzero := positionOfByte_bytesBefore (Nat.zero_le text.length)
    rwa [bytesBefore_zero, positionAt_zero] at hzero
  · rw [positionOfByte_bytesBefore (Nat.le_refl _), ← breaks_eq_line, lineCount,
      Nat.add_sub_cancel]
  · rintro d rfl hlength
    exact sentPosition_eq hlength

/-- The offsets of one character share its position, and the two of a line break differ. -/
example : (List.range 9).map (positionOfByte ['é', '\r', '\n', '😀']) =
    [⟨0, 0⟩, ⟨0, 0⟩, ⟨0, 1⟩, ⟨0, 2⟩, ⟨1, 0⟩, ⟨1, 0⟩, ⟨1, 0⟩, ⟨1, 0⟩, ⟨1, 2⟩] := by decide

end ClassPad.Text
