import ClassPad.Document
import ClassPad.Proofs.Position.Order

/-!
Byte offsets, points and positions. An offset into the UTF-8 form of a text falls on one point of
the text: the one before the character that holds the byte, or the end. Going from an offset to its
position and back to a point gives the point on which the offset falls, unless that one stands
between a carriage return and the line feed after it.

A position is sent with numbers of 32 bits. Where the UTF-16 length of the text has no more, nothing
is lost by that.
-/

set_option autoImplicit false
set_option relaxedAutoImplicit false

namespace ClassPad.Text

def bytesBefore (text : List Char) (point : Nat) : Nat :=
  (String.ofList (text.take point)).utf8ByteSize

/-- A byte offset falls on a point: it is not before the point, and if a character follows the point
then the offset is before the end of that character. -/
def FallsOn (text : List Char) (offset point : Nat) : Prop :=
  point ≤ text.length ∧ bytesBefore text point ≤ offset ∧
    (point < text.length → offset < bytesBefore text (point + 1))

instance (text : List Char) (offset point : Nat) : Decidable (FallsOn text offset point) :=
  inferInstanceAs (Decidable (point ≤ text.length ∧ bytesBefore text point ≤ offset ∧
    (point < text.length → offset < bytesBefore text (point + 1))))

/-! Bytes of a text -/

theorem units8_eq_utf8Size (c : Char) : units8 c = c.utf8Size := by
  have hle : ∀ n : UInt32, c.val ≤ n ↔ c.toNat < n.toNat + 1 := fun n =>
    UInt32.le_iff_toNat_le.trans Nat.lt_succ_iff.symm
  simp only [units8, Char.utf8Size, hle]
  rfl

theorem bytesBefore_zero (text : List Char) : bytesBefore text 0 = 0 := rfl

private theorem bytesBefore_cons_succ (c : Char) (rest : List Char) (i : Nat) :
    bytesBefore (c :: rest) (i + 1) = units8 c + bytesBefore rest i := by
  have hsplit : String.ofList (c :: rest.take i) =
      String.singleton c ++ String.ofList (rest.take i) := by
    simp
  rw [bytesBefore, List.take_succ_cons, hsplit, String.utf8ByteSize_append,
    String.utf8ByteSize_singleton, units8_eq_utf8Size, bytesBefore]

theorem byteOfIndex_eq_bytesBefore (text : List Char) (i : Nat) :
    byteOfIndex text i = bytesBefore text i := by
  induction text generalizing i with
  | nil => simp [byteOfIndex, bytesBefore]
  | cons c rest ih =>
    cases i with
    | zero => rfl
    | succ i => rw [byteOfIndex_cons_succ, bytesBefore_cons_succ, ih, Nat.add_comm]

private theorem indexOfByte_cons_of_lt {c : Char} {offset : Nat} (h : offset < units8 c)
    (rest : List Char) : indexOfByte (c :: rest) offset = 0 := by
  simp only [indexOfByte, indexOfByte.go, if_pos h]

private theorem indexOfByte_cons_of_le {c : Char} {offset : Nat} (h : units8 c ≤ offset)
    (rest : List Char) :
    indexOfByte (c :: rest) offset = indexOfByte rest (offset - units8 c) + 1 := by
  simp only [indexOfByte, indexOfByte.go, if_neg (Nat.not_lt.mpr h)]
  exact indexOfByte_go _ _ _

/-! The point of a byte offset -/

private theorem fallsOn_cons_zero {c : Char} {rest : List Char} {offset : Nat} :
    FallsOn (c :: rest) offset 0 ↔ offset < units8 c := by
  simp [FallsOn, bytesBefore_zero, bytesBefore_cons_succ]

private theorem fallsOn_cons_succ {c : Char} {rest : List Char} {offset point : Nat} :
    FallsOn (c :: rest) offset (point + 1) ↔
      units8 c ≤ offset ∧ FallsOn rest (offset - units8 c) point := by
  simp only [FallsOn, List.length_cons, bytesBefore_cons_succ]
  omega

/-- Every byte offset falls on one point. -/
theorem fallsOn_iff {text : List Char} {offset point : Nat} :
    FallsOn text offset point ↔ point = indexOfByte text offset := by
  induction text generalizing offset point with
  | nil => simp [FallsOn, indexOfByte, indexOfByte.go, bytesBefore]
  | cons c rest ih =>
    rcases Nat.lt_or_ge offset (units8 c) with hlt | hge
    · rw [indexOfByte_cons_of_lt hlt]
      cases point with
      | zero => simpa [fallsOn_cons_zero] using hlt
      | succ point =>
        rw [fallsOn_cons_succ]
        omega
    · rw [indexOfByte_cons_of_le hge]
      cases point with
      | zero =>
        rw [fallsOn_cons_zero]
        omega
      | succ point =>
        rw [fallsOn_cons_succ, ih]
        omega

/-! Bounds of positions -/

private theorem length16_cons (c : Char) (rest : List Char) :
    length16 (c :: rest) = units16 c + length16 rest := by
  have hshift : ∀ (text : List Char) (n : Nat), text.foldl (fun n c => n + units16 c) n =
      n + length16 text := by
    intro text
    induction text with
    | nil => intro n; rfl
    | cons d more ih =>
      intro n
      rw [length16, List.foldl_cons, List.foldl_cons, ih, ih (0 + units16 d)]
      omega
  rw [length16, List.foldl_cons, hshift, Nat.zero_add]

theorem length16_append (a b : List Char) : length16 (a ++ b) = length16 a + length16 b := by
  induction a with
  | nil => rw [List.nil_append, show length16 [] = 0 from rfl, Nat.zero_add]
  | cons c rest ih => rw [List.cons_append, length16_cons, length16_cons, ih, Nat.add_assoc]

theorem character_positionAt_le (text : List Char) (i : Nat) :
    (positionAt text i).character ≤ length16 text := by
  induction text generalizing i with
  | nil => simp [Position.zero]
  | cons c rest ih =>
    cases i with
    | zero => simp [Position.zero]
    | succ i =>
      have hrest := ih i
      rw [positionAt_cons_succ, length16_cons, stride]
      unfold Position.advance
      split_ifs <;> simp only <;> omega

theorem line_positionAt_le (text : List Char) (i : Nat) :
    (positionAt text i).line ≤ length16 text := by
  induction text generalizing i with
  | nil => simp [Position.zero]
  | cons c rest ih =>
    cases i with
    | zero => simp [Position.zero]
    | succ i =>
      have hrest := ih i
      have hpos := units16_pos c
      rw [positionAt_cons_succ, length16_cons, stride]
      unfold Position.advance
      split_ifs <;> simp only at * <;> omega

/-- The positions of a text whose UTF-16 length has 32 bits are sent as they are. -/
theorem sent_positionAt {text : List Char} (h : length16 text < 4294967296) (i : Nat) :
    (positionAt text i).sent = positionAt text i := by
  have hline := line_positionAt_le text i
  have hcharacter := character_positionAt_le text i
  rw [Position.sent, Nat.mod_eq_of_lt (by omega), Nat.mod_eq_of_lt (by omega)]

theorem sentPosition_eq {d : Document} (h : length16 d.text < 4294967296)
    (offset : Nat) : d.sentPosition offset = positionOfByte d.text offset :=
  sent_positionAt h _

theorem line_positionAt_lt (text : List Char) (i : Nat) :
    (positionAt text i).line < lineCount text := by
  have hle : positionAt text i ≤ positionAt text text.length := by
    rcases Nat.le_total i text.length with hle | hge
    · exact positionAt_le hle (Nat.le_refl _)
    · rw [positionAt_of_length_le hge]
  rw [Position.le_iff] at hle
  rw [lineCount, breaks_eq_line]
  omega

/-! Going there and back -/

/-- Every byte offset falls on exactly one point, and its position is that of the point by counting:
the line is one of the text's lines, and the column is at most the UTF-16 length of the text. Going
back from the position gives the point, but inside a line break of two characters it gives the point
before both. In a document whose UTF-16 length has 32 bits, this is the position that is sent. -/
theorem offsetAt_positionOfByte (text : List Char) (offset : Nat) :
    ∃ point, (∀ other, FallsOn text offset other ↔ other = point) ∧
      positionOfByte text offset = countedPosition text point ∧
      (positionOfByte text offset).line < lineCount text ∧
      (positionOfByte text offset).character ≤ length16 text ∧
      offsetAt text (positionOfByte text offset) =
        (if insideBreak text point then point - 1 else point) ∧
      ∀ d : Document, d.text = text → length16 text < 4294967296 →
        d.sentPosition offset = positionOfByte text offset := by
  have hfalls : FallsOn text offset (indexOfByte text offset) := fallsOn_iff.mpr rfl
  refine ⟨indexOfByte text offset, fun other => fallsOn_iff, ?_, line_positionAt_lt _ _,
    character_positionAt_le _ _, offsetAt_positionAt hfalls.1, ?_⟩
  · rw [positionOfByte, countedPosition_eq_positionAt]
  · rintro d rfl hlength
    exact sentPosition_eq hlength offset

/-- The offsets of a text that mixes the three line breaks with characters of one to four bytes. -/
example : (List.range 14).map
      (fun b => offsetAt ['é', '\r', '\n', '😀', '\r', 'a', '\n']
        (positionOfByte ['é', '\r', '\n', '😀', '\r', 'a', '\n'] b)) =
    [0, 0, 1, 1, 3, 3, 3, 3, 4, 5, 6, 7, 7, 7] := by decide

end ClassPad.Text
