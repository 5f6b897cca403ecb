import Mathlib.Order.Defs.LinearOrder
import ClassPad.Proofs.Position

/-!
Positions in order. They are compared by line and then by column, and the points of a text have
ascending positions. A byte offset at the start of a character stands for the point before it.
-/

set_option autoImplicit false
set_option relaxedAutoImplicit false

namespace ClassPad

namespace Position

theorem le_iff {p q : Position} :
    p ≤ q ↔ p.line < q.line ∨ (p.line = q.line ∧ p.character ≤ q.character) := Iff.rfl

instance : LinearOrder Position where
  le_refl p := Or.inr ⟨rfl, Nat.le_refl _⟩
  le_trans p q r hpq hqr := by
    rw [le_iff] at hpq hqr ⊢
    omega
  le_antisymm p q hpq hqp := by
    obtain ⟨l, c⟩ := p
    obtain ⟨l', c'⟩ := q
    simp only [le_iff, mk.injEq] at hpq hqp ⊢
    omega
  le_total p q := by
    simp only [le_iff]
    omega
  toDecidableLE := inferInstance

private theorem lt_iff {p q : Position} :
    p < q ↔ p.line < q.line ∨ (p.line = q.line ∧ p.character < q.character) := by
  rw [lt_iff_not_ge, le_iff]
  omega

end Position

namespace Text

private theorem lt_advance_stride (p : Position) (c : Char) (next : Option Char) :
    p < p.advance (stride c next) := by
  have hpos := units16_pos c
  rw [Position.lt_iff, stride]
  split_ifs
  · left
    simp [Position.advance]
  · right
    simp [Position.advance, hpos]

theorem positionAt_lt {text : List Char} {i j : Nat} (hij : i < j) (hj : j ≤ text.length) :
    positionAt text i < positionAt text j := by
  induction j, hij using Nat.le_induction with
  | base =>
    have hc : text[i]? = some text[i] := List.getElem?_eq_getElem hj
    rw [positionAt_succ hc]
    exact lt_advance_stride _ _ _
  | succ j hij ih =>
    have hc : text[j]? = some text[j] := List.getElem?_eq_getElem hj
    have hlast := lt_advance_stride (positionAt text j) text[j] text[j + 1]?
    rw [← positionAt_succ hc] at hlast
    exact lt_trans (ih (Nat.le_of_succ_le hj)) hlast

theorem positionAt_le {text : List Char} {i j : Nat} (hij : i ≤ j) (hj : j ≤ text.length) :
    positionAt text i ≤ positionAt text j := by
  rcases Nat.eq_or_lt_of_le hij with rfl | hlt
  · exact le_refl _
  · exact le_of_lt (positionAt_lt hlt hj)

/-- The positions of a text's points depend on the strides of its characters alone. -/
theorem positionAt_congr {text other : List Char} (hlen : text.length = other.length)
    (h : ∀ k c d, text[k]? = some c → other[k]? = some d →
      stride c text[k + 1]? = stride d other[k + 1]?) (i : Nat) :
    positionAt text i = positionAt other i := by
  induction i with
  | zero => rw [positionAt_zero, positionAt_zero]
  | succ i ih =>
    rcases Nat.lt_or_ge i text.length with hi | hi
    · have hc : text[i]? = some text[i] := List.getElem?_eq_getElem hi
      have hd : other[i]? = some other[i] := List.getElem?_eq_getElem (hlen ▸ hi)
      rw [positionAt_succ hc, positionAt_succ hd, ih, h i _ _ hc hd]
    · have hi' : other.length ≤ i := hlen ▸ hi
      rw [positionAt_of_length_le (Nat.le_succ_of_le hi), ← positionAt_of_length_le hi, ih,
        positionAt_of_length_le hi', positionAt_of_length_le (Nat.le_succ_of_le hi')]

/-! Lines -/

private theorem breaksFrom_eq_add (seen : Nat) (text : List Char) :
    breaksFrom seen text = seen + breaks text := by
  induction text generalizing seen with
  | nil => rfl
  | cons c rest ih =>
    simp only [breaks, breaksFrom]
    rw [ih, ih (if endsLine c rest.head? then 0 + 1 else 0)]
    split_ifs <;> omega

@[simp] theorem breaks_nil : breaks [] = 0 := rfl

theorem breaks_cons (c : Char) (rest : List Char) :
    breaks (c :: rest) = (if endsLine c rest.head? then 1 else 0) + breaks rest := by
  rw [breaks, breaksFrom, breaksFrom_eq_add]

theorem breaks_eq_line (text : List Char) : breaks text = (positionAt text text.length).line := by
  induction text with
  | nil => rfl
  | cons c rest ih =>
    rw [List.length_cons, positionAt_cons_succ, breaks_cons, ih, stride]
    unfold Position.advance
    split_ifs <;> simp_all

/-! Bytes -/

theorem indexOfByte_go (passed : Nat) (text : List Char) (offset : Nat) :
    indexOfByte.go passed text offset = indexOfByte text offset + passed := by
  induction text generalizing passed offset with
  | nil => simp [indexOfByte.go, indexOfByte]
  | cons c rest ih =>
    simp only [indexOfByte, indexOfByte.go]
    split_ifs
    · omega
    · rw [ih (passed + 1), ih (0 + 1)]
      omega

theorem byteOfIndex_cons_succ (c : Char) (rest : List Char) (i : Nat) :
    byteOfIndex (c :: rest) (i + 1) = byteOfIndex rest i + units8 c := by
  have hshift : ∀ (text : List Char) (n : Nat), text.foldl (fun n c => n + units8 c) n =
      text.foldl (fun n c => n + units8 c) 0 + n := by
    intro text
    induction text with
    | nil => simp
    | cons c rest ih =>
      intro n
      rw [List.foldl_cons, List.foldl_cons, ih, ih (0 + units8 c)]
      omega
  simp only [byteOfIndex, List.take_succ_cons, List.foldl_cons, Nat.zero_add]
  exact hshift _ _

private theorem indexOfByte_byteOfIndex {text : List Char} {i : Nat} (hi : i ≤ text.length) :
    indexOfByte text (byteOfIndex text i) = i := by
  induction text generalizing i with
  | nil =>
    obtain rfl : i = 0 := by simpa using hi
    rfl
  | cons c rest ih =>
    cases i with
    | zero => simp [byteOfIndex, indexOfByte, indexOfByte.go, units8_pos c]
    | succ i =>
      rw [byteOfIndex_cons_succ, indexOfByte, indexOfByte.go, if_neg (by omega),
        Nat.add_sub_cancel, indexOfByte_go, ih (by simpa using hi)]

theorem positionOfByte_byteOfIndex {text : List Char} {i : Nat} (hi : i ≤ text.length) :
    positionOfByte text (byteOfIndex text i) = positionAt text i := by
  rw [positionOfByte, indexOfByte_byteOfIndex hi]

end Text

end ClassPad
