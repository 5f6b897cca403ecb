/-!
Widths of a character. Positions sent by an editor count UTF-16 code units, offsets into a text
count UTF-8 bytes, and everything else counts characters.
-/

set_option autoImplicit false
set_option relaxedAutoImplicit false

namespace ClassPad.Text

def units16 (c : Char) : Nat := if c.toNat < 0x10000 then 1 else 2

def units8 (c : Char) : Nat :=
  if c.toNat < 0x80 then 1
  else if c.toNat < 0x800 then 2
  else if c.toNat < 0x10000 then 3
  else 4

theorem units16_pos (c : Char) : 0 < units16 c := by
  unfold units16; split <;> decide

theorem units8_pos (c : Char) : 0 < units8 c := by
  unfold units8; repeat' split
  all_goals decide

def length16 (text : List Char) : Nat := text.foldl (fun n c => n + units16 c) 0

/-- The index of the character that holds a byte offset; an offset at or past the end gives the
length. An offset inside a character counts as that character's start. -/
def indexOfByte (text : List Char) (offset : Nat) : Nat := go 0 text offset
where
  go (passed : Nat) : List Char → Nat → Nat
    | [], _ => passed
    | c :: rest, offset =>
      if offset < units8 c then passed else go (passed + 1) rest (offset - units8 c)

/-- The byte offset of the point before the character with a given index. -/
def byteOfIndex (text : List Char) (index : Nat) : Nat :=
  (text.take index).foldl (fun n c => n + units8 c) 0

end ClassPad.Text
