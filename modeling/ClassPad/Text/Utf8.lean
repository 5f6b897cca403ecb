/-!
UTF-8: the bytes of a character, and the text of bytes. A sequence is read only if it is the
shortest form of a character; overlong forms, surrogates, cut-off sequences and values beyond the
last code point are refused.
-/

set_option autoImplicit false
set_option relaxedAutoImplicit false

namespace ClassPad.Text

def bytesOf (c : Char) : List Nat :=
  let n := c.toNat
  if n < 0x80 then [n]
  else if n < 0x800 then [0xC0 + n / 0x40, 0x80 + n % 0x40]
  else if n < 0x10000 then [0xE0 + n / 0x1000, 0x80 + n / 0x40 % 0x40, 0x80 + n % 0x40]
  else [0xF0 + n / 0x40000, 0x80 + n / 0x1000 % 0x40, 0x80 + n / 0x40 % 0x40, 0x80 + n % 0x40]

def tail? (b : Nat) : Option Nat := if 0x80 ≤ b ∧ b ≤ 0xBF then some (b - 0x80) else none

/-- The text that bytes spell, newest character first, if they are well-formed. -/
def readUtf8 : List Char → List Nat → Option (List Char)
  | acc, [] => some acc
  | acc, a :: rest =>
    if a < 0x80 then readUtf8 (Char.ofNat a :: acc) rest
    else if 0xC2 ≤ a ∧ a ≤ 0xDF then
      match rest with
      | b :: rest =>
        (tail? b).bind fun b => readUtf8 (Char.ofNat ((a - 0xC0) * 0x40 + b) :: acc) rest
      | [] => none
    else if 0xE0 ≤ a ∧ a ≤ 0xEF then
      match rest with
      | b :: c :: rest =>
        (tail? b).bind fun b => (tail? c).bind fun c =>
          let n := ((a - 0xE0) * 0x40 + b) * 0x40 + c
          if n < 0x800 ∨ (0xD800 ≤ n ∧ n < 0xE000) then none
          else readUtf8 (Char.ofNat n :: acc) rest
      | _ => none
    else if 0xF0 ≤ a ∧ a ≤ 0xF4 then
      match rest with
      | b :: c :: d :: rest =>
        (tail? b).bind fun b => (tail? c).bind fun c => (tail? d).bind fun d =>
          let n := (((a - 0xF0) * 0x40 + b) * 0x40 + c) * 0x40 + d
          if n < 0x10000 ∨ 0x10FFFF < n then none
          else readUtf8 (Char.ofNat n :: acc) rest
      | _ => none
    else none

def ofUtf8? (bytes : List Nat) : Option (List Char) := (readUtf8 [] bytes).map List.reverse

end ClassPad.Text
