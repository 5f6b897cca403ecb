/-!
Finite doubles as exact numbers: a sign and a mantissa times a power of two. A quotient of natural
numbers is rounded to the nearest double, a tie to the even mantissa; the other operations are
rounded quotients.
-/

set_option autoImplicit false
set_option relaxedAutoImplicit false

namespace ClassPad.Decimal

/-- A finite double. Its size is `mantissa * 2 ^ exponent`, with the mantissa below `2 ^ 53` and
the exponent between -1074 and 971. -/
structure Binary64 where
  /-- Whether the number carries a minus sign; zero may carry one. -/
  negative : Bool
  mantissa : Nat
  exponent : Int
deriving DecidableEq, Repr

namespace Binary64

def zero (negative : Bool) : Binary64 := ⟨negative, 0, -1074⟩

/-- A power of two below the quotient, at most one step away from the greatest. -/
private def ratioLog2 (num den : Nat) : Int :=
  let k : Int := (num.log2 : Int) - (den.log2 : Int)
  let atLeast :=
    if 0 ≤ k then decide (den * Nat.pow 2 k.toNat ≤ num)
    else decide (den ≤ num * Nat.pow 2 (-k).toNat)
  if atLeast then k else k - 1

/-- The double nearest to a quotient, a tie going to the even mantissa; none where the quotient
is too large for any double. -/
def ofRatio (negative : Bool) (num den : Nat) : Option Binary64 :=
  if num = 0 then some (zero negative)
  else
    let e : Int := max (ratioLog2 num den - 52) (-1074)
    let top := if 0 ≤ e then num else num * Nat.pow 2 (-e).toNat
    let bottom := if 0 ≤ e then den * Nat.pow 2 e.toNat else den
    let q := top / bottom
    let r := top % bottom
    let up := decide (bottom < 2 * r) || (decide (bottom = 2 * r) && decide (q % 2 = 1))
    let m := if up then q + 1 else q
    let m' := if m = Nat.pow 2 53 then Nat.pow 2 52 else m
    let e' := if m = Nat.pow 2 53 then e + 1 else e
    if e' ≤ 971 then some ⟨negative, m', e'⟩ else none

def num (x : Binary64) : Nat :=
  if 0 ≤ x.exponent then x.mantissa * Nat.pow 2 x.exponent.toNat else x.mantissa

def den (x : Binary64) : Nat := if 0 ≤ x.exponent then 1 else Nat.pow 2 (-x.exponent).toNat

def ofNat (n : Nat) : Option Binary64 := ofRatio false n 1

/-- Rounded multiplication of sizes; the sign is the left one. -/
def mul (x y : Binary64) : Option Binary64 := ofRatio x.negative (x.num * y.num) (x.den * y.den)

def div (x y : Binary64) : Option Binary64 := ofRatio x.negative (x.num * y.den) (x.den * y.num)

/-- Scales a double by a power of ten: the power is rounded to a double first, and powers beyond
`10 ^ 308` are divided out in steps. -/
def scale (x : Binary64) (exponent : Int) : Option Binary64 :=
  go (exponent.natAbs / 308 + 1) x exponent
where
  go : Nat → Binary64 → Int → Option Binary64
    | 0, x, _ => some x
    | steps + 1, x, exponent =>
      if exponent.natAbs ≤ 308 then do
        let power ← ofNat (Nat.pow 10 exponent.natAbs)
        if 0 ≤ exponent then mul x power else div x power
      else if x.mantissa = 0 then some x
      else if 0 ≤ exponent then none
      else do
        let power ← ofNat (Nat.pow 10 308)
        go steps (← div x power) (exponent + 308)

/-- The double read from decimal digits and a power of ten: the digits are rounded, then scaled. -/
def ofDecimal (negative : Bool) (digits : Nat) (exponent : Int) : Option Binary64 := do
  let x ← ofRatio negative digits 1
  x.scale exponent

/-- The double nearest to decimal digits and a power of ten, rounded once. -/
def nearestDecimal (negative : Bool) (digits : Nat) (exponent : Int) : Option Binary64 :=
  if digits = 0 then some (zero negative)
  else if 0 ≤ exponent then ofRatio negative (digits * Nat.pow 10 exponent.toNat) 1
  else ofRatio negative digits (Nat.pow 10 (-exponent).toNat)

end Binary64

end ClassPad.Decimal
