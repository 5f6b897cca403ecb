import ClassPad.Decimal.Binary64

/-!
Decimal text of a double: the fewest digits that read back as the same double, and of those the
nearest to it. Two layouts use these digits: one that never writes an exponent, and a compact one
that writes very large and very small numbers with an exponent.
-/

set_option autoImplicit false
set_option relaxedAutoImplicit false

namespace ClassPad.Decimal

/-- The digits of a positive number and the place of the point: the number is `0.d₁d₂…` times
ten to the power of `point`. -/
structure Digits where
  /-- The digits, the first of them not zero. -/
  digits : List Char
  point : Int

namespace Binary64

/-- The place of the decimal point of a positive double: the least `k` with size below `10 ^ k`. -/
def decimalPoint (x : Binary64) : Int :=
  let scaled := x.num * Nat.pow 10 350 / x.den
  ((Nat.toDigits 10 scaled).length : Int) - 350

/-- Whether `candidate * 10 ^ place` reads back as the double: it lies between the midpoints to the
neighbouring doubles, which themselves count if the mantissa is even. -/
def readsBack (x : Binary64) (candidate : Nat) (place : Int) : Bool :=
  let quarter := x.exponent - 2
  let low :=
    if x.mantissa = Nat.pow 2 52 ∧ -1074 < x.exponent then 4 * x.mantissa - 1
    else 4 * x.mantissa - 2
  let high := 4 * x.mantissa + 2
  let scale :=
    (if 0 ≤ quarter then Nat.pow 2 quarter.toNat else 1) *
      (if place < 0 then Nat.pow 10 (-place).toNat else 1)
  let value := candidate * (if 0 ≤ place then Nat.pow 10 place.toNat else 1) *
    (if quarter < 0 then Nat.pow 2 (-quarter).toNat else 1)
  if x.mantissa % 2 = 0 then decide (low * scale ≤ value) && decide (value ≤ high * scale)
  else decide (low * scale < value) && decide (value < high * scale)

/-- The nearer of the two neighbours of a double on the grid of `10 ^ place` that read back. -/
def gridPoint (x : Binary64) (place : Int) : Option Nat :=
  let top := x.num * (if place < 0 then Nat.pow 10 (-place).toNat else 1)
  let bottom := x.den * (if 0 ≤ place then Nat.pow 10 place.toNat else 1)
  let below := top / bottom
  let nearerAbove := decide (bottom < 2 * (top % bottom))
  match x.readsBack below place, x.readsBack (below + 1) place with
  | true, true => some (if nearerAbove then below + 1 else below)
  | true, false => some below
  | false, true => some (below + 1)
  | false, false => none

/-- The fewest digits of a positive double that read back; seventeen always do. -/
def shortest (x : Binary64) : Digits :=
  let point := x.decimalPoint
  let found := (List.range 17).findSome? fun (n : Nat) =>
    (x.gridPoint (point - ((n : Int) + 1))).map fun d => (d, n + 1)
  match found with
  | none => ⟨['0'], 1⟩
  | some (d, n) =>
    let digits := Nat.toDigits 10 d
    ⟨digits, point + ((digits.length : Int) - (n : Int))⟩

end Binary64

private def trimZeros (digits : List Char) : List Char :=
  (digits.reverse.dropWhile (· = '0')).reverse

/-- A number written without an exponent and with at least one decimal. -/
private def positionalDigits (d : Digits) : List Char :=
  let n := d.digits.length
  if d.point ≤ 0 then
    ['0', '.'] ++ List.replicate (-d.point).toNat '0' ++ d.digits
  else if (n : Int) ≤ d.point then
    d.digits ++ List.replicate (d.point.toNat - n) '0' ++ ['.', '0']
  else
    d.digits.take d.point.toNat ++ '.' :: d.digits.drop d.point.toNat

private def scientificDigits (d : Digits) : List Char :=
  let exponent := d.point - 1
  let fraction := match d.digits.drop 1 with
    | [] => []
    | rest => '.' :: rest
  d.digits.take 1 ++ fraction ++ ['e', if 0 ≤ exponent then '+' else '-'] ++
    Nat.toDigits 10 exponent.natAbs

private def signed (x : Binary64) (digits : List Char) : String :=
  String.ofList (if x.negative then '-' :: digits else digits)

private def shortestDigits (x : Binary64) : Digits :=
  let d := x.shortest
  ⟨trimZeros d.digits, d.point⟩

def positional (x : Binary64) : String :=
  if x.mantissa = 0 then signed x ['0', '.', '0']
  else signed x (positionalDigits (shortestDigits x))

/-- The text of a double that has an exponent from `10 ^ 16` upwards and below `10 ^ -5`. -/
def compact (x : Binary64) : String :=
  if x.mantissa = 0 then signed x ['0', '.', '0']
  else
    let d := shortestDigits x
    signed x (if -5 < d.point ∧ d.point ≤ 16 then positionalDigits d else scientificDigits d)

end ClassPad.Decimal
