import ClassPad.Decode.Error
import ClassPad.Json.Reader
import ClassPad.Yaml.Event

/-!
What a scalar is when its text is not all that counts: null, a Boolean, a number or a text. A plain
scalar without a tag or with a local one is judged by its spelling, a tag of the standard set asks
for one kind, and all else is text.
-/

set_option autoImplicit false
set_option relaxedAutoImplicit false

namespace ClassPad.Yaml

open Decimal (Binary64)

def isNullText (s : String) : Bool := s = "null" || s = "Null" || s = "NULL" || s = "~"

def boolOf? (s : String) : Option Bool :=
  if s = "true" || s = "True" || s = "TRUE" then some true
  else if s = "false" || s = "False" || s = "FALSE" then some false
  else none

def unsigned : List Char → List Char
  | '+' :: rest => rest
  | '-' :: rest => rest
  | cs => cs

/-- Digits with a zero in front that are no number but a text. -/
def isPaddedDigits (cs : List Char) : Bool :=
  match unsigned cs with
  | '0' :: rest => !rest.isEmpty && rest.all Char.isDigit
  | _ => false

def digitsIn? (base : Nat) (cs : List Char) : Option Nat :=
  if cs.isEmpty then none
  else cs.foldlM (fun value ch => do
    let d ← Json.hexValue? ch
    if d < base then return value * base + d else none) 0

/-- The value of digits whose base is told by what stands before them; digits in base ten may not
have a zero in front. -/
def basedDigits? (cs : List Char) : Option Nat :=
  match cs with
  | '0' :: 'x' :: rest => digitsIn? 16 rest
  | '0' :: 'o' :: rest => digitsIn? 8 rest
  | '0' :: 'b' :: rest => digitsIn? 2 rest
  | cs => if isPaddedDigits cs then none else digitsIn? 10 cs

def intOf? : List Char → Option Int
  | '+' :: rest => (basedDigits? rest).map fun n => (n : Int)
  | '-' :: rest => (basedDigits? rest).map fun n => -(n : Int)
  | cs => (basedDigits? cs).map fun n => (n : Int)

def bits (n : Nat) : Int := Int.ofNat (Nat.pow 2 n)

/-- An integer as it is found: those beyond 64 bits name their width, and beyond 128 bits there are
none. -/
def foundInt? (n : Int) : Option Found :=
  if -bits 63 ≤ n ∧ n < bits 64 then some (.integer n)
  else if 0 ≤ n ∧ n < bits 128 then some (.wideInteger n "u128")
  else if n < 0 ∧ -bits 127 ≤ n then some (.wideInteger n "i128")
  else none

def exponentOf? : List Char → Option Int
  | [] => some 0
  | e :: rest =>
    if e = 'e' || e = 'E' then
      let digits := unsigned rest
      if digits.isEmpty || !digits.all Char.isDigit then none
      else
        let value : Int := min (Json.digitsValue digits) 100000
        some (if rest.head? = some '-' then -value else value)
    else none

/-- The double that a text spells in decimal notation; one that is too large is none. -/
def decimalOf? (cs : List Char) : Option Binary64 := do
  let body := unsigned cs
  let whole := body.takeWhile Char.isDigit
  let rest := body.dropWhile Char.isDigit
  let (fraction, rest) :=
    match rest with
    | '.' :: rest => (rest.takeWhile Char.isDigit, rest.dropWhile Char.isDigit)
    | rest => ([], rest)
  if whole.isEmpty && fraction.isEmpty then none
  let exponent ← exponentOf? rest
  Binary64.nearestDecimal (cs.head? = some '-') (Json.digitsValue (whole ++ fraction))
    (exponent - (fraction.length : Int))

def floatOf? (s : String) : Option String :=
  let cs := s.toList
  let positive := match cs with
    | '+' :: rest => rest
    | cs => cs
  if cs.head? = some '+' && (positive.head? = some '+' || positive.head? = some '-') then none
  else
    let special := String.ofList positive
    if special = ".inf" || special = ".Inf" || special = ".INF" then some "inf"
    else if s = "-.inf" || s = "-.Inf" || s = "-.INF" then some "-inf"
    else if s = ".nan" || s = ".NaN" || s = ".NAN" then some "NaN"
    else (decimalOf? positive).map Decimal.positional

namespace Scalar

def standardTag (name : String) : Tag := .ofText ("tag:yaml.org,2002:" ++ name)

def resolvePlain (s : String) : Found :=
  let cs := s.toList
  if s.isEmpty || isNullText s then .unit
  else
    match boolOf? s with
    | some b => .bool b
    | none =>
      match (intOf? cs).bind foundInt? with
      | some found => found
      | none =>
        match (if isPaddedDigits cs then none else floatOf? s) with
        | some shown => .float shown
        | none => .text s

def mismatch (s wanted : String) : DecodeError := .invalidValue (.text s) wanted

/-- What a scalar is, or that its tag does not fit. -/
def resolve (v : Scalar) : Except DecodeError Found :=
  match v.tag with
  | none => .ok (if v.plain then resolvePlain v.text else .text v.text)
  | some tag =>
    if tag = standardTag "bool" then
      match boolOf? v.text with
      | some b => .ok (.bool b)
      | none => .error (mismatch v.text "a boolean")
    else if tag = standardTag "int" then
      match (intOf? v.text.toList).bind foundInt? with
      | some found => .ok found
      | none => .error (mismatch v.text "an integer")
    else if tag = standardTag "float" then
      match floatOf? v.text with
      | some shown => .ok (.float shown)
      | none => .error (mismatch v.text "a float")
    else if tag = standardTag "null" then
      if isNullText v.text then .ok .unit else .error (mismatch v.text "null")
    else .ok (if tag.isLocal && v.plain then resolvePlain v.text else .text v.text)

def isBlank (v : Scalar) : Bool := v.plain && v.text.isEmpty

end Scalar

end ClassPad.Yaml
