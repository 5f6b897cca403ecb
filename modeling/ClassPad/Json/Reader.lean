import ClassPad.Json.Value

/-!
Reading JSON text. A number is an integer if it has neither fraction nor exponent and lies between
`-2 ^ 63` and `2 ^ 64 - 1`; every other number is a double, and so is `-0`. The digits of a double
are kept up to the size of a 64-bit word before they are scaled. Arrays and objects may be nested
127 deep.
-/

set_option autoImplicit false
set_option relaxedAutoImplicit false

namespace ClassPad.Json

open Decimal (Binary64)

def isSpace (c : Char) : Bool := c = ' ' || c = '\n' || c = '\t' || c = '\r'

def hexValue? (c : Char) : Option Nat :=
  if '0' ≤ c ∧ c ≤ '9' then some (c.toNat - '0'.toNat)
  else if 'a' ≤ c ∧ c ≤ 'f' then some (c.toNat - 'a'.toNat + 10)
  else if 'A' ≤ c ∧ c ≤ 'F' then some (c.toNat - 'A'.toNat + 10)
  else none

private def fourHex : List Char → Option (Nat × List Char)
  | a :: b :: c :: d :: rest => do
    let a ← hexValue? a
    let b ← hexValue? b
    let c ← hexValue? c
    let d ← hexValue? d
    some (((a * 16 + b) * 16 + c) * 16 + d, rest)
  | _ => none

/-- The character of an escape, after the backslash and the letter `u` of it. -/
private def unicodeEscape (cs : List Char) : Option (Char × List Char) := do
  let (unit, rest) ← fourHex cs
  if 0xD800 ≤ unit ∧ unit < 0xDC00 then
    match rest with
    | '\\' :: 'u' :: rest => do
      let (low, rest) ← fourHex rest
      if 0xDC00 ≤ low ∧ low < 0xE000 then
        some (Char.ofNat (0x10000 + (unit - 0xD800) * 0x400 + (low - 0xDC00)), rest)
      else none
    | _ => none
  else if 0xDC00 ≤ unit ∧ unit < 0xE000 then none
  else some (Char.ofNat unit, rest)

private def escaped : List Char → Option (Char × List Char)
  | '\x22' :: rest => some ('\x22', rest)
  | '\\' :: rest => some ('\\', rest)
  | '/' :: rest => some ('/', rest)
  | 'b' :: rest => some ('\x08', rest)
  | 'f' :: rest => some ('\x0c', rest)
  | 'n' :: rest => some ('\n', rest)
  | 'r' :: rest => some ('\r', rest)
  | 't' :: rest => some ('\t', rest)
  | 'u' :: rest => unicodeEscape rest
  | _ => none

private def stringBody : Nat → List Char → List Char → Option (List Char × List Char)
  | 0, _, _ => none
  | fuel + 1, acc, cs =>
    match cs with
    | [] => none
    | '\x22' :: rest => some (acc, rest)
    | '\\' :: rest => do
      let (c, rest) ← escaped rest
      stringBody fuel (c :: acc) rest
    | c :: rest => if c.toNat < 0x20 then none else stringBody fuel (c :: acc) rest

private def stringTail (cs : List Char) : Option (String × List Char) := do
  let (acc, rest) ← stringBody (cs.length + 1) [] cs
  some (String.ofList acc.reverse, rest)

def digitsValue (digits : List Char) : Nat :=
  digits.foldl (fun n c => n * 10 + (c.toNat - '0'.toNat)) 0

/-- Takes digits into a word as long as they fit, and counts those left over. -/
private def takeWord : Nat → List Char → Nat × Nat
  | word, [] => (word, 0)
  | word, c :: rest =>
    let next := word * 10 + (c.toNat - '0'.toNat)
    if next < Nat.pow 2 64 then takeWord next rest else (word, rest.length + 1)

private def decimal (negative : Bool) (whole fraction : List Char) (exponent : Int) :
    Option Binary64 :=
  let (word, left) := takeWord 0 whole
  if left = 0 then
    let (word', left') := takeWord word fraction
    Binary64.ofDecimal negative word' (exponent - ((fraction.length : Int) - left'))
  else
    let (word', left') := if fraction.isEmpty then (word, 0) else takeWord word fraction
    Binary64.ofDecimal negative word' (exponent + left - ((fraction.length : Int) - left'))

private def exponentPart (cs : List Char) : Option (Option Int × List Char) :=
  match cs with
  | c :: rest =>
    if c = 'e' ∨ c = 'E' then
      let (sign, rest) : Int × List Char := match rest with
        | '+' :: rest => (1, rest)
        | '-' :: rest => (-1, rest)
        | rest => (1, rest)
      let digits := rest.takeWhile Char.isDigit
      if digits.isEmpty then none
      else some (some (sign * (digitsValue digits : Int)), rest.dropWhile Char.isDigit)
    else some (none, cs)
  | [] => some (none, [])

private def fractionPart (cs : List Char) : Option (List Char × List Char) :=
  match cs with
  | '.' :: rest =>
    let digits := rest.takeWhile Char.isDigit
    if digits.isEmpty then none else some (digits, rest.dropWhile Char.isDigit)
  | cs => some ([], cs)

private def clampExponent (e : Int) : Int := max (-100000) (min 100000 e)

private def numberTail (negative : Bool) (cs : List Char) : Option (Json × List Char) := do
  let whole := cs.takeWhile Char.isDigit
  let rest := cs.dropWhile Char.isDigit
  if whole.isEmpty || (whole.head? = some '0' && decide (1 < whole.length)) then none
  else
    let (fraction, rest) ← fractionPart rest
    let (exponent, rest) ← exponentPart rest
    let n := digitsValue whole
    if fraction.isEmpty && exponent.isNone then
      if negative then
        if 0 < n ∧ n ≤ Nat.pow 2 63 then some (.int (-n), rest)
        else (decimal true whole [] 0).map fun x => (.float x, rest)
      else if n < Nat.pow 2 64 then some (.int n, rest)
      else (decimal false whole [] 0).map fun x => (.float x, rest)
    else
      (decimal negative whole fraction (clampExponent (exponent.getD 0))).map
        fun x => (.float x, rest)

private def items (value : List Char → Option (Json × List Char)) :
    Nat → List Json → List Char → Option (List Json × List Char)
  | 0, _, _ => none
  | fuel + 1, acc, cs => do
    let (v, rest) ← value cs
    match rest.dropWhile isSpace with
    | ',' :: rest => items value fuel (v :: acc) rest
    | ']' :: rest => some (v :: acc, rest)
    | _ => none

private def members (value : List Char → Option (Json × List Char)) :
    Nat → List (String × Json) → List Char → Option (List (String × Json) × List Char)
  | 0, _, _ => none
  | fuel + 1, acc, cs =>
    match cs.dropWhile isSpace with
    | '\x22' :: rest => do
      let (key, rest) ← stringTail rest
      match rest.dropWhile isSpace with
      | ':' :: rest => do
        let (v, rest) ← value rest
        match rest.dropWhile isSpace with
        | ',' :: rest => members value fuel ((key, v) :: acc) rest
        | '}' :: rest => some ((key, v) :: acc, rest)
        | _ => none
      | _ => none
    | _ => none

/-- A value at the start of a text, with the number of containers it may open. -/
def readValue (depth : Nat) (cs : List Char) : Option (Json × List Char) :=
  match cs.dropWhile isSpace with
  | 'n' :: 'u' :: 'l' :: 'l' :: rest => some (.null, rest)
  | 't' :: 'r' :: 'u' :: 'e' :: rest => some (.bool true, rest)
  | 'f' :: 'a' :: 'l' :: 's' :: 'e' :: rest => some (.bool false, rest)
  | '\x22' :: rest => (stringTail rest).map fun r => (.str r.1, r.2)
  | '-' :: rest => numberTail true rest
  | '[' :: rest =>
    match depth with
    | 0 => none
    | depth + 1 =>
      match rest.dropWhile isSpace with
      | ']' :: rest => some (.arr [], rest)
      | rest =>
        (items (readValue depth) (rest.length + 1) [] rest).map fun r => (.arr r.1.reverse, r.2)
  | '{' :: rest =>
    match depth with
    | 0 => none
    | depth + 1 =>
      match rest.dropWhile isSpace with
      | '}' :: rest => some (.obj [], rest)
      | rest => (members (readValue depth) (rest.length + 1) [] rest).map fun r =>
          (object r.1.reverse, r.2)
  | cs => numberTail false cs

/-- The value that a text holds, if it holds exactly one. -/
def parse? (text : String) : Option Json :=
  match readValue 127 text.toList with
  | some (v, rest) => if rest.all isSpace then some v else none
  | none => none

/-- The keys of the object that a text holds, in the order of the text and as often as they stand
there. -/
def keysOf (text : String) : List String :=
  match text.toList.dropWhile isSpace with
  | '{' :: rest =>
    match members (readValue 126) (rest.length + 1) [] rest with
    | some (read, _) => read.reverse.map Prod.fst
    | none => []
  | _ => []

end ClassPad.Json
