import ClassPad.Text.Utf8

/-!
Percent encoding. Controls and characters beyond ASCII are always encoded, byte by byte in UTF-8;
each part of an address adds characters of its own. What is encoded already stays as it is.
-/

set_option autoImplicit false
set_option relaxedAutoImplicit false

namespace ClassPad.Uri

private def upperHex (n : Nat) : Char := ((Nat.toDigits 16 n).headD '0').toUpper

def percentByte (b : Nat) : List Char := ['%', upperHex (b / 16), upperHex (b % 16)]

/-- Controls and characters beyond ASCII. -/
def isControl (c : Char) : Bool := decide (c.toNat < 0x20) || decide (0x7E < c.toNat)

/-- Encodes the characters of a text that are controls or among the given ones. -/
def percentEncode (also : List Char) (text : List Char) : List Char :=
  text.flatMap fun c =>
    if isControl c || also.contains c then (Text.bytesOf c).flatMap percentByte else [c]

def fragmentSet : List Char := [' ', '\x22', '<', '>', '\x60']

def pathSet : List Char := fragmentSet ++ ['#', '?', '\x7b', '\x7d']

def userSet : List Char := pathSet ++ ['/', ':', ';', '=', '@', '[', '\\', ']', '^', '|']

/-- What a query encodes; an address with a well-known scheme encodes the apostrophe too. -/
def querySet (special : Bool) : List Char :=
  [' ', '\x22', '#', '<', '>'] ++ (if special then ['\x27'] else [])

private def nibble? (c : Char) : Option Nat :=
  if '0' ≤ c ∧ c ≤ '9' then some (c.toNat - '0'.toNat)
  else if 'a' ≤ c ∧ c ≤ 'f' then some (c.toNat - 'a'.toNat + 10)
  else if 'A' ≤ c ∧ c ≤ 'F' then some (c.toNat - 'A'.toNat + 10)
  else none

def percentDecode : List Char → List Nat
  | [] => []
  | '%' :: a :: b :: rest =>
    match nibble? a, nibble? b with
    | some x, some y => (x * 16 + y) :: percentDecode rest
    | _, _ => Text.bytesOf '%' ++ percentDecode (a :: b :: rest)
  | c :: rest => Text.bytesOf c ++ percentDecode rest

end ClassPad.Uri
