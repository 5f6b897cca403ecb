import ClassPad.Text.Printable

/-!
Quoted text: how a message shows a text that it is about. The text stands between double quotes,
quotes and backslashes are escaped, and what a reader could not see is written as a code point.
-/

set_option autoImplicit false
set_option relaxedAutoImplicit false

namespace ClassPad.Text

def hexDigits (n : Nat) : List Char := Nat.toDigits 16 n

def quoteChar (c : Char) : List Char :=
  if c = '\x22' then ['\\', '\x22']
  else if c = '\\' then ['\\', '\\']
  else if c = '\n' then ['\\', 'n']
  else if c = '\r' then ['\\', 'r']
  else if c = '\t' then ['\\', 't']
  else if c = '\x00' then ['\\', '0']
  else if isPlain c then [c]
  else ['\\', 'u', '\x7b'] ++ hexDigits c.toNat ++ ['\x7d']

/-- A text between double quotes, every character in its quoted form. -/
def quoted (s : String) : String :=
  String.ofList ('\x22' :: s.toList.flatMap quoteChar ++ ['\x22'])

end ClassPad.Text
