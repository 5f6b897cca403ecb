/-!
A point of a YAML text: what is left, and how far in, on which line and in which column it starts.
-/

set_option autoImplicit false
set_option relaxedAutoImplicit false

namespace ClassPad.Yaml

def isBreak (c : Char) : Bool :=
  c = '\n' || c = '\r' || c = '\x85' || c = '\u2028' || c = '\u2029'

def isGap (c : Char) : Bool := c = ' ' || c = '\t'

def isNameChar (c : Char) : Bool := c.isAlphanum || c = '-' || c = '_'

def isAllowed (c : Char) : Bool :=
  let n := c.toNat
  n = 0x09 || n = 0x0A || n = 0x0D || (decide (0x20 ≤ n) && decide (n ≤ 0x7E)) || n = 0x85 ||
    (decide (0xA0 ≤ n) && decide (n ≤ 0xD7FF)) || (decide (0xE000 ≤ n) && decide (n ≤ 0xFFFD)) ||
    decide (0x10000 ≤ n)

def isEdge : Option Char → Bool
  | none => true
  | some c => isGap c || isBreak c

/-- A line and a column, both counted from zero. -/
structure Mark where
  line : Nat := 0
  column : Nat := 0
deriving DecidableEq, Repr

structure Cursor where
  rest : List Char
  index : Nat := 0
  line : Nat := 0
  column : Nat := 0
  /-- More than the length of the whole text, which bounds every loop over it. -/
  bound : Nat := rest.length + 1
deriving Repr

namespace Cursor

def mark (c : Cursor) : Mark := ⟨c.line, c.column⟩

def peek (c : Cursor) : Option Char := c.rest.head?

def peekAt (c : Cursor) (n : Nat) : Option Char := c.rest[n]?

def isAt (c : Cursor) (ch : Char) : Bool := c.peek = some ch

def atGap (c : Cursor) : Bool := c.peek.any isGap

def atBreak (c : Cursor) : Bool := c.peek.any isBreak

def atEnd (c : Cursor) : Bool := c.rest.isEmpty

def atLineEnd (c : Cursor) : Bool := c.atEnd || c.atBreak

def edgeAt (c : Cursor) (n : Nat) : Bool := isEdge (c.peekAt n)

def skip (c : Cursor) (n : Nat) : Cursor :=
  { c with rest := c.rest.drop n, index := c.index + n, column := c.column + n }

/-- Reads a line break. A line feed stands for each break but the separators of lines and
paragraphs, which stand for themselves. -/
def takeBreak (c : Cursor) : List Char × Cursor :=
  match c.rest with
  | '\r' :: '\n' :: rest => (['\n'], ⟨rest, c.index + 2, c.line + 1, 0, c.bound⟩)
  | ch :: rest =>
    if isBreak ch then
      ([if ch = '\u2028' || ch = '\u2029' then ch else '\n'],
        ⟨rest, c.index + 1, c.line + 1, 0, c.bound⟩)
    else ([], c)
  | [] => ([], c)

def skipBreak (c : Cursor) : Cursor := c.takeBreak.2

def countWhile (p : Char → Bool) (n : Nat) : List Char → Nat
  | [] => n
  | ch :: rest => if p ch then countWhile p (n + 1) rest else n

def takeWhile (p : Char → Bool) (c : Cursor) : List Char × Cursor :=
  let n := countWhile p 0 c.rest
  (c.rest.take n, c.skip n)

def skipWhile (p : Char → Bool) (c : Cursor) : Cursor := (c.takeWhile p).2

def skipComment (c : Cursor) : Cursor :=
  if c.isAt '#' then c.skipWhile fun ch => !isBreak ch else c

/-- Whether a line starts here with a mark that starts or ends a document. -/
def atMark (c : Cursor) (mark : Char) : Bool :=
  c.column = 0 && c.rest.take 3 = [mark, mark, mark] && c.edgeAt 3

def atAnyMark (c : Cursor) : Bool := c.atMark '-' || c.atMark '.'

end Cursor

end ClassPad.Yaml
