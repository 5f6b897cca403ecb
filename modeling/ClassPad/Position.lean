import ClassPad.Text.Units

/-!
Positions in a text as an editor counts them: a line and a column in UTF-16 code units. Lines end
with a line feed, a carriage return, or the two together; the point between the two belongs to the
line that they end.

Moving on from one position by the extent of a text is associative, and the start of the text is its
unit, so the position of a point is the sum of the strides of the characters before it.
-/

set_option autoImplicit false
set_option relaxedAutoImplicit false

namespace ClassPad

/-- A point of a text: its line and its column, both from zero. -/
structure Position where
  line : Nat
  character : Nat
deriving DecidableEq, Repr, Inhabited

/-- The part of a text between two points. -/
structure Span where
  start : Position
  stop : Position
deriving DecidableEq, Repr, Inhabited

namespace Position

def zero : Position := ⟨0, 0⟩

/-- The point reached from `p` by a text that ends at `q` when it starts at the origin. -/
def advance (p q : Position) : Position :=
  if q.line = 0 then ⟨p.line, p.character + q.character⟩ else ⟨p.line + q.line, q.character⟩

/-- A position as it is sent: both numbers have 32 bits, and what is beyond them is lost. -/
def sent (p : Position) : Position := ⟨p.line % 4294967296, p.character % 4294967296⟩

def le (p q : Position) : Prop := p.line < q.line ∨ (p.line = q.line ∧ p.character ≤ q.character)

instance : LE Position := ⟨le⟩

instance (p q : Position) : Decidable (p ≤ q) :=
  inferInstanceAs (Decidable (p.line < q.line ∨ (p.line = q.line ∧ p.character ≤ q.character)))

@[simp] theorem zero_advance (p : Position) : zero.advance p = p := by
  cases p with
  | mk l c => by_cases h : l = 0 <;> simp [advance, zero, h]

@[simp] theorem advance_zero (p : Position) : p.advance zero = p := by
  simp [advance, zero]

theorem advance_assoc (p q r : Position) : (p.advance q).advance r = p.advance (q.advance r) := by
  unfold advance
  by_cases hq : q.line = 0 <;> by_cases hr : r.line = 0 <;> simp [hq, hr] <;> omega

end Position

def Span.sent (s : Span) : Span := ⟨s.start.sent, s.stop.sent⟩

namespace Text

/-- Whether a line ends after a character, given the one that follows. -/
def endsLine (c : Char) (next : Option Char) : Bool :=
  c = '\n' || (c = '\r' && next != some '\n')

/-- How far one character moves a position, given the one that follows. -/
def stride (c : Char) (next : Option Char) : Position :=
  if endsLine c next then ⟨1, 0⟩ else ⟨0, units16 c⟩

def positionFrom (p : Position) : List Char → Nat → Position
  | [], _ => p
  | _, 0 => p
  | c :: rest, n + 1 => positionFrom (p.advance (stride c rest.head?)) rest n

/-- The position of the point before the character with a given index; the end of the text if
there is no such character. -/
def positionAt (text : List Char) (index : Nat) : Position := positionFrom .zero text index

def positionOfByte (text : List Char) (offset : Nat) : Position :=
  positionAt text (indexOfByte text offset)

def offsetFrom (passed : Nat) : List Char → Position → Nat
  | [], _ => passed
  | c :: rest, ⟨0, column⟩ =>
    if c = '\n' ∨ c = '\r' then passed
    else if column < units16 c then passed
    else offsetFrom (passed + 1) rest ⟨0, column - units16 c⟩
  | c :: rest, ⟨line + 1, column⟩ =>
    offsetFrom (passed + 1) rest ⟨if endsLine c rest.head? then line else line + 1, column⟩

/-- The index of the point that a position means. A column past the end of its line means that end,
a line past the last one means the end of the text, and a column inside a character means the point
before it. -/
def offsetAt (text : List Char) (p : Position) : Nat := offsetFrom 0 text p

def breaksFrom (seen : Nat) : List Char → Nat
  | [] => seen
  | c :: rest => breaksFrom (if endsLine c rest.head? then seen + 1 else seen) rest

def breaks (text : List Char) : Nat := breaksFrom 0 text

/-- The number of lines of a text; the empty text has one. -/
def lineCount (text : List Char) : Nat := breaks text + 1

end Text

end ClassPad
