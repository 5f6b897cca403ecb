/-!
Tables of runs: properties of characters, given for stretches of consecutive code points. A table is
written as a text, one word for each run: its two ends in hexadecimal, or one if they are the same,
and what the run stands for. The runs of a table ascend, so that a code point is found by halving.
-/

set_option autoImplicit false
set_option relaxedAutoImplicit false

namespace ClassPad.Text

/-- Consecutive code points with something in common. -/
structure Run (α : Type) where
  first : Nat
  last : Nat
  value : α
deriving Repr

def isTableDigit (c : Char) : Bool := c.isDigit || (decide ('a' ≤ c) && decide (c ≤ 'f'))

def tableNumber (digits : List Char) : Nat :=
  digits.foldl (fun n c => 16 * n + (if c.isDigit then c.toNat - 48 else c.toNat - 87)) 0

/-- The characters whose code points are listed with commas between them. -/
def tableText (codes : List Char) : List Char :=
  ((String.ofList codes).splitOn ",").filterMap fun s =>
    if s.isEmpty then none else some (Char.ofNat (tableNumber s.toList))

namespace Run

variable {α : Type}

def ofWord (value : List Char → α) (word : List Char) : Run α :=
  let first := tableNumber (word.takeWhile isTableDigit)
  match word.dropWhile isTableDigit with
  | '-' :: rest =>
    ⟨first, tableNumber (rest.takeWhile isTableDigit), value (rest.dropWhile isTableDigit)⟩
  | rest => ⟨first, first, value rest⟩

end Run

/-- Runs in ascending order. -/
structure RunTable (α : Type) where
  runs : Array (Run α)

namespace RunTable

variable {α : Type}

/-- Reads a table, whose words are divided by blanks and line breaks. -/
def ofText (value : List Char → α) (text : String) : RunTable α :=
  let words := (text.splitOn "\n").flatMap fun line => line.splitOn " "
  ⟨((words.filter (· ≠ "")).map fun word => Run.ofWord value word.toList).toArray⟩

def search (t : RunTable α) (n low high : Nat) : Option (Run α) :=
  if low < high then
    let middle := (low + high) / 2
    match t.runs[middle]? with
    | none => none
    | some run =>
      if n < run.first then search t n low middle
      else if run.last < n then search t n (middle + 1) high
      else some run
  else none
termination_by high - low

def find? (t : RunTable α) (n : Nat) : Option (Run α) := t.search n 0 t.runs.size

def get? (t : RunTable α) (c : Char) : Option α := (t.find? c.toNat).map Run.value

def contains (t : RunTable α) (c : Char) : Bool := (t.find? c.toNat).isSome

end RunTable

end ClassPad.Text
