import ClassPad.Json.Reader
import ClassPad.Yaml.Cursor

/-!
Scalars of a YAML text: plain, quoted and block ones. Inside plain and quoted scalars a single line
break becomes a space and further ones stay; a block scalar keeps its lines or folds them. Reading
gives nothing where the text breaks a rule.
-/

set_option autoImplicit false
set_option relaxedAutoImplicit false

namespace ClassPad.Yaml

/-- Blanks and line breaks between two parts of a scalar. -/
structure Gap where
  spaces : List Char := []
  first : List Char := []
  more : List Char := []
  broken : Bool := false

namespace Gap

def text (g : Gap) : List Char :=
  if g.broken then
    if g.first = ['\n'] then (if g.more.isEmpty then [' '] else g.more) else g.first ++ g.more
  else g.spaces

/-- Reads a gap. Tabs are refused at the start of a line up to a given column. -/
def read (indent : Int) : Nat → Gap → Cursor → Option (Gap × Cursor)
  | 0, g, c => some (g, c)
  | fuel + 1, g, c =>
    match c.peek with
    | none => some (g, c)
    | some ch =>
      if isGap ch then
        if g.broken then
          if ch = '\t' ∧ (c.column : Int) < indent then none else read indent fuel g (c.skip 1)
        else read indent fuel { g with spaces := g.spaces ++ [ch] } (c.skip 1)
      else if isBreak ch then
        let (text, next) := c.takeBreak
        if g.broken then read indent fuel { g with more := g.more ++ text } next
        else read indent fuel { spaces := [], first := text, more := [], broken := true } next
      else some (g, c)

end Gap

def isFlowIndicator (c : Char) : Bool := c = ',' || c = '[' || c = ']' || c = '{' || c = '}'

/-- The characters of a plain scalar up to a blank or an indicator that ends it, newest first, with
what is left. -/
def plainRun (flow : Bool) (read : List Char) : List Char → Option (List Char × List Char)
  | [] => some (read, [])
  | ch :: rest =>
    if isGap ch || isBreak ch then some (read, ch :: rest)
    else if flow && ch = ':' && rest.head?.any (fun n => isFlowIndicator n || n = '?') then none
    else if (ch = ':' && isEdge rest.head?) || (flow && isFlowIndicator ch) then
      some (read, ch :: rest)
    else plainRun flow (ch :: read) rest

/-- Reads on in a plain scalar after a gap. The result tells the text in reverse, whether the scalar
ends after a line break, and where. -/
def plainTail (flow : Bool) (indent : Int) :
    Nat → List Char → Gap → Cursor → Option (List Char × Bool × Cursor)
  | 0, text, gap, c => some (text, gap.broken, c)
  | fuel + 1, text, gap, c =>
    if c.atAnyMark || c.isAt '#' then some (text, gap.broken, c)
    else do
      let (run, _) ← plainRun flow [] c.rest
      let next := c.skip run.length
      let text := if run.isEmpty then text else run ++ gap.text.reverse ++ text
      let gap := if run.isEmpty then gap else {}
      if !(next.atGap || next.atBreak) then return (text, gap.broken, next)
      let (gap, next) ← Gap.read indent next.bound gap next
      if !flow && (next.column : Int) < indent then return (text, gap.broken, next)
      plainTail flow indent fuel text gap next

/-- Reads a plain scalar inside a collection of a given indentation. The Boolean tells whether a
line break follows. -/
def plainScalar (flow : Bool) (indent : Int) (c : Cursor) : Option (List Char × Bool × Cursor) := do
  let (text, broken, next) ← plainTail flow (indent + 1) c.bound [] {} c
  return (text.reverse, broken, next)

def hexDigits : Nat → Nat → List Char → Option Nat
  | 0, value, _ => some value
  | n + 1, value, ch :: rest => do hexDigits n (16 * value + (← Json.hexValue? ch)) rest
  | _ + 1, _, [] => none

def hexEscape (digits : Nat) (rest : List Char) : Option (Char × Nat) := do
  let value ← hexDigits digits 0 rest
  if value.isValidChar then some (Char.ofNat value, digits + 1) else none

/-- The character that an escape stands for and the length of the escape, after the backslash. -/
def escape : List Char → Option (Char × Nat)
  | 'x' :: rest => hexEscape 2 rest
  | 'u' :: rest => hexEscape 4 rest
  | 'U' :: rest => hexEscape 8 rest
  | '0' :: _ => some ('\x00', 1)
  | 'a' :: _ => some ('\x07', 1)
  | 'b' :: _ => some ('\x08', 1)
  | 't' :: _ => some ('\t', 1)
  | '\t' :: _ => some ('\t', 1)
  | 'n' :: _ => some ('\n', 1)
  | 'v' :: _ => some ('\x0b', 1)
  | 'f' :: _ => some ('\x0c', 1)
  | 'r' :: _ => some ('\r', 1)
  | 'e' :: _ => some ('\x1b', 1)
  | ' ' :: _ => some (' ', 1)
  | '\x22' :: _ => some ('\x22', 1)
  | '/' :: _ => some ('/', 1)
  | '\\' :: _ => some ('\\', 1)
  | 'N' :: _ => some ('\x85', 1)
  | '_' :: _ => some ('\xa0', 1)
  | 'L' :: _ => some ('\u2028', 1)
  | 'P' :: _ => some ('\u2029', 1)
  | _ => none

/-- The characters of a quoted scalar up to its end, a blank or an escaped line break, which the
Boolean tells; newest first, with the place after them. -/
def quotedRun (quote : Char) : Nat → List Char → Cursor → Option (List Char × Bool × Cursor)
  | 0, text, c => some (text, false, c)
  | fuel + 1, text, c =>
    match c.rest with
    | [] => some (text, false, c)
    | ch :: rest =>
      if isGap ch || isBreak ch then some (text, false, c)
      else if ch = quote then
        if quote = '\x27' && rest.head? = some quote then
          quotedRun quote fuel (quote :: text) (c.skip 2)
        else some (text, false, c)
      else if ch = '\\' && quote = '\x22' then
        if rest.head?.any isBreak then some (text, true, (c.skip 1).skipBreak)
        else do
          let (value, length) ← escape rest
          quotedRun quote fuel (value :: text) (c.skip (length + 1))
      else quotedRun quote fuel (ch :: text) (c.skip 1)

def quotedTail (quote : Char) : Nat → List Char → Cursor → Option (List Char × Cursor)
  | 0, _, _ => none
  | fuel + 1, text, c =>
    if c.atAnyMark || c.atEnd then none
    else do
      let (text, broken, next) ← quotedRun quote c.bound text c
      if next.isAt quote then return (text, next.skip 1)
      let (gap, next) ← Gap.read 0 next.bound { broken := broken } next
      quotedTail quote fuel (gap.text.reverse ++ text) next

def quotedScalar (quote : Char) (c : Cursor) : Option (List Char × Cursor) := do
  let (text, next) ← quotedTail quote c.bound [] (c.skip 1)
  return (text.reverse, next)

/-- What becomes of the line breaks at the end of a block scalar. -/
inductive Chomping where
  /-- All but one go. -/
  | clip
  /-- All go. -/
  | strip
  /-- All stay. -/
  | keep
deriving DecidableEq, Repr

def chomping? : Option Char → Option Chomping
  | some '+' => some .keep
  | some '-' => some .strip
  | _ => none

/-- Reads the indicators of a block scalar, in either order. An indentation of zero is refused. -/
def blockHeader (c : Cursor) : Option (Chomping × Nat × Cursor) :=
  let digit (c : Cursor) : Option (Nat × Cursor) :=
    match c.peek with
    | some '0' => none
    | some ch => if ch.isDigit then some (ch.toNat - '0'.toNat, c.skip 1) else some (0, c)
    | none => some (0, c)
  match chomping? c.peek with
  | some chomping => do
    let (indent, next) ← digit (c.skip 1)
    return (chomping, indent, next)
  | none => do
    let (indent, next) ← digit c
    match (if indent = 0 then none else chomping? next.peek) with
    | some chomping => return (chomping, indent, next.skip 1)
    | none => return (.clip, indent, next)

/-- Reads empty lines and indentation. An unknown indentation is zero; the widest seen is told. -/
def blockBreaks (indent : Nat) :
    Nat → Nat → List Char → Cursor → Option (List Char × Nat × Cursor)
  | 0, widest, breaks, c => some (breaks, widest, c)
  | fuel + 1, widest, breaks, c =>
    let spaces := Cursor.countWhile (· = ' ') 0 c.rest
    let c := c.skip (if indent = 0 then spaces else min spaces (indent - c.column))
    let widest := max widest c.column
    if (indent = 0 || decide (c.column < indent)) && c.isAt '\t' then none
    else if c.atBreak then
      let (text, next) := c.takeBreak
      blockBreaks indent fuel widest (breaks ++ text) next
    else some (breaks, widest, c)

/-- Reads the lines of a block scalar; the text is in reverse. The first list holds the line break
before the current line, the second one those after it; the Boolean tells whether the line before
started with a blank. -/
def blockLines (literal : Bool) (indent : Nat) :
    Nat → List Char → List Char → List Char → Bool → Cursor →
      Option (List Char × List Char × List Char × Cursor)
  | 0, text, first, more, _, c => some (text, first, more, c)
  | fuel + 1, text, first, more, blank, c =>
    if c.column = indent && !c.atEnd then do
      let starts := c.atGap
      let joint :=
        if !literal && first = ['\n'] && !blank && !starts then
          (if more.isEmpty then [' '] else more)
        else first ++ more
      let (line, next) := c.takeWhile fun ch => !isBreak ch
      let (first, next) := next.takeBreak
      let (more, _, next) ← blockBreaks indent next.bound 0 [] next
      blockLines literal indent fuel (line.reverse ++ joint.reverse ++ text) first more starts next
    else some (text, first, more, c)

def blockScalar (literal : Bool) (outer : Int) (c : Cursor) : Option (List Char × Cursor) := do
  let (chomping, given, c) ← blockHeader (c.skip 1)
  let c := (c.skipWhile isGap).skipComment
  if !c.atLineEnd then none
  let c := c.skipBreak
  let fixed := if given = 0 then 0 else if 0 ≤ outer then outer.toNat + given else given
  let (breaks, widest, c) ← blockBreaks fixed c.bound 0 [] c
  let indent := if fixed = 0 then max (max widest (outer + 1).toNat) 1 else fixed
  let (text, first, more, c) ← blockLines literal indent c.bound [] [] breaks false c
  let tail := match chomping with
    | .strip => []
    | .clip => first
    | .keep => first ++ more
  return (text.reverse ++ tail, c)

end ClassPad.Yaml
