import ClassPad.Text.Utf8
import ClassPad.Yaml.Scalar

/-!
Tokens of a YAML text. Indentation opens and closes block collections, and a node on one line may
turn out to be a key by the colon after it, so a token is given out only when no later colon can
put a key before it.
-/

set_option autoImplicit false
set_option relaxedAutoImplicit false

namespace ClassPad.Yaml

/-- A tag, byte by byte: escapes in it may spell what is no text. -/
structure Tag where
  bytes : List Nat
deriving DecidableEq, Repr

namespace Tag

def ofText (s : String) : Tag := ⟨s.toList.flatMap Text.bytesOf⟩

def text? (t : Tag) : Option String := (Text.ofUtf8? t.bytes).map String.ofList

/-- A tag up to a zero byte. -/
def cut (t : Tag) : Tag := ⟨t.bytes.takeWhile (· ≠ 0)⟩

def append (start rest : Tag) : Tag := ⟨start.cut.bytes ++ rest.cut.bytes⟩

def bare : Tag := ⟨['!'.toNat]⟩

def isLocal (t : Tag) : Bool := t.bytes.head? = some '!'.toNat

end Tag

inductive Token where
  | streamStart
  | streamEnd
  | version (major minor : Nat)
  | tagDirective (handle : List Char) (start : Tag)
  | documentStart
  | documentEnd
  | blockSequenceStart
  | blockMappingStart
  | blockEnd
  | flowSequenceStart
  | flowSequenceEnd
  | flowMappingStart
  | flowMappingEnd
  | blockEntry
  | flowEntry
  | key
  | value
  | alias (name : List Char)
  | anchor (name : List Char)
  | tag (handle : List Char) (suffix : Tag)
  | scalar (text : List Char) (plain : Bool)
deriving DecidableEq, Repr

structure Placed where
  token : Token
  start : Mark
  stop : Mark
deriving DecidableEq, Repr

/-- A node that may turn out to be a key. -/
structure KeyChance where
  required : Bool
  number : Nat
  index : Nat
  mark : Mark

/-- The state between two tokens. -/
structure Scanner where
  cursor : Cursor
  /-- Whether what follows the text cannot be read. -/
  isCut : Bool := false
  started : Bool := false
  queue : List Placed := []
  taken : Nat := 0
  indent : Int := -1
  outer : List Int := []
  /-- The possible key of each open collection in flow style, and of the block around them. -/
  keys : List (Option KeyChance) := [none]
  keyAllowed : Bool := true

namespace Scanner

def inFlow (s : Scanner) : Bool := decide (1 < s.keys.length)

def enqueue (s : Scanner) (start : Mark) (t : Token) : Scanner :=
  { s with queue := s.queue ++ [⟨t, start, s.cursor.mark⟩] }

/-- Puts a token of no width before the one with a given number. -/
def insertAt (s : Scanner) (number : Nat) (mark : Mark) (t : Token) : Scanner :=
  let n := number - s.taken
  { s with queue := s.queue.take n ++ ⟨t, mark, mark⟩ :: s.queue.drop n }

def skip (s : Scanner) (n : Nat) : Scanner := { s with cursor := s.cursor.skip n }

/-- Gives up possible keys that are too far back: they end with their line and after 1024
characters. -/
def dropStale (s : Scanner) : Option Scanner := do
  let keys ← s.keys.mapM fun chance =>
    match chance with
    | none => some none
    | some k =>
      if k.mark.line < s.cursor.line || k.index + 1024 < s.cursor.index then
        if k.required then none else some none
      else some (some k)
  return { s with keys := keys }

def dropKey (s : Scanner) : Option Scanner :=
  match s.keys with
  | some k :: rest => if k.required then none else some { s with keys := none :: rest }
  | _ => some s

def saveKey (s : Scanner) : Option Scanner :=
  if s.keyAllowed then do
    let s ← s.dropKey
    let chance : KeyChance :=
      { required := !s.inFlow && s.indent = (s.cursor.column : Int)
        number := s.taken + s.queue.length
        index := s.cursor.index
        mark := s.cursor.mark }
    return { s with keys := some chance :: s.keys.drop 1 }
  else some s

/-- Opens a block collection if the column of a mark is further in. -/
def rollIndent (s : Scanner) (mark : Mark) (number : Option Nat) (t : Token) : Scanner :=
  if s.inFlow then s
  else if s.indent < (mark.column : Int) then
    let s := { s with outer := s.indent :: s.outer, indent := mark.column }
    match number with
    | none => s.enqueue mark t
    | some n => s.insertAt n mark t
  else s

def unrollTo (mark : Mark) (column : Int) (indent : Int) (queue : List Placed) :
    List Int → Int × List Int × List Placed
  | [] => (indent, [], queue)
  | o :: outer =>
    if column < indent then unrollTo mark column o (queue ++ [⟨.blockEnd, mark, mark⟩]) outer
    else (indent, o :: outer, queue)

/-- Closes the block collections that are further in than a column. -/
def unrollIndent (s : Scanner) (column : Int) : Scanner :=
  if s.inFlow then s
  else
    let (indent, outer, queue) := unrollTo s.cursor.mark column s.indent s.queue s.outer
    { s with indent := indent, outer := outer, queue := queue }

/-- Passes blanks, comments and line breaks. A tab may not stand where a key may start, and a line
break lets one start. -/
def toNextToken : Nat → Scanner → Scanner
  | 0, s => s
  | fuel + 1, s =>
    let c := s.cursor
    let c := if c.column = 0 && c.isAt '\ufeff' then c.skip 1 else c
    let tabs := s.inFlow || !s.keyAllowed
    let c := (c.skipWhile fun ch => ch = ' ' || (tabs && ch = '\t')).skipComment
    if c.atBreak then
      toNextToken fuel
        { s with cursor := c.skipBreak, keyAllowed := if s.inFlow then s.keyAllowed else true }
    else { s with cursor := c }

def isUriChar (verbatim : Bool) (c : Char) : Bool :=
  isNameChar c || c = ';' || c = '/' || c = '?' || c = ':' || c = '@' || c = '&' || c = '=' ||
    c = '+' || c = '$' || c = '.' || c = '%' || c = '!' || c = '~' || c = '*' || c = '\x27' ||
    c = '(' || c = ')' ||
    (verbatim && (c = ',' || c = '[' || c = ']'))

def escapedByte : List Char → Option Nat
  | '%' :: a :: b :: _ => do return 16 * (← Json.hexValue? a) + (← Json.hexValue? b)
  | _ => none

/-- The number of bytes of a character by its first byte. -/
def leadWidth (byte : Nat) : Option Nat :=
  if byte < 0x80 then some 1
  else if byte / 0x20 = 6 then some 2
  else if byte / 0x10 = 14 then some 3
  else if byte / 8 = 30 then some 4
  else none

def escapedTail : Nat → List Char → Option (List Nat)
  | 0, _ => some []
  | n + 1, cs => do
    let byte ← escapedByte cs
    if byte / 0x40 = 2 then return byte :: (← escapedTail n (cs.drop 3)) else none

def escapedChar (cs : List Char) : Option (List Nat) := do
  let lead ← escapedByte cs
  let width ← leadWidth lead
  return lead :: (← escapedTail (width - 1) (cs.drop 3))

def tagUri (verbatim : Bool) : Nat → List Nat → Cursor → Option (List Nat × Cursor)
  | 0, bytes, c => some (bytes, c)
  | fuel + 1, bytes, c =>
    match c.peek with
    | some '%' => do
      let here ← escapedChar c.rest
      tagUri verbatim fuel (here.reverse ++ bytes) (c.skip (3 * here.length))
    | some ch =>
      if isUriChar verbatim ch then tagUri verbatim fuel (ch.toNat :: bytes) (c.skip 1)
      else some (bytes, c)
    | none => some (bytes, c)

/-- Reads the handle of a tag: an exclamation mark, a name, and perhaps another one. -/
def tagHandle (c : Cursor) : Option (List Char × Cursor) :=
  if c.isAt '!' then
    let (name, next) := (c.skip 1).takeWhile isNameChar
    if next.isAt '!' then some ('!' :: name ++ ['!'], next.skip 1) else some ('!' :: name, next)
  else none

def tag (inFlow : Bool) (c : Cursor) : Option (Token × Cursor) := do
  let (handle, suffix, next) ←
    if c.peekAt 1 = some '<' then do
      let (bytes, next) ← tagUri true c.bound [] (c.skip 2)
      if bytes.isEmpty || !next.isAt '>' then none
      some ([], Tag.mk bytes.reverse, next.skip 1)
    else do
      let (handle, next) ← tagHandle c
      if 1 < handle.length && handle.getLast? = some '!' then
        let (bytes, next) ← tagUri false c.bound [] next
        if bytes.isEmpty then none
        some (handle, Tag.mk bytes.reverse, next)
      else
        let (bytes, next) ← tagUri false c.bound ((handle.drop 1).map Char.toNat).reverse next
        let suffix := Tag.mk bytes.reverse
        if suffix.cut.bytes.isEmpty then some ([], Tag.bare, next) else some (['!'], suffix, next)
  if (inFlow && next.isAt ',') || next.edgeAt 0 then return (.tag handle suffix, next) else none

def anchorName (c : Cursor) : Option (List Char × Cursor) :=
  let (name, next) := (c.skip 1).takeWhile isNameChar
  let ends := next.edgeAt 0 || next.peek.any fun ch =>
    ch = '?' || ch = ':' || ch = ',' || ch = ']' || ch = '}' || ch = '%' || ch = '@' || ch = '\x60'
  if name.isEmpty || !ends then none else some (name, next)

def versionPart (c : Cursor) : Option (Nat × Cursor) :=
  let (digits, next) := c.takeWhile Char.isDigit
  if digits.isEmpty || decide (9 < digits.length) then none
  else some (Json.digitsValue digits, next)

def directive (c : Cursor) : Option (Token × Cursor) := do
  let (name, next) := (c.skip 1).takeWhile isNameChar
  if name.isEmpty || !next.edgeAt 0 then none
  let (token, next) ←
    if name = ['Y', 'A', 'M', 'L'] then do
      let (major, next) ← versionPart (next.skipWhile isGap)
      if !next.isAt '.' then none
      let (minor, next) ← versionPart (next.skip 1)
      some (Token.version major minor, next)
    else if name = ['T', 'A', 'G'] then do
      let (handle, next) ← tagHandle (next.skipWhile isGap)
      if handle ≠ ['!'] && handle.getLast? ≠ some '!' then none
      if !next.atGap then none
      let (bytes, next) ← tagUri true c.bound [] (next.skipWhile isGap)
      if bytes.isEmpty || !next.edgeAt 0 then none
      some (Token.tagDirective handle ⟨bytes.reverse⟩, next)
    else none
  let next := (next.skipWhile isGap).skipComment
  if next.atLineEnd then return (token, next.skipBreak) else none

/-- The end of the text, which also ends its last line. -/
def fetchStreamEnd (s : Scanner) : Option Scanner := do
  let s ← (s.unrollIndent (-1)).dropKey
  let c := s.cursor
  let c := if c.column = 0 then c else { c with line := c.line + 1, column := 0 }
  return { s with keyAllowed := false, cursor := c }.enqueue c.mark .streamEnd

def fetchDirective (s : Scanner) : Option Scanner := do
  let s ← (s.unrollIndent (-1)).dropKey
  let (token, next) ← directive s.cursor
  return { s with keyAllowed := false, cursor := next }.enqueue s.cursor.mark token

def fetchMark (s : Scanner) (t : Token) : Option Scanner := do
  let s ← (s.unrollIndent (-1)).dropKey
  return ({ s with keyAllowed := false }.skip 3).enqueue s.cursor.mark t

def fetchFlowStart (s : Scanner) (t : Token) : Option Scanner := do
  let s ← s.saveKey
  return ({ s with keys := none :: s.keys, keyAllowed := true }.skip 1).enqueue s.cursor.mark t

def fetchFlowEnd (s : Scanner) (t : Token) : Option Scanner := do
  let s ← s.dropKey
  let keys := if s.inFlow then s.keys.drop 1 else s.keys
  return ({ s with keys := keys, keyAllowed := false }.skip 1).enqueue s.cursor.mark t

def fetchFlowEntry (s : Scanner) : Option Scanner := do
  let s ← s.dropKey
  return ({ s with keyAllowed := true }.skip 1).enqueue s.cursor.mark .flowEntry

def fetchBlockEntry (s : Scanner) : Option Scanner := do
  if !s.inFlow && !s.keyAllowed then none
  let s ← (s.rollIndent s.cursor.mark none .blockSequenceStart).dropKey
  return ({ s with keyAllowed := true }.skip 1).enqueue s.cursor.mark .blockEntry

def fetchKey (s : Scanner) : Option Scanner := do
  if !s.inFlow && !s.keyAllowed then none
  let s ← (s.rollIndent s.cursor.mark none .blockMappingStart).dropKey
  return ({ s with keyAllowed := !s.inFlow }.skip 1).enqueue s.cursor.mark .key

/-- A colon: what stands before it on the line may be its key. -/
def fetchValue (s : Scanner) : Option Scanner :=
  match s.keys with
  | some k :: rest =>
    let s :=
      (s.insertAt k.number k.mark .key).rollIndent k.mark (some k.number) .blockMappingStart
    let s := { s with keys := none :: rest, keyAllowed := false }
    some ((s.skip 1).enqueue s.cursor.mark .value)
  | _ => do
    if !s.inFlow && !s.keyAllowed then none
    let s := s.rollIndent s.cursor.mark none .blockMappingStart
    return ({ s with keyAllowed := !s.inFlow }.skip 1).enqueue s.cursor.mark .value

def fetchName (s : Scanner) (token : List Char → Token) : Option Scanner := do
  let s ← s.saveKey
  let (name, next) ← anchorName s.cursor
  return { s with keyAllowed := false, cursor := next }.enqueue s.cursor.mark (token name)

def fetchTag (s : Scanner) : Option Scanner := do
  let s ← s.saveKey
  let (token, next) ← tag s.inFlow s.cursor
  return { s with keyAllowed := false, cursor := next }.enqueue s.cursor.mark token

def fetchBlockScalar (s : Scanner) (literal : Bool) : Option Scanner := do
  let s ← s.dropKey
  let (text, next) ← blockScalar literal s.indent s.cursor
  return { s with keyAllowed := true, cursor := next }.enqueue s.cursor.mark (.scalar text false)

def fetchQuoted (s : Scanner) (quote : Char) : Option Scanner := do
  let s ← s.saveKey
  let (text, next) ← quotedScalar quote s.cursor
  return { s with keyAllowed := false, cursor := next }.enqueue s.cursor.mark (.scalar text false)

def fetchPlain (s : Scanner) : Option Scanner := do
  let s ← s.saveKey
  let (text, broken, next) ← plainScalar s.inFlow s.indent s.cursor
  return { s with keyAllowed := broken, cursor := next }.enqueue s.cursor.mark (.scalar text true)

/-- Characters that no plain scalar starts with, unless the character after them allows it. -/
def isIndicator (c : Char) : Bool :=
  "-?:,[]\x7b\x7d#&*!|>\x27\x22%@\x60".toList.contains c

def startsPlain (s : Scanner) : Bool :=
  match s.cursor.peek with
  | none => false
  | some ch =>
    !(isGap ch || isBreak ch || isIndicator ch) ||
      (ch = '-' && !(s.cursor.peekAt 1).any isGap) ||
      (!s.inFlow && (ch = '?' || ch = ':') && !s.cursor.edgeAt 1)

/-- Gives up if fewer characters are left than have to be looked at, and more cannot be read. -/
def lookAhead (s : Scanner) (n : Nat) : Option Scanner :=
  if s.isCut && (s.cursor.rest.drop (n - 1)).isEmpty then none else some s

def fetchHere (s : Scanner) : Option Scanner :=
  let c := s.cursor
  match c.peek with
  | none => s.fetchStreamEnd
  | some ch =>
    if c.column = 0 && ch = '%' then s.fetchDirective
    else if c.atMark '-' then s.fetchMark .documentStart
    else if c.atMark '.' then s.fetchMark .documentEnd
    else if ch = '[' then s.fetchFlowStart .flowSequenceStart
    else if ch = '{' then s.fetchFlowStart .flowMappingStart
    else if ch = ']' then s.fetchFlowEnd .flowSequenceEnd
    else if ch = '}' then s.fetchFlowEnd .flowMappingEnd
    else if ch = ',' then s.fetchFlowEntry
    else if ch = '-' && c.edgeAt 1 then s.fetchBlockEntry
    else if ch = '?' && (s.inFlow || c.edgeAt 1) then s.fetchKey
    else if ch = ':' && (s.inFlow || c.edgeAt 1) then s.fetchValue
    else if ch = '*' then s.fetchName .alias
    else if ch = '&' then s.fetchName .anchor
    else if ch = '!' then s.fetchTag
    else if ch = '|' && !s.inFlow then s.fetchBlockScalar true
    else if ch = '>' && !s.inFlow then s.fetchBlockScalar false
    else if ch = '\x27' then s.fetchQuoted '\x27'
    else if ch = '\x22' then s.fetchQuoted '\x22'
    else if s.startsPlain then s.fetchPlain
    else none

def fetch (s : Scanner) : Option Scanner :=
  if !s.started then some ({ s with started := true }.enqueue s.cursor.mark .streamStart)
  else do
    let s ← (toNextToken s.cursor.bound s).dropStale
    let s ← (s.unrollIndent s.cursor.column).lookAhead 4
    (← s.fetchHere).lookAhead 2

/-- Reads on until the next token is settled. -/
def settle : Nat → Scanner → Option Scanner
  | 0, _ => none
  | fuel + 1, s => do
    if s.queue.isEmpty then settle fuel (← s.fetch)
    else
      let s ← s.dropStale
      if s.keys.any fun k => k.any fun k => k.number = s.taken then settle fuel (← s.fetch)
      else some s

def peek (s : Scanner) : Option (Placed × Scanner) := do
  let s ← settle (2 * s.cursor.bound + 4) s
  return (← s.queue.head?, s)

def take (s : Scanner) : Scanner := { s with queue := s.queue.drop 1, taken := s.taken + 1 }

def ofText (text : List Char) (isCut : Bool) : Scanner :=
  { cursor := { rest := text }, isCut := isCut }

end Scanner

end ClassPad.Yaml
