import ClassPad.Yaml.Token

/-!
Events of a YAML text: its nodes in the order of the text, with the starts and ends of collections
around what they hold. The events up to the first fault of the text can be used; an alias stands for
the node that its name was given to.
-/

set_option autoImplicit false
set_option relaxedAutoImplicit false

namespace ClassPad.Yaml

structure Scalar where
  text : String
  plain : Bool
  tag : Option Tag
deriving DecidableEq, Repr

/-- What stands in a node before its content, and where the node starts. -/
structure Properties where
  mark : Mark
  anchor : Option (List Char) := none
  tag : Option Tag := none

inductive Event where
  | streamStart
  | streamEnd
  | documentStart
  | documentEnd
  | alias (mark : Mark) (name : List Char)
  | scalar (mark : Mark) (anchor : Option (List Char)) (value : Scalar)
  | sequenceStart (properties : Properties)
  | sequenceEnd
  | mappingStart (properties : Properties)
  | mappingEnd

/-- What is expected next. -/
inductive Stage where
  | streamStart
  | documentStart (implicit : Bool)
  | documentContent
  | documentEnd
  | blockNode
  | blockSequence (first : Bool)
  | indentlessSequence
  | blockKey (first : Bool)
  | blockValue
  | flowSequence (first : Bool)
  | pairKey
  | pairValue
  | pairEnd
  | flowKey (first : Bool)
  | flowValue (empty : Bool)
  | finished

structure Parser where
  scanner : Scanner
  stage : Stage := .streamStart
  stack : List Stage := []
  handles : List (List Char × Tag) := []

namespace Parser

/-- A step: an event and the state after it, or nothing where the text breaks a rule. -/
abbrev Step := Option (Event × Parser)

/-- The next token, and the state in which it is still to be taken. -/
def peek (p : Parser) : Option (Placed × Parser) := do
  let (t, s) ← p.scanner.peek
  return (t, { p with scanner := s })

def take (p : Parser) : Parser := { p with scanner := p.scanner.take }

def goto (p : Parser) (stage : Stage) : Parser := { p with stage := stage }

def push (p : Parser) (stage : Stage) : Parser := { p with stack := stage :: p.stack }

def pop (p : Parser) : Parser :=
  match p.stack with
  | [] => p.goto .finished
  | stage :: stack => { p with stage := stage, stack := stack }

def emptyScalar (p : Parser) (mark : Mark) : Event × Parser :=
  (.scalar mark none ⟨"", true, none⟩, p)

def fullTag (p : Parser) (handle : List Char) (suffix : Tag) : Option Tag :=
  if handle.isEmpty then some suffix.cut
  else (p.handles.lookup handle).map fun start => start.append suffix

def properties (p : Parser) : Option (Properties × Placed × Parser) := do
  let (first, p) ← p.peek
  let mark := first.start
  match first.token with
  | .anchor name =>
    let (t, p) ← p.take.peek
    match t.token with
    | .tag handle suffix =>
      let (t, q) ← p.take.peek
      let tag ← p.fullTag handle suffix
      return (⟨mark, some name, some tag⟩, t, q)
    | _ => return (⟨mark, some name, none⟩, t, p)
  | .tag handle suffix =>
    let (t, p) ← p.take.peek
    match t.token with
    | .anchor name =>
      let (t, q) ← p.take.peek
      let tag ← p.fullTag handle suffix
      return (⟨mark, some name, some tag⟩, t, q)
    | _ =>
      let tag ← p.fullTag handle suffix
      return (⟨mark, none, some tag⟩, t, p)
  | _ => return ({ mark := mark }, first, p)

/-- Reads a node. In a block it may be a block collection, and in a mapping also a sequence that is
not further in. -/
def node (block indentless : Bool) (p : Parser) : Step := do
  let (t, p) ← p.peek
  match t.token with
  | .alias name => return (.alias t.start name, p.take.pop)
  | _ =>
    let (props, t, p) ← p.properties
    match t.token with
    | .blockEntry =>
      if indentless then return (.sequenceStart props, p.goto .indentlessSequence)
      else bare props p
    | .scalar text plain =>
      return (.scalar props.mark props.anchor ⟨String.ofList text, plain, props.tag⟩, p.take.pop)
    | .flowSequenceStart => return (.sequenceStart props, p.goto (.flowSequence true))
    | .flowMappingStart => return (.mappingStart props, p.goto (.flowKey true))
    | .blockSequenceStart =>
      if block then return (.sequenceStart props, p.goto (.blockSequence true)) else bare props p
    | .blockMappingStart =>
      if block then return (.mappingStart props, p.goto (.blockKey true)) else bare props p
    | _ => bare props p
where
  bare (props : Properties) (p : Parser) : Step :=
    if props.anchor.isSome || props.tag.isSome then
      some (.scalar props.mark props.anchor ⟨"", true, props.tag⟩, p.pop)
    else none

def standardHandles : List (List Char × Tag) :=
  [(['!'], .bare), (['!', '!'], .ofText "tag:yaml.org,2002:")]

def directives : Nat → Bool → List (List Char × Tag) → Parser → Option (Token × Parser)
  | 0, _, _, _ => none
  | fuel + 1, versioned, handles, p => do
    let (t, p) ← p.peek
    match t.token with
    | .version major minor =>
      if versioned || major ≠ 1 || (minor ≠ 1 && minor ≠ 2) then none
      else directives fuel true handles p.take
    | .tagDirective handle start =>
      if (handles.lookup handle).isSome then none
      else directives fuel versioned ((handle, start) :: handles) p.take
    | t => return (t, { p with handles := handles ++ standardHandles })

def skipEnds : Nat → Parser → Option (Token × Parser)
  | 0, _ => none
  | fuel + 1, p => do
    let (t, p) ← p.peek
    if t.token = .documentEnd then skipEnds fuel p.take else return (t.token, p)

def documentStart (implicit : Bool) (p : Parser) : Step := do
  let bound := p.scanner.cursor.bound + 1
  let (t, p) ← if implicit then p.peek.map fun r => (r.1.token, r.2) else skipEnds bound p
  let explicit : Step := do
    let (t, p) ← directives bound false [] p
    if t = .documentStart then
      return (.documentStart, (p.take.push .documentEnd).goto .documentContent)
    else none
  match t with
  | .streamEnd => return (.streamEnd, p.take.goto .finished)
  | .documentStart => explicit
  | .version _ _ => explicit
  | .tagDirective _ _ => explicit
  | _ =>
    if implicit then
      return (.documentStart,
        { p with
          handles := standardHandles, stage := .blockNode, stack := .documentEnd :: p.stack })
    else explicit

def endsDocument : Token → Bool
  | .version _ _ => true
  | .tagDirective _ _ => true
  | .documentStart => true
  | .documentEnd => true
  | .streamEnd => true
  | _ => false

/-- Takes the start of a block collection, unless an entry of it was read before. -/
def enter (first : Bool) (p : Parser) : Option Parser :=
  if first then p.peek.map fun r => r.2.take else some p

def blockSequence (first : Bool) (p : Parser) : Step := do
  let (entry, p) ← (← p.enter first).peek
  match entry.token with
  | .blockEntry =>
    let (t, p) ← p.take.peek
    if t.token = .blockEntry || t.token = .blockEnd then
      return (p.goto (.blockSequence false)).emptyScalar entry.stop
    else node true false (p.push (.blockSequence false))
  | .blockEnd => return (.sequenceEnd, p.take.pop)
  | _ => none

/-- An entry of a sequence that is not further in than the mapping around it. -/
def indentlessSequence (p : Parser) : Step := do
  let (entry, p) ← p.peek
  match entry.token with
  | .blockEntry =>
    let (t, p) ← p.take.peek
    if [.blockEntry, .key, .value, .blockEnd].contains t.token then
      return (p.goto .indentlessSequence).emptyScalar entry.stop
    else node true false (p.push .indentlessSequence)
  | _ => return (.sequenceEnd, p.pop)

def blockKey (first : Bool) (p : Parser) : Step := do
  let (key, p) ← (← p.enter first).peek
  match key.token with
  | .key =>
    let (t, p) ← p.take.peek
    if [.key, .value, .blockEnd].contains t.token then
      return (p.goto .blockValue).emptyScalar key.stop
    else node true true (p.push .blockValue)
  | .blockEnd => return (.mappingEnd, p.take.pop)
  | _ => none

def blockValue (p : Parser) : Step := do
  let (value, p) ← p.peek
  if value.token = .value then
    let (t, p) ← p.take.peek
    if [.key, .value, .blockEnd].contains t.token then
      return (p.goto (.blockKey false)).emptyScalar value.stop
    else node true true (p.push (.blockKey false))
  else return (p.goto (.blockKey false)).emptyScalar value.start

/-- Takes the start of a collection in flow style, or the comma before a later entry of it. The end
of the collection may stand in its place. -/
def flowSeparator (first : Bool) (close : Token) (p : Parser) : Option (Placed × Parser) := do
  let (t, p) ← p.peek
  if first then p.take.peek
  else if t.token = close then return (t, p)
  else if t.token = .flowEntry then p.take.peek
  else none

/-- An entry of a sequence in flow style; a key in it starts a mapping of one pair. -/
def flowSequence (first : Bool) (p : Parser) : Step := do
  let (t, p) ← flowSeparator first .flowSequenceEnd p
  match t.token with
  | .flowSequenceEnd => return (.sequenceEnd, p.take.pop)
  | .key => return (.mappingStart { mark := t.start }, p.take.goto .pairKey)
  | _ => node false false (p.push (.flowSequence false))

def pairKey (p : Parser) : Step := do
  let (t, p) ← p.peek
  if [.value, .flowEntry, .flowSequenceEnd].contains t.token then
    return (p.take.goto .pairValue).emptyScalar t.stop
  else node false false (p.push .pairValue)

def pairValue (p : Parser) : Step := do
  let (value, p) ← p.peek
  if value.token = .value then
    let (t, p) ← p.take.peek
    if t.token = .flowEntry || t.token = .flowSequenceEnd then
      return (p.goto .pairEnd).emptyScalar t.start
    else node false false (p.push .pairEnd)
  else return (p.goto .pairEnd).emptyScalar value.start

/-- The end of a pair in a sequence, which is known only once the next token is. -/
def pairEnd (p : Parser) : Step := do
  let (_, p) ← p.peek
  return (.mappingEnd, p.goto (.flowSequence false))

def flowKey (first : Bool) (p : Parser) : Step := do
  let (t, p) ← flowSeparator first .flowMappingEnd p
  match t.token with
  | .flowMappingEnd => return (.mappingEnd, p.take.pop)
  | .key =>
    let (t, p) ← p.take.peek
    if [.value, .flowEntry, .flowMappingEnd].contains t.token then
      return (p.goto (.flowValue false)).emptyScalar t.start
    else node false false (p.push (.flowValue false))
  | _ => node false false (p.push (.flowValue true))

def flowValue (empty : Bool) (p : Parser) : Step := do
  let (value, p) ← p.peek
  if !empty && value.token = .value then
    let (t, p) ← p.take.peek
    if t.token = .flowEntry || t.token = .flowMappingEnd then
      return (p.goto (.flowKey false)).emptyScalar t.start
    else node false false (p.push (.flowKey false))
  else return (p.goto (.flowKey false)).emptyScalar value.start

def next (p : Parser) : Step :=
  match p.stage with
  | .streamStart => do
    let (_, p) ← p.peek
    return (.streamStart, p.take.goto (.documentStart true))
  | .documentStart implicit => documentStart implicit p
  | .documentContent => do
    let (t, p) ← p.peek
    if endsDocument t.token then return p.pop.emptyScalar t.start else node true false p
  | .documentEnd => do
    let (t, p) ← p.peek
    let p := if t.token = .documentEnd then p.take else p
    return (.documentEnd, p.goto (.documentStart false))
  | .blockNode => node true false p
  | .blockSequence first => blockSequence first p
  | .indentlessSequence => indentlessSequence p
  | .blockKey first => blockKey first p
  | .blockValue => blockValue p
  | .flowSequence first => flowSequence first p
  | .pairKey => pairKey p
  | .pairValue => pairValue p
  | .pairEnd => pairEnd p
  | .flowKey first => flowKey first p
  | .flowValue empty => flowValue empty p
  | .finished => none

/-- The parser of a text, behind which there may be what cannot be read. -/
def ofText (text : List Char) (isCut : Bool) : Parser := { scanner := .ofText text isCut }

end Parser

/-- An event inside a document; an alias names an anchor by its number. -/
inductive NodeEvent where
  | void
  | alias (anchor : Nat)
  | scalar (value : Scalar)
  | sequenceStart (tag : Option Tag)
  | sequenceEnd
  | mappingStart (tag : Option Tag)
  | mappingEnd
deriving Repr

/-- An event inside a document with the mark where it starts; only nodes have one that counts. -/
structure Located where
  event : NodeEvent
  mark : Mark := {}
deriving Repr

structure Document where
  events : List Located := []
  faulty : Bool := false
  /-- Whether nothing but the end of the text follows. -/
  single : Bool := true
  /-- For the number of each anchor the number of the event that has it. -/
  anchors : List (Nat × Nat) := []
deriving Repr

namespace Document

/-- The state while a document is collected: its events in reverse, their count, and the numbers of
the names given so far. -/
structure Builder where
  events : List Located := []
  count : Nat := 0
  names : List (List Char × Nat) := []
  anchors : List (Nat × Nat) := []

/-- Adds an event; a name that it is given is numbered by the count of different names before. -/
def Builder.add (b : Builder) (anchor : Option (List Char)) (e : Located) : Builder :=
  let named : Builder :=
    match anchor with
    | none => b
    | some name =>
      let number := b.names.length
      { b with
        names := (name, number) :: b.names.filter fun n => n.1 ≠ name
        anchors := (number, b.count) :: b.anchors }
  { named with events := e :: b.events, count := b.count + 1 }

def Builder.finish (b : Builder) (faulty single : Bool) : Document :=
  ⟨b.events.reverse, faulty, single, b.anchors⟩

def collect : Nat → Builder → Parser → Document
  | 0, b, _ => b.finish true false
  | fuel + 1, b, p =>
    match p.next with
    | none => b.finish true false
    | some (event, p) =>
      match event with
      | .streamStart => collect fuel b p
      | .documentStart => collect fuel b p
      | .streamEnd => (b.add none ⟨.void, {}⟩).finish false true
      | .documentEnd =>
        let single := match p.next with
          | some (.streamEnd, _) => true
          | _ => false
        b.finish false single
      | .alias mark name =>
        match b.names.lookup name with
        | some number => collect fuel (b.add none ⟨.alias number, mark⟩) p
        | none => b.finish true false
      | .scalar mark anchor value => collect fuel (b.add anchor ⟨.scalar value, mark⟩) p
      | .sequenceStart props =>
        collect fuel (b.add props.anchor ⟨.sequenceStart props.tag, props.mark⟩) p
      | .sequenceEnd => collect fuel (b.add none ⟨.sequenceEnd, {}⟩) p
      | .mappingStart props =>
        collect fuel (b.add props.anchor ⟨.mappingStart props.tag, props.mark⟩) p
      | .mappingEnd => collect fuel (b.add none ⟨.mappingEnd, {}⟩) p

def blockSize : Nat := 16384

/-- The part of a text that can be read, newest character first, and whether something follows it
that cannot. A text is made ready block by block, each as many characters as fit, and a character
that is not allowed spoils its block. Of the block under way the characters and the bytes are
given. -/
def ready (done block : List Char) (bytes : Nat) : List Char → List Char × Bool
  | [] => (block ++ done, false)
  | c :: rest =>
    let width := (Text.bytesOf c).length
    if blockSize < bytes + width then
      if isAllowed c then ready (block ++ done) [c] width rest else (block ++ done, true)
    else if isAllowed c then ready done (c :: block) (bytes + width) rest
    else (done, true)

def ofText (text : List Char) : Document :=
  let (readable, isCut) := ready [] [] 0 text
  collect (8 * readable.length + 16) {} (.ofText readable.reverse isCut)

end Document

end ClassPad.Yaml
