import ClassPad.Catalog.Basic
import ClassPad.Yaml.Resolve

/-!
Catalog entries from a YAML text. The text of a scalar counts where a text is wanted, whatever its
style. The first fault in the order of the text decides: an event that does not fit names the place
where it stands, and a break of YAML's own rules has no place to name.
-/

set_option autoImplicit false
set_option relaxedAutoImplicit false

namespace ClassPad.Yaml

/-- A step on the way to a place in a document. -/
inductive Place where
  | index (i : Nat)
  | key (name : String)
  /-- The value of a key that is an alias. -/
  | unnamed
deriving DecidableEq, Repr

/-- A place in a document: the way to it, innermost step first, and the mark of a node there. -/
structure Site where
  path : List Place
  mark : Mark
deriving DecidableEq, Repr

inductive Error where
  | malformed
  | data (site : Site) (cause : DecodeError)
deriving DecidableEq, Repr

namespace Error

def showPath : List Place → String
  | [] => ""
  | .index i :: outer => (if outer.isEmpty then "." else showPath outer) ++ "[" ++ toString i ++ "]"
  | .key name :: outer => (if outer.isEmpty then "" else showPath outer ++ ".") ++ name
  | .unnamed :: outer => (if outer.isEmpty then "" else showPath outer ++ ".") ++ "?"

def message? : Error → Option String
  | .malformed => none
  | .data site cause =>
    some ((if site.path.isEmpty then "" else showPath site.path ++ ": ") ++ cause.message)

def mark? : Error → Option Mark
  | .malformed => none
  | .data site _ => some site.mark

/-- The wording of an error with its mark, counted from one, unless it is the start of the text. -/
def locatedMessage? (e : Error) : Option String := do
  let mark ← e.mark?
  let words ← e.message?
  if mark = {} then words
  else
    words ++ " at line " ++ toString (mark.line + 1) ++ " column " ++ toString (mark.column + 1)

end Error

/-- The events that are left, and how often an alias was followed so far. -/
structure Input where
  events : List Located
  jumps : Nat := 0

/-- Reading of a value from the events at its start: the value and what is left. -/
abbrev Read (α : Type) := Input → Except Error (α × Input)

namespace Document

def atAnchor (d : Document) (number : Nat) : List Located :=
  match d.anchors.lookup number with
  | some position => d.events.drop position
  | none => []

def jumpLimit (d : Document) : Nat := 100 * d.events.length

/-- Reads a value that may be an alias; the reading of the node itself is given. -/
def followed {α : Type} (d : Document) (read : Read α) : Read α := fun input =>
  match input.events with
  | ⟨.alias number, _⟩ :: rest =>
    if d.jumpLimit < input.jumps + 1 then .error .malformed
    else (read ⟨d.atAnchor number, input.jumps + 1⟩).map fun r => (r.1, ⟨rest, r.2.jumps⟩)
  | _ => read input

end Document

def misfit (path : List Place) (wanted : String) (e : Located) : Error :=
  let site : Site := ⟨path, e.mark⟩
  match e.event with
  | .scalar v =>
    match v.resolve with
    | .ok found => .data site (.invalidType found wanted)
    | .error cause => .data site cause
  | .sequenceStart _ => .data site (.invalidType .sequence wanted)
  | .mappingStart _ => .data site (.invalidType .map wanted)
  | _ => .malformed

def Input.next : Read Located := fun input =>
  match input.events with
  | e :: rest => .ok (e, { input with events := rest })
  | [] => .error .malformed

def readText (path : List Place) (wanted : String) : Read String := fun input => do
  let (e, rest) ← input.next
  match e.event with
  | .scalar v => .ok (v.text, rest)
  | _ => .error (misfit path wanted e)

def localTag? (tag : Option Tag) : Option String := do
  let tag ← tag
  if tag = .bare then some "!"
  else if tag.isLocal then Tag.text? ⟨tag.bytes.drop 1⟩
  else none

def oneOfNames (site : Site) (names : List String) (name : String) : Except Error String :=
  if names.contains name then .ok name else .error (.data site (.unknownVariant name names))

/-- Reads what has to be nothing, after a tag that says all. -/
def readNothing (path : List Place) : Read Unit := fun input => do
  let (e, rest) ← input.next
  match e.event with
  | .scalar v =>
    if v.plain && (v.text.isEmpty || isNullText v.text) then .ok ((), rest)
    else .error (.data ⟨path, e.mark⟩ (Scalar.mismatch v.text "null"))
  | _ => .error (misfit path "unit" e)

def NodeEvent.tag : NodeEvent → Option Tag
  | .scalar v => v.tag
  | .sequenceStart tag => tag
  | .mappingStart tag => tag
  | _ => none

/-- Reads one of several names, given as a text or as a local tag. -/
def readName (path : List Place) (outer : Site) (names : List String) : Read String :=
  fun input => do
    let (e, rest) ← input.next
    match localTag? e.event.tag, e.event with
    | some name, _ => do
      let name ← oneOfNames outer names name
      let (_, rest) ← readNothing path input
      .ok (name, rest)
    | none, .scalar v => do .ok (← oneOfNames ⟨path, e.mark⟩ names v.text, rest)
    | none, _ => .error (misfit path "a YAML tag starting with '!'" e)

/-- Reads a value that may be absent: a plain scalar that is null or empty. -/
def readOptional {α : Type} (outer : Site) (read : Read α) : Read (Option α) := fun input =>
  let present : Except Error (Option α × Input) := (read input).map fun r => (some r.1, r.2)
  match input.events with
  | ⟨.scalar v, _⟩ :: rest =>
    let absent : Except Error (Option α × Input) := .ok (none, { input with events := rest })
    if !v.plain then present
    else
      match v.tag with
      | none => if v.text.isEmpty || isNullText v.text then absent else present
      | some tag =>
        if tag = Scalar.standardTag "null" then
          if isNullText v.text then absent
          else .error (.data outer (Scalar.mismatch v.text "null"))
        else present
  | _ => present

def skipValue : Nat → List Located → Except Error (List Located)
  | _, [] => .error .malformed
  | depth, e :: rest =>
    let depth := match e.event with
      | .sequenceStart _ => depth + 1
      | .mappingStart _ => depth + 1
      | .sequenceEnd => depth - 1
      | .mappingEnd => depth - 1
      | _ => depth
    if depth = 0 then .ok rest else skipValue depth rest

structure PartialEntry where
  label : Option String := none
  kind : Option String := none
  detail : Option (Option String) := none
  documentation : Option (Option String) := none
  insertText : Option String := none
  command : Option (Option String) := none

def PartialEntry.finish (site : Site) (e : PartialEntry) : Except Error Entry :=
  match e.label, e.kind, e.insertText with
  | none, _, _ => .error (.data site (.missingField "label"))
  | _, none, _ => .error (.data site (.missingField "kind"))
  | _, _, none => .error (.data site (.missingField "insert_text"))
  | some label, some kind, some insertText =>
    .ok
      { label := label
        kind := (EntryKind.ofName? kind).getD .function
        detail := e.detail.join
        documentation := e.documentation.join
        insertText := insertText
        command := e.command.join.map fun _ => .outdent }

def readOnce {α : Type} (outer : Site) (name : String) (before : Option α) (read : Read α) :
    Read α := fun input =>
  if before.isSome then .error (.data outer (.duplicateField name)) else read input

def readField (d : Document) (outer : Site) (place : Place) (name : String)
    (e : PartialEntry) : Read PartialEntry := fun input =>
  let path := place :: outer.path
  let text : Read String := d.followed (readText path "a string")
  let optionalText : Read (Option String) :=
    d.followed (readOptional outer (readText path "a string"))
  match name with
  | "label" => do
    let (v, rest) ← readOnce outer name e.label text input
    .ok ({ e with label := some v }, rest)
  | "kind" => do
    let names := EntryKind.all.map EntryKind.name
    let (v, rest) ← readOnce outer name e.kind (d.followed (readName path outer names)) input
    .ok ({ e with kind := some v }, rest)
  | "detail" => do
    let (v, rest) ← readOnce outer name e.detail optionalText input
    .ok ({ e with detail := some v }, rest)
  | "documentation" => do
    let (v, rest) ← readOnce outer name e.documentation optionalText input
    .ok ({ e with documentation := some v }, rest)
  | "insert_text" => do
    let (v, rest) ← readOnce outer name e.insertText text input
    .ok ({ e with insertText := some v }, rest)
  | "command" => do
    let command := readName path outer [EntryCommand.outdent.name]
    let (v, rest) ← readOnce outer name e.command (d.followed (readOptional outer command)) input
    .ok ({ e with command := some v }, rest)
  | _ => do .ok (e, { input with events := ← skipValue 0 input.events })

def readFields (d : Document) (site : Site) : Nat → PartialEntry → Read PartialEntry
  | 0, _, _ => .error .malformed
  | fuel + 1, e, input => do
    let (key, rest) ← input.next
    match key.event with
    | .mappingEnd => .ok (e, rest)
    | event => do
      let (name, rest) ← d.followed (readText site.path "field identifier") input
      let place := match event with
        | .scalar v => Place.key v.text
        | _ => .unnamed
      let (e, rest) ← readField d site place name e rest
      readFields d site fuel e rest

def readEntry (d : Document) (path : List Place) : Read Entry := fun input => do
  let (e, rest) ← input.next
  let site : Site := ⟨path, e.mark⟩
  let wanted := "struct CompletionEntry"
  match e.event with
  | .mappingStart _ => do
    let (fields, rest) ← readFields d site (rest.events.length + 1) {} rest
    .ok (← fields.finish site, rest)
  | .scalar v =>
    if v.isBlank then do .ok (← PartialEntry.finish site {}, rest)
    else .error (misfit path wanted e)
  | _ => .error (misfit path wanted e)

def readItems (d : Document) : Nat → Nat → Input → Except Error (List Entry)
  | 0, _, _ => .error .malformed
  | fuel + 1, i, input => do
    let (item, _) ← input.next
    match item.event with
    | .sequenceEnd => .ok []
    | _ => do
      let (e, rest) ← d.followed (readEntry d [.index i]) input
      .ok (e :: (← readItems d fuel (i + 1) rest))

def Document.entries (d : Document) : Except Error (List Entry) := do
  let (first, rest) ← Input.next ⟨d.events, 0⟩
  let entries ←
    match first.event with
    | .void => .ok []
    | .sequenceStart _ => readItems d (rest.events.length + 1) 0 rest
    | .scalar v => if v.isBlank then .ok [] else .error (misfit [] "a sequence" first)
    | _ => .error (misfit [] "a sequence" first)
  if d.faulty || !d.single then .error .malformed else .ok entries

def entries (text : String) : Except Error (List Entry) := (Document.ofText text.toList).entries

end ClassPad.Yaml
