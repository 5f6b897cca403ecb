import ClassPad.Decode.Error

/-!
Shapes of JSON values. Reading a value by a shape either refuses it or gives its normal form: a
record written as an array becomes an object, unknown members and absent or null optional ones
vanish, and a choice becomes its name. Reading a normal form changes nothing.

The members of a record are read in the order of their keys and the first error wins; only when all
of them are readable does a missing member count, the first one in the order of the declaration.

Where a value stands bears on the reading: one that was set aside for a part of its record, or that
several shapes are tried on, is worded and bounded a little differently from one that is read in its
place.
-/

set_option autoImplicit false
set_option relaxedAutoImplicit false

namespace ClassPad

/-- When a member of a record may be left out. -/
inductive Presence where
  | required
  /-- It may be absent from an object or null, but an array has to hold it. -/
  | optional
  /-- It may be absent from objects and arrays, or null. -/
  | spare
  /-- It may be absent from objects and arrays, but not null. -/
  | defaulted
deriving DecidableEq, Repr

/-- Where a value stands when it is read. -/
inductive Standing where
  | direct
  /-- Set aside until the own members of its record were read. -/
  | aside
  /-- Under trial by one shape after another. -/
  | tried
deriving DecidableEq, Repr

def Standing.lengthWanted (standing : Standing) (count : Nat) : String :=
  match standing with
  | .direct => "fewer elements in array"
  | _ => if count = 1 then "1 element in sequence" else toString count ++ " elements in sequence"

/-- The form asked of a JSON value. -/
inductive Shape where
  | any
  | bool
  | text
  /-- A text that is an address; its normal form is kept. -/
  | uri
  | int (name : String) (low high : Int)
  | number (name : String)
  | list (item : Shape)
  | tuple (count : Nat) (item : Shape)
  /-- An object of any keys; each key, as a text, and each value has a shape. -/
  | table (wanted : String) (key value : Shape)
  /-- A shape that a Boolean may stand in for: false for nothing, true for a fixed value. -/
  | switch (on : Json) (shape : Shape)
  /-- One of several names, as a text or as an object with the name as its only key. -/
  | choice (names : List String)
  | oneOf (name : String) (alternatives : List Shape)
  | record (name : String) (fields : List (String × Presence × Shape))
  /-- A record whose parts are read from what its own members leave over; never an array. -/
  | merged (name : String) (own : List (String × Presence × Shape))
      (parts : List (List (String × Presence × Shape)))
  /-- A record with further members of one shape and any name; never an array. -/
  | extended (name : String) (own : List (String × Presence × Shape)) (further : Shape)
  /-- A record of one of several forms; a member, or the first item of an array, says which, by its
  name or its number. -/
  | tagged (tag : String) (cases : List (String × Shape))

namespace Shape

abbrev Field := String × Presence × Shape

/-- What became of one member: its name, and an error, its normal form, or nothing if absent. -/
abbrev Outcome := String × Presence × Option (Except DecodeError (Option Json))

/-- The error of the first member in key order that could not be read. -/
def firstError (members : List (String × Json)) (outcomes : List Outcome) : Option DecodeError :=
  members.findSome? fun m =>
    match outcomes.lookup m.1 with
    | some (_, some (.error e)) => some e
    | _ => none

def firstMissing (outcomes : List Outcome) : Option DecodeError :=
  outcomes.findSome? fun o =>
    match o with
    | (name, .required, none) => some (.missingField name)
    | _ => none

def present (outcomes : List Outcome) : List (String × Json) :=
  outcomes.foldl (fun acc o =>
    match o.2.2 with
    | some (.ok (some v)) => Json.insertMember o.1 v acc
    | _ => acc) []

/-- The normal form of an object, from what became of its members. -/
def finishObject (members : List (String × Json)) (outcomes : List Outcome) :
    Except DecodeError (List (String × Json)) :=
  match firstError members outcomes with
  | some e => .error e
  | none =>
    match firstMissing outcomes with
    | some e => .error e
    | none => .ok (present outcomes)

def elementsWanted (name : String) (count : Nat) : String :=
  "struct " ++ name ++ " with " ++ toString count ++ (if count = 1 then " element" else " elements")

/-- The first error of a record written as an array: members in the order of the declaration, a
member that the array is too short for counting as an error unless it has a default. -/
def arrayError (name : String) (count : Nat) : Nat → List Outcome → Option DecodeError
  | _, [] => none
  | _, (_, _, some (.error e)) :: _ => some e
  | i, (_, presence, none) :: rest =>
    match presence with
    | .spare => arrayError name count (i + 1) rest
    | .defaulted => arrayError name count (i + 1) rest
    | _ => some (.invalidLength i (elementsWanted name count))
  | i, _ :: rest => arrayError name count (i + 1) rest

def finishArray (standing : Standing) (name : String) (length : Nat) (outcomes : List Outcome) :
    Except DecodeError Json :=
  match arrayError name outcomes.length 0 outcomes with
  | some e => .error e
  | none =>
    if outcomes.length < length then
      .error (.invalidLength length (standing.lengthWanted outcomes.length))
    else .ok (.obj (present outcomes))

/-- A choice by name; an object has to hold exactly one key, with nothing under it. An empty object
is nothing too if the value was set aside. -/
def readChoice (standing : Standing) (names : List String) : Json → Except DecodeError Json
  | .str s => if names.contains s then .ok (.str s) else .error (.unknownVariant s names)
  | .obj [(s, value)] =>
    if names.contains s then
      match standing, value with
      | _, .null => .ok (.str s)
      | .aside, .obj [] => .ok (.str s)
      | _, value => .error (.invalidType (.ofJson value) "unit")
    else .error (.unknownVariant s names)
  | .obj _ => .error (.invalidValue .map "map with a single key")
  | value => .error (.invalidType (.ofJson value) "string or map")

/-- Reads a member that is there. An optional one that comes to nothing counts as absent. -/
def readPresent (presence : Presence) (read : Json → Except DecodeError Json) (value : Json) :
    Except DecodeError (Option Json) :=
  match presence, value with
  | .optional, .null => .ok none
  | .spare, .null => .ok none
  | .required, value => (read value).map some
  | .defaulted, value => (read value).map some
  | _, value =>
    match read value with
    | .ok .null => .ok none
    | .ok v => .ok (some v)
    | .error e => .error e

/-- The name of a case: itself, or its number among all names. -/
def caseName? (names : List String) : Json → Option String
  | .str s => if names.contains s then some s else none
  | .int n => if 0 ≤ n then names[n.toNat]? else none
  | _ => none

def readPair (key value : Json → Except DecodeError Json) (member : String × Json) :
    Except DecodeError (String × Json) := do
  let name ← key (.str member.1)
  let v ← value member.2
  .ok (name.str?.getD member.1, v)

def withTag (tag name : String) : Json → Json
  | .obj members => .obj (Json.insertMember tag (.str name) members)
  | value => value

mutual

/-- The normal form of a value, or why it does not have the shape. -/
def readAs : Shape → Standing → Json → Except DecodeError Json
  | .any, _, value => .ok value
  | .bool, _, value =>
    match value with
    | .bool b => .ok (.bool b)
    | value => .error (.invalidType (.ofJson value) "a boolean")
  | .text, _, value =>
    match value with
    | .str s => .ok (.str s)
    | value => .error (.invalidType (.ofJson value) "a string")
  | .uri, _, value =>
    match value with
    | .str s =>
      match Uri.parse s with
      | .ok u => .ok (.str u.text)
      | .error e => .error (.badUri e s)
    | value => .error (.invalidType (.ofJson value) "a string representing an URL")
  | .int name low high, _, value =>
    match value with
    | .int n =>
      if low ≤ n ∧ n ≤ high then .ok (.int n) else .error (.invalidValue (.integer n) name)
    | value => .error (.invalidType (.ofJson value) name)
  | .number name, _, value =>
    match value with
    | .int n => .ok (.int n)
    | .float x => .ok (.float x)
    | value => .error (.invalidType (.ofJson value) name)
  | .list item, standing, value =>
    match value with
    | .arr items => (items.mapM (readAs item standing)).map .arr
    | value => .error (.invalidType (.ofJson value) "a sequence")
  | .tuple count item, standing, value =>
    match value with
    | .arr items =>
      if items.length = count then (items.mapM (readAs item standing)).map .arr
      else .error (.invalidLength items.length ("an array of length " ++ toString count))
    | value => .error (.invalidType (.ofJson value) ("an array of length " ++ toString count))
  | .table wanted key shape, standing, value =>
    match value with
    | .obj members =>
      (members.mapM (readPair (readAs key standing) (readAs shape standing))).map .object
    | value => .error (.invalidType (.ofJson value) wanted)
  | .switch on shape, _, value =>
    match value with
    | .bool true => .ok on
    | .bool false => .ok .null
    | value => readAs shape .direct value
  | .choice names, standing, value => readChoice standing names value
  | .oneOf name alternatives, _, value =>
    match readFirst value alternatives with
    | some v => .ok v
    | none => .error (.noAlternative name)
  | .record name fields, standing, value =>
    match value with
    | .obj members => (finishObject members (readMembers standing members fields)).map .obj
    | .arr items => finishArray standing name items.length (readItems standing items fields)
    | value => .error (.invalidType (.ofJson value) ("struct " ++ name))
  | .merged name own parts, standing, value =>
    match value with
    | .obj members => do
      let ownMembers ← finishObject members (readMembers standing members own)
      let rest ← readParts members parts
      .ok (.obj (ownMembers.foldl (fun acc m => Json.insertMember m.1 m.2 acc) rest))
    | value => .error (.invalidType (.ofJson value) ("struct " ++ name))
  | .extended name own further, standing, value =>
    match value with
    | .obj members => do
      let ownMembers ← finishObject members (readMembers standing members own)
      let others := members.filter fun m => (own.lookup m.1).isNone
      let rest ← others.mapM (readPair .ok (readAs further .tried))
      .ok (.object (rest ++ ownMembers))
    | value => .error (.invalidType (.ofJson value) ("struct " ++ name))
  | .tagged tag cases, _, value =>
    match value with
    | .obj members =>
      match (members.lookup tag).bind (caseName? (cases.map Prod.fst)) with
      | none => .error (.missingField tag)
      | some name =>
        (readCase name (.obj (members.filter (·.1 ≠ tag))) cases).map (withTag tag name)
    | .arr (first :: items) =>
      match caseName? (cases.map Prod.fst) first with
      | none => .error (.missingField tag)
      | some name => (readCase name (.arr items) cases).map (withTag tag name)
    | _ => .error (.missingField tag)

def readFirst (value : Json) : List Shape → Option Json
  | [] => none
  | s :: rest =>
    match readAs s .tried value with
    | .ok v => some v
    | .error _ => readFirst value rest

def readMembers (standing : Standing) (members : List (String × Json)) :
    List (String × Presence × Shape) → List Outcome
  | [] => []
  | (name, presence, shape) :: rest =>
    (name, presence, (members.lookup name).map (readPresent presence (readAs shape standing))) ::
      readMembers standing members rest

def readItems (standing : Standing) : List Json → List (String × Presence × Shape) → List Outcome
  | _, [] => []
  | items, (name, presence, shape) :: rest =>
    (name, presence, items.head?.map (readPresent presence (readAs shape standing))) ::
      readItems standing items.tail rest

/-- Reads the parts of a merged record, one after the other. -/
def readParts (members : List (String × Json)) :
    List (List (String × Presence × Shape)) → Except DecodeError (List (String × Json))
  | [] => .ok []
  | part :: rest => do
    let here ← finishObject members (readMembers .aside members part)
    let there ← readParts members rest
    .ok (here.foldl (fun acc m => Json.insertMember m.1 m.2 acc) there)

def readCase (name : String) (value : Json) : List (String × Shape) → Except DecodeError Json
  | [] => .error (.unknownVariant name [])
  | (case, shape) :: rest =>
    if case = name then readAs shape .aside value else readCase name value rest

end

/-- The normal form of a value that stands in its place. -/
def read (shape : Shape) (value : Json) : Except DecodeError Json := shape.readAs .direct value

def req (name : String) (shape : Shape) : Field := (name, .required, shape)

def opt (name : String) (shape : Shape) : Field := (name, .optional, shape)

def uint32 : Shape := .int "u32" 0 4294967295

def i32 : Shape := .int "i32" (-2147483648) 2147483647

end Shape

end ClassPad
