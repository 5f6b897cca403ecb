import ClassPad.Decimal.Shortest

/-!
JSON values. Integers and doubles are different values, as a number written with a fraction or an
exponent is never an integer. The members of an object stand in the order of their keys, each key
once.
-/

set_option autoImplicit false
set_option relaxedAutoImplicit false

namespace ClassPad

open Decimal (Binary64)

/-- A JSON value. -/
inductive Json where
  | null
  | bool (b : Bool)
  | int (n : Int)
  | float (x : Binary64)
  | str (s : String)
  | arr (items : List Json)
  | obj (members : List (String × Json))
deriving Repr, Inhabited

namespace Json

/-- Puts a member into its place by key; a later value replaces an earlier one. -/
def insertMember (key : String) (value : Json) : List (String × Json) → List (String × Json)
  | [] => [(key, value)]
  | (k, v) :: rest =>
    if key = k then (k, value) :: rest
    else if key < k then (key, value) :: (k, v) :: rest
    else (k, v) :: insertMember key value rest

/-- The object with the given members, later ones replacing earlier ones of the same key. -/
def object (members : List (String × Json)) : Json :=
  .obj (members.foldl (fun acc m => insertMember m.1 m.2 acc) [])

def get? (key : String) : Json → Option Json
  | .obj members => members.lookup key
  | _ => none

def ofPresent (members : List (String × Option Json)) : Json :=
  object (members.filterMap fun m => m.2.map fun v => (m.1, v))

def nat (n : Nat) : Json := .int n

def str? : Json → Option String
  | .str s => some s
  | _ => none

def bool? : Json → Option Bool
  | .bool b => some b
  | _ => none

def int? : Json → Option Int
  | .int n => some n
  | _ => none

def arr? : Json → Option (List Json)
  | .arr items => some items
  | _ => none

def obj? : Json → Option (List (String × Json))
  | .obj members => some members
  | _ => none

end Json

end ClassPad
