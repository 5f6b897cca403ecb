import ClassPad.Catalog.Item
import ClassPad.Text.Blank

/-!
Catalogs. A catalog holds at least one entry, no label of it is blank, and no label stands twice;
the first entry that breaks a rule decides the error.
-/

set_option autoImplicit false
set_option relaxedAutoImplicit false

namespace ClassPad

/-- Why a list of entries is no catalog, or a name no kind of entry. -/
inductive CatalogError where
  | noEntries
  | blankLabel
  | duplicateLabel (label : String)
  | unknownKind (name : String)
deriving DecidableEq, Repr

def CatalogError.message : CatalogError → String
  | .noEntries => "catalog contains no entries"
  | .blankLabel => "entry with empty label"
  | .duplicateLabel label => "duplicate label '" ++ label ++ "'"
  | .unknownKind name => "unknown entry kind '" ++ name ++ "'"

/-- The kind with a given name; ASCII case does not matter. -/
def EntryKind.parse (text : String) : Except CatalogError EntryKind :=
  let name := text.map Char.toLower
  match ofName? name with
  | some kind => .ok kind
  | none => .error (.unknownKind name)

/-- An admitted list of entries. -/
structure Catalog where
  entries : List Entry
deriving DecidableEq, Repr

namespace Catalog

/-- The first fault of a list of entries, given the labels before it. -/
def firstFault (seen : List String) : List Entry → Option CatalogError
  | [] => none
  | e :: rest =>
    if Text.allBlank e.label then some .blankLabel
    else if e.label ∈ seen then some (.duplicateLabel e.label)
    else firstFault (e.label :: seen) rest

def ofEntries (entries : List Entry) : Except CatalogError Catalog :=
  if entries.isEmpty then .error .noEntries
  else
    match firstFault [] entries with
    | some fault => .error fault
    | none => .ok ⟨entries⟩

def size (c : Catalog) : Nat := c.entries.length

/-- The items that an editor is offered, wherever it asks. -/
def items (c : Catalog) : List Item := c.entries.map Entry.toItem

def indexOf? (c : Catalog) (label : String) : Option Nat :=
  c.entries.findIdx? fun e => e.label = label

end Catalog

end ClassPad
