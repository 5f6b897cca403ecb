import ClassPad.Cli.Error
import ClassPad.Cli.Style

/-!
The listing of a catalog, of all its entries or of those of one kind.
-/

set_option autoImplicit false
set_option relaxedAutoImplicit false

namespace ClassPad.Cli

def loadCatalog (read : String → Except IoError String) (path : Option String) :
    Except Error Catalog :=
  match path with
  | none => .ok .builtin
  | some path =>
    match read path with
    | .error e => .error (.io e)
    | .ok text => (Catalog.ofYaml text).mapError Error.ofText

def entryLine (colour : Bool) (e : Entry) : String :=
  let outdent := if e.command.isSome then styled colour [.dimmed] " (outdent)" else ""
  "  " ++ styledPadded colour [.cyan] 18 e.label ++ " " ++ padded 9 e.kind.name ++ " " ++
    e.detail.getD "" ++ outdent

def listingText (colour : Bool) (entries : List Entry) : String :=
  let heading := styled colour [.bold] (toString entries.length ++ " completion entries")
  String.join ((heading :: entries.map (entryLine colour)).map fun l => l ++ "\n")

/-- Lists the catalog in a file or the built-in one. The catalog is loaded before the kind is
looked at. -/
def listing (read : String → Except IoError String) (kind path : Option String) (colour : Bool) :
    Except Error String := do
  let catalog ← loadCatalog read path
  let entries ←
    match kind with
    | none => .ok catalog.entries
    | some name =>
      match EntryKind.parse name with
      | .ok k => .ok (catalog.entries.filter fun e => e.kind = k)
      | .error e => .error (Error.catalog e)
  .ok (listingText colour entries)

end ClassPad.Cli
