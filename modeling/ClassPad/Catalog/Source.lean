import ClassPad.Catalog.Builtin
import ClassPad.Yaml.Entries

/-!
Where catalogs come from: a YAML text, or the entries that are built in.
-/

set_option autoImplicit false
set_option relaxedAutoImplicit false

namespace ClassPad

namespace Catalog

/-- Why a YAML text gives no catalog. -/
inductive TextError where
  | unreadable (cause : Yaml.Error)
  | refused (cause : CatalogError)
deriving DecidableEq, Repr

def ofYaml (text : String) : Except TextError Catalog :=
  match Yaml.entries text with
  | .error e => .error (.unreadable e)
  | .ok entries =>
    match ofEntries entries with
    | .error e => .error (.refused e)
    | .ok c => .ok c

end Catalog

end ClassPad
