import ClassPad.Json.Value
import ClassPad.Text.Quoted
import ClassPad.Uri.Basic

/-!
Why a value does not have the form that is asked of it. An error is a cause; its wording stands in
one place.
-/

set_option autoImplicit false
set_option relaxedAutoImplicit false

namespace ClassPad

/-- What a value turned out to be. -/
inductive Found where
  | null
  | unit
  | bool (b : Bool)
  | integer (n : Int)
  | wideInteger (n : Int) (width : String)
  | float (shown : String)
  | text (s : String)
  | sequence
  | map
deriving DecidableEq, Repr

namespace Found

def describe : Found → String
  | .null => "null"
  | .unit => "unit value"
  | .bool b => "boolean `" ++ (if b then "true" else "false") ++ "`"
  | .integer n => "integer `" ++ toString n ++ "`"
  | .wideInteger n width => "integer `" ++ toString n ++ "` as " ++ width
  | .float shown => "floating point `" ++ shown ++ "`"
  | .text s => "string " ++ Text.quoted s
  | .sequence => "sequence"
  | .map => "map"

def ofJson : Json → Found
  | .null => .null
  | .bool b => .bool b
  | .int n => .integer n
  | .float x => .float (Decimal.compact x)
  | .str s => .text s
  | .arr _ => .sequence
  | .obj _ => .map

end Found

/-- Why a value was refused. -/
inductive DecodeError where
  | invalidType (found : Found) (wanted : String)
  | invalidValue (found : Found) (wanted : String)
  | invalidLength (length : Nat) (wanted : String)
  | missingField (name : String)
  | duplicateField (name : String)
  | unknownVariant (name : String) (variants : List String)
  | noAlternative (name : String)
  | badUri (cause : Uri.Error) (text : String)
deriving DecidableEq, Repr

namespace DecodeError

private def ticked (name : String) : String := "`" ++ name ++ "`"

def expectedNames : List String → String
  | [] => "there are no variants"
  | [a] => "expected " ++ ticked a
  | [a, b] => "expected " ++ ticked a ++ " or " ++ ticked b
  | names => "expected one of " ++ ", ".intercalate (names.map ticked)

def message : DecodeError → String
  | .invalidType found wanted => "invalid type: " ++ found.describe ++ ", expected " ++ wanted
  | .invalidValue found wanted => "invalid value: " ++ found.describe ++ ", expected " ++ wanted
  | .invalidLength length wanted => "invalid length " ++ toString length ++ ", expected " ++ wanted
  | .missingField name => "missing field " ++ ticked name
  | .duplicateField name => "duplicate field " ++ ticked name
  | .unknownVariant name variants =>
    "unknown variant " ++ ticked name ++ ", " ++ expectedNames variants
  | .noAlternative name => "data did not match any variant of untagged enum " ++ name
  | .badUri cause text => cause.message ++ ": " ++ Text.quoted text

end DecodeError

end ClassPad
