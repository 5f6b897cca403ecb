import ClassPad.Decode.Shape

/-!
Settings of the checker: the greatest number of problems reported for a document. A client gives
them as a JSON value; a limit of zero is refused, since it would hide every problem.
-/

set_option autoImplicit false
set_option relaxedAutoImplicit false

namespace ClassPad

structure Settings where
  maxNumberOfProblems : Nat
deriving DecidableEq, Repr

/-- Why no settings could be had. -/
inductive SettingsError where
  | query (reason : String)
  | missing
  | malformed (cause : DecodeError)
  | zeroLimit
deriving DecidableEq, Repr

def SettingsError.message : SettingsError → String
  | .query reason => "configuration request failed: " ++ reason
  | .missing => "client returned no configuration for the requested scope"
  | .malformed cause => "malformed settings: " ++ cause.message
  | .zeroLimit => "maxNumberOfProblems must be greater than zero"

namespace Settings

/-- The section of the client's configuration that holds the settings. -/
def sectionName : String := "classpad"

def defaultLimit : Nat := 1000

def standard : Settings := ⟨defaultLimit⟩

def fields : List Shape.Field := [("maxNumberOfProblems", .defaulted, Shape.uint32)]

def shape : Shape := .record "Settings" fields

def ofNormal (value : Json) : Settings :=
  match value.get? "maxNumberOfProblems" with
  | some (.int n) => ⟨n.toNat⟩
  | _ => standard

def decode (value : Json) : Except DecodeError Settings := (shape.read value).map ofNormal

def toJson (s : Settings) : Json := .obj [("maxNumberOfProblems", .nat s.maxNumberOfProblems)]

/-- Settings as a client answers a configuration request: null stands for the standard ones. -/
def ofConfiguration (value : Json) : Except SettingsError Settings :=
  match value with
  | .null => .ok standard
  | value =>
    match decode value with
    | .error e => .error (.malformed e)
    | .ok s => if s.maxNumberOfProblems = 0 then .error .zeroLimit else .ok s

/-- Settings as a client pushes them with a change notification; what cannot be used is ignored. -/
def ofChangeNotification (payload : Json) : Settings :=
  match payload.get? sectionName with
  | none => standard
  | some value =>
    match ofConfiguration value with
    | .ok s => s
    | .error _ => standard

end Settings

end ClassPad
