import ClassPad.Json.Value

/-!
Failures of remote calls: a code, a message, and sometimes more data. Codes outside the agreed ones
belong to whoever sent them.
-/

set_option autoImplicit false
set_option relaxedAutoImplicit false

namespace ClassPad.Rpc

structure Failure where
  code : Int
  message : String
  data : Option Json

namespace Failure

def describe (code : Int) : String :=
  if code = -32700 then "Parse error"
  else if code = -32600 then "Invalid request"
  else if code = -32601 then "Method not found"
  else if code = -32602 then "Invalid params"
  else if code = -32603 then "Internal error"
  else if code = -32800 then "Canceled"
  else if code = -32801 then "Content modified"
  else "Server error"

/-- A failure with the words of its code unless others are given. -/
def ofCode (code : Int) (message : Option String) : Failure :=
  ⟨code, message.getD (describe code), none⟩

def text (f : Failure) : String := describe f.code ++ ": " ++ f.message

def toJson (f : Failure) : Json :=
  .ofPresent [("code", some (.int f.code)), ("message", some (.str f.message)), ("data", f.data)]

/-- The bytes of a message are no JSON. -/
def unreadable : Failure := ofCode (-32700) none

def invalidRequest : Failure := ofCode (-32600) none

def unsupported : Failure := ofCode (-32601) none

def unknownMethod (method : String) : Failure := { unsupported with data := some (.str method) }

def invalidParams (reason : String) : Failure := ofCode (-32602) (some reason)

def notReady : Failure := ofCode (-32002) (some "Server not initialized")

end Failure

end ClassPad.Rpc
