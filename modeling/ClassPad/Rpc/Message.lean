import ClassPad.Decode.Shape
import ClassPad.Rpc.Failure

/-!
Messages of a conversation by remote calls. A call that carries an identifier wants a response; one
without is a notification.
-/

set_option autoImplicit false
set_option relaxedAutoImplicit false

namespace ClassPad.Rpc

inductive Id where
  | null
  | int (n : Int)
  | text (s : String)
deriving DecidableEq, Repr

namespace Id

/-- An identifier from JSON: null, a text, or an integer of 64 bits. -/
def ofJson? : Json → Option Id
  | .null => some .null
  | .str s => some (.text s)
  | .int n => if -9223372036854775808 ≤ n ∧ n ≤ 9223372036854775807 then some (.int n) else none
  | _ => none

def toJson : Id → Json
  | .null => .null
  | .int n => .int n
  | .text s => .str s

end Id

structure Request where
  method : String
  params : Option Json
  id : Option Id

namespace Request

/-- A call from its parts; only the version has to be there, and it has to be the right one. -/
def ofParts? (version method params id : Option Json) : Option Request := do
  if (← version.bind Json.str?) ≠ "2.0" then none
  let method ←
    match method with
    | none => some ""
    | some m => m.str?
  let id ←
    match id with
    | none => some none
    | some i => (Id.ofJson? i).map some
  return ⟨method, params, id⟩

/-- A call from JSON, written as an object or as the list of its parts. -/
def ofJson? (message : Json) : Option Request :=
  match message with
  | .obj members =>
    ofParts? (members.lookup "jsonrpc") (members.lookup "method") (members.lookup "params")
      (members.lookup "id")
  | .arr items =>
    if 4 < items.length then none else ofParts? items[0]? items[1]? items[2]? items[3]?
  | _ => none

end Request

structure Response where
  id : Id
  outcome : Except Failure Json

def Response.toJson (r : Response) : Json :=
  let outcome :=
    match r.outcome with
    | .ok result => ("result", result)
    | .error f => ("error", f.toJson)
  .object [("jsonrpc", .str "2.0"), ("id", r.id.toJson), outcome]

def Failure.shape : Shape :=
  .record "Error"
    [ Shape.req "code" (.int "i64" (-9223372036854775808) 9223372036854775807),
      Shape.req "message" .text,
      Shape.opt "data" .any ]

def Response.ofJson? (message : Json) : Option Response := do
  if (← (message.get? "jsonrpc").bind Json.str?) ≠ "2.0" then none
  let id ← Id.ofJson? (← message.get? "id")
  match message.get? "result" with
  | some result => return ⟨id, .ok result⟩
  | none =>
    let failure ← (Failure.shape.readAs .tried (← message.get? "error")).toOption
    let code ← (failure.get? "code").bind Json.int?
    let text ← (failure.get? "message").bind Json.str?
    return ⟨id, .error ⟨code, text, failure.get? "data"⟩⟩

def Request.memberNames : List String := ["jsonrpc", "method", "params", "id"]

def Response.memberNames : List String := ["jsonrpc", "id", "result", "error"]

def repeats (names : List String) (keys : List String) : Bool :=
  names.any fun name => decide (1 < (keys.filter (· = name)).length)

structure Outgoing where
  method : String
  params : Json
  /-- The identifier, if it wants a response. -/
  id : Option Id

def Outgoing.toJson (m : Outgoing) : Json :=
  .ofPresent
    [ ("jsonrpc", some (.str "2.0")),
      ("method", some (.str m.method)),
      ("params", some m.params),
      ("id", m.id.map Id.toJson) ]

end ClassPad.Rpc
