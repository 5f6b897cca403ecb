import ClassPad.Rpc.Conversation

/-!
Frames of messages on a stream: a header that tells the length of the body in bytes, an empty line,
and the body.
-/

set_option autoImplicit false
set_option relaxedAutoImplicit false

namespace ClassPad.Rpc.Frame

def header (bytes : Nat) : String := "Content-Length: " ++ toString bytes ++ "\r\n\r\n"

def render (message : Json) : String :=
  let body := message.render
  header body.utf8ByteSize ++ body

/-- The length that a line of a header tells. -/
def length? (line : String) : Option Nat :=
  let name := "content-length:".toList
  let chars := line.toList
  if (chars.take name.length).map Char.toLower = name then
    let digits := (chars.drop name.length).filter fun c => !Json.isSpace c
    if !digits.isEmpty && digits.all Char.isDigit then some (Json.digitsValue digits) else none
  else none

def endsHeader (line : String) : Bool := line.toList.all Json.isSpace

def renderTurn (t : Turn) : String :=
  String.join
    (t.outgoing.map (fun m => render m.toJson) ++
      t.response.toList.map fun r => render r.toJson)

end ClassPad.Rpc.Frame
