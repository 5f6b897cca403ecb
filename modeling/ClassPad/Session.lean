import ClassPad.Client
import ClassPad.Server

/-!
A server in the hands of a scripted client. Each step runs until nothing more can happen; calls
whose settings are held back stay open.
-/

set_option autoImplicit false
set_option relaxedAutoImplicit false

namespace ClassPad

/-- A server and its client. -/
structure Session where
  client : Client := {}
  server : Server

namespace Session

inductive Step where
  | configure (uri : Option Uri) (reply : Reply)
  | stall (uri : Uri)
  | release (uri : Uri)
  | call (call : Call)
  /-- Nothing that the server could notice. -/
  | idle

def peer : Client.Peer Server Effect where
  asked
    | .request number uri => some (number, uri)
    | _ => none
  answer := Server.answer

def step (s : Session) : Step → Session × Answer × List Effect
  | .configure uri reply => ({ s with client := s.client.configure uri reply }, .nothing, [])
  | .stall uri => ({ s with client := s.client.stall uri }, .nothing, [])
  | .release uri =>
    let (client, replies) := s.client.release uri
    let (server, effects) := Client.deliver peer s.server replies
    (⟨client, server⟩, .nothing, effects)
  | .call c =>
    let (server, answer, effects) := s.server.call c
    let (client, server, effects) := Client.attend peer s.client server effects
    (⟨client, server⟩, answer, effects)
  | .idle => (s, .nothing, [])

end Session

end ClassPad
