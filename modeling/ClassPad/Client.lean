import ClassPad.Settings.Cache

/-!
A scripted client: what it answers to configuration requests, and for which documents it holds its
answers back. An answer that was held back is the one that is set when it is given.
-/

set_option autoImplicit false
set_option relaxedAutoImplicit false

namespace ClassPad

/-- The state of a scripted client. -/
structure Client where
  /-- The answer for documents that have none of their own. -/
  fallback : Reply := .values [.null]
  replies : List (Uri × Reply) := []
  stalled : List Uri := []
  /-- The requests that wait for an answer, oldest first. -/
  held : List (Nat × Uri) := []

namespace Client

def reply (c : Client) (uri : Uri) : Reply := (c.replies.lookup uri).getD c.fallback

/-- Sets the answer for one document, or for all that have none of their own. -/
def configure (c : Client) (uri : Option Uri) (reply : Reply) : Client :=
  match uri with
  | none => { c with fallback := reply }
  | some uri => { c with replies := (uri, reply) :: c.replies }

def stall (c : Client) (uri : Uri) : Client := { c with stalled := uri :: c.stalled }

/-- Gives the answers for a document that are held back, and no longer holds them back. -/
def release (c : Client) (uri : Uri) : Client × List (Nat × Reply) :=
  ({ c with
      stalled := c.stalled.filter fun u => u ≠ uri
      held := c.held.filter fun r => r.2 ≠ uri },
    (c.held.filter fun r => r.2 = uri).map fun r => (r.1, c.reply uri))

def receive (c : Client) (request : Nat) (uri : Uri) : Client × Option Reply :=
  if uri ∈ c.stalled then ({ c with held := c.held ++ [(request, uri)] }, none)
  else (c, some (c.reply uri))

/-- Something that sends configuration requests and takes their answers: its states, what it does,
which of that is a request, and how it takes an answer. -/
structure Peer (σ ε : Type) where
  asked : ε → Option (Nat × Uri)
  answer : σ → Nat → Reply → σ × List ε

/-- Takes what a peer has done: each request is answered at once unless its answer is held back, and
what the peer does with the answers follows. -/
def attend {σ ε : Type} (peer : Peer σ ε) (c : Client) (s : σ) : List ε → Client × σ × List ε
  | [] => (c, s, [])
  | event :: rest =>
    match peer.asked event with
    | none =>
      let (c, s, more) := attend peer c s rest
      (c, s, event :: more)
    | some (request, uri) =>
      match c.receive request uri with
      | (c, none) =>
        let (c, s, more) := attend peer c s rest
        (c, s, event :: more)
      | (c, some reply) =>
        let (s, done) := peer.answer s request reply
        let (c, s, more) := attend peer c s rest
        (c, s, event :: done ++ more)

def deliver {σ ε : Type} (peer : Peer σ ε) (s : σ) : List (Nat × Reply) → σ × List ε
  | [] => (s, [])
  | (request, reply) :: rest =>
    let (s, done) := peer.answer s request reply
    let (s, more) := deliver peer s rest
    (s, done ++ more)

end Client

end ClassPad
