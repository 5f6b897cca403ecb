import ClassPad.Json.Printer
import ClassPad.Json.Reader
import ClassPad.Rpc.Method
import ClassPad.Session

/-!
A conversation between a client and the server. It begins with a negotiation, goes on until the
client asks the server to finish, and ends with the word to exit; what may be called depends on how
far it has come.
-/

set_option autoImplicit false
set_option relaxedAutoImplicit false

namespace ClassPad.Rpc

/-- How far a conversation has come. -/
inductive Phase where
  | before
  | running
  | finished
  | exited
deriving DecidableEq, Repr

structure Conversation where
  server : Server
  /-- A scripted client, which answers at once; without one, answers come as messages. -/
  client : Option Client := none
  phase : Phase := .before

/-- What a message leads to: a response, if there is one, and calls to the client. -/
structure Turn where
  response : Option Response := none
  outgoing : List Outgoing := []

namespace Outgoing

def ofEffect : Effect → Outgoing
  | .request number uri =>
    { method := "workspace/configuration"
      params := .obj
        [("items", .arr
          [.object [("scopeUri", .str uri.text), ("section", .str Settings.sectionName)]])]
      id := some (.int number) }
  | .publish uri diagnostics =>
    { method := "textDocument/publishDiagnostics"
      params := .object
        [("uri", .str uri.text), ("diagnostics", .arr (diagnostics.map Diagnostic.toJson))]
      id := none }
  | .log level message =>
    { method := "window/logMessage"
      params := .object [("type", .nat level.code), ("message", .str message)]
      id := none }
  | .register =>
    { method := "client/registerCapability"
      params := .obj
        [("registrations", .arr [.obj [("method", .str Protocol.settingsNotification)]])]
      id := some (.text Protocol.settingsNotification) }

end Outgoing

namespace Conversation

def refuse (id : Option Id) (f : Failure) : Turn := ⟨id.map fun id => ⟨id, .error f⟩, []⟩

def paramsOf (shape : Shape) (params : Option Json) : Except Failure Json :=
  match params with
  | none => .error (.invalidParams "Missing params field")
  | some value =>
    match shape.read value with
    | .ok v => .ok v
    | .error e => .error (.invalidParams e.message)

def perform (c : Conversation) (call : Call) : Conversation × Answer × List Outgoing :=
  let (server, answer, effects) := c.server.call call
  match c.client with
  | none => ({ c with server := server }, answer, effects.map Outgoing.ofEffect)
  | some client =>
    let (client, server, effects) := client.attend Session.peer server effects
    ({ c with server := server, client := some client }, answer, effects.map Outgoing.ofEffect)

def request (c : Conversation) (shape : Shape) (call : Json → Call) (id : Id)
    (params : Option Json) : Conversation × Turn :=
  match paramsOf shape params with
  | .error f => (c, refuse (some id) f)
  | .ok v =>
    let (c, answer, outgoing) := c.perform (call v)
    (c, ⟨some ⟨id, .ok answer.toJson⟩, outgoing⟩)

/-- Takes a notification; one that cannot be understood is dropped. -/
def notify (c : Conversation) (shape : Shape) (call : Json → Call) (params : Option Json) :
    Conversation × Turn :=
  match paramsOf shape params with
  | .error _ => (c, {})
  | .ok v =>
    let (c, _, outgoing) := c.perform (call v)
    (c, ⟨none, outgoing⟩)

def untimely (c : Conversation) (id : Option Id) : Conversation × Turn :=
  (c, refuse id (if c.phase = .before then .notReady else .invalidRequest))

def receive (c : Conversation) (r : Request) : Conversation × Turn :=
  match Method.ofName? r.method with
  | none =>
    if r.method.startsWith "$/" then (c, {}) else (c, refuse r.id (.unknownMethod r.method))
  | some .exit => ({ c with phase := .exited }, {})
  | some .begin =>
    if c.phase ≠ .before then (c, refuse r.id .invalidRequest)
    else
      match r.id with
      | none => (c, {})
      | some id =>
        let (next, turn) := c.request Protocol.negotiation
          (fun v => .negotiate (.ofNormal (Protocol.memberAt v "capabilities"))) id r.params
        match turn.response with
        | some ⟨_, .ok _⟩ => ({ next with phase := .running }, turn)
        | _ => (next, turn)
  | some .finish =>
    if c.phase ≠ .running then c.untimely r.id
    else
      let c := { c with phase := .finished }
      match r.id, r.params with
      | none, _ => (c, {})
      | some id, some params =>
        (c, refuse (some id) (.invalidParams ("Unexpected params: " ++ params.render)))
      | some id, none =>
        let (c, answer, outgoing) := c.perform .shutdown
        (c, ⟨some ⟨id, .ok answer.toJson⟩, outgoing⟩)
  | some (.request shape call) =>
    if c.phase ≠ .running then c.untimely r.id
    else
      match r.id with
      | none => (c, {})
      | some id => c.request shape call id r.params
  | some (.notification shape call) =>
    if c.phase ≠ .running then c.untimely r.id
    else
      match r.id with
      | some id => (c, refuse (some id) .invalidRequest)
      | none => c.notify shape call r.params
  | some (.refused shape) =>
    if c.phase ≠ .running then c.untimely r.id
    else
      match r.id with
      | none => (c, {})
      | some id =>
        match paramsOf shape r.params with
        | .error f => (c, refuse (some id) f)
        | .ok _ => (c, refuse (some id) .unsupported)
  | some .unheeded =>
    match r.id with
    | none => (c, {})
    | some id =>
      if r.method.startsWith "$/" ∨ c.phase = .running then (c, refuse (some id) .invalidRequest)
      else c.untimely r.id

def replyOf (r : Response) : Reply :=
  match r.outcome with
  | .error f => .failure f
  | .ok (.arr items) => .values items
  | .ok _ => .failure (.ofCode (-32700) none)

def takeResponse (c : Conversation) (r : Response) : Conversation × Turn :=
  match r.id with
  | .int n =>
    if 0 ≤ n then
      let (server, effects) := c.server.answer n.toNat (replyOf r)
      ({ c with server := server }, ⟨none, effects.map Outgoing.ofEffect⟩)
    else (c, {})
  | _ => (c, {})

/-- Ends a conversation in which something else than a message came. -/
def breakOff (c : Conversation) (f : Failure) : Conversation × Turn :=
  ({ c with phase := .exited }, refuse (some .null) f)

/-- Takes the text of a message. A member that matters may not be repeated in it. After the end of
the conversation nothing is taken. -/
def receiveText (c : Conversation) (text : String) : Conversation × Turn :=
  if c.phase = .exited then (c, {})
  else
    match Json.parse? text with
    | none => c.breakOff .unreadable
    | some message =>
      let keys := Json.keysOf text
      let once {α : Type} (names : List String) (read : Option α) : Option α :=
        if repeats names keys then none else read
      match once Response.memberNames (Response.ofJson? message) with
      | some r => c.takeResponse r
      | none =>
        match once Request.memberNames (Request.ofJson? message) with
        | some r => c.receive r
        | none => c.breakOff .invalidRequest

end Conversation

end ClassPad.Rpc
