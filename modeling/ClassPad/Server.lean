import ClassPad.Catalog.Basic
import ClassPad.Protocol.Capabilities
import ClassPad.Settings.Cache

/-!
The language server: open documents, their settings, and the diagnostics it publishes. A validation
pass looks up the settings of its document; it ends at once if they are known and otherwise waits
for the answer to the request that it joined. The text that it judges is the one at its end.
-/

set_option autoImplicit false
set_option relaxedAutoImplicit false

namespace ClassPad

inductive LogLevel where
  | error
  | warning
  | info
  | log
deriving DecidableEq, Repr

def LogLevel.code : LogLevel → Nat
  | .error => 1
  | .warning => 2
  | .info => 3
  | .log => 4

/-- A validation pass that waits for settings. -/
structure Pass where
  uri : Uri
  request : Nat
  call : Nat
deriving DecidableEq, Repr

/-- The state of the server. -/
structure Server where
  catalog : Catalog
  negotiated : Option Flags := none
  cache : SettingsCache := {}
  documents : List Document := []
  /-- The passes that wait, oldest first. -/
  passes : List Pass := []
  calls : Nat := 0
deriving Repr

/-- What a client asks of the server or tells it. -/
inductive Call where
  | negotiate (capabilities : ClientCapabilities)
  | ready
  | shutdown
  | opened (uri : Uri) (text : List Char) (version : Int)
  | changed (uri : Uri) (edits : List Edit) (version : Int)
  | closed (uri : Uri)
  | configured (payload : Json)
  | foldersChanged
  | filesChanged
  | complete
  /-- Asks for the rest of an item, which is in its normal form. -/
  | resolve (item : Json)

inductive Answer where
  | nothing
  | capabilities (flags : Flags)
  | items (items : List Item)
  | item (item : Json)

def Answer.toJson : Answer → Json
  | .nothing => .null
  | .capabilities flags => flags.answer
  | .items offered => .arr (offered.map Item.toJson)
  | .item resolved => resolved

/-- What the server does besides answering. -/
inductive Effect where
  | request (number : Nat) (uri : Uri)
  | publish (uri : Uri) (diagnostics : List Diagnostic)
  | log (level : LogLevel) (message : String)
  /-- Asks to be told of changed settings. -/
  | register

namespace Server

/-- The flags in force: none is set until they are negotiated. -/
def flags (s : Server) : Flags := s.negotiated.getD {}

def find? (s : Server) (uri : Uri) : Option Document := s.documents.find? fun d => d.uri = uri

def openUris (s : Server) : List Uri := s.documents.map Document.uri

/-- Stores a document, in the place of the one with its address if there is one. -/
def store (d : Document) : List Document → List Document
  | [] => [d]
  | e :: rest => if e.uri = d.uri then d :: rest else e :: store d rest

/-- What a pass does when its settings are known. -/
def conclude (s : Server) (uri : Uri) : Outcome → List Effect
  | .error e => [.log .warning ("Skipping validation of " ++ uri.text ++ ": " ++ e.message)]
  | .ok settings =>
    match s.find? uri with
    | none => []
    | some d => [.publish uri (d.validate settings s.flags.relatedInformation)]

/-- Starts a pass for a document; without the document there is nothing to do. -/
def startPass (s : Server) (uri : Uri) : Server × List Effect :=
  match s.find? uri with
  | none => (s, [])
  | some _ =>
    let (cache, lookup, sent) := s.cache.get uri
    let asked := sent.toList.map fun number => Effect.request number uri
    match lookup with
    | .settled outcome => ({ s with cache := cache }, asked ++ s.conclude uri outcome)
    | .waiting request =>
      ({ s with cache := cache, passes := s.passes ++ [⟨uri, request, s.calls⟩] }, asked)

def startPasses (s : Server) : List Uri → Server × List Effect
  | [] => (s, [])
  | uri :: rest =>
    let (s, done) := s.startPass uri
    let (s, more) := startPasses s rest
    (s, done ++ more)

def perform (s : Server) : Call → Server × List Effect
  | .negotiate capabilities =>
    let kept := s.negotiated.getD (Flags.ofClient capabilities)
    ({ s with
        negotiated := some kept
        cache := s.cache.setScope (if kept.configuration then .perResource else .global) }, [])
  | .ready =>
    (s, (if s.flags.configuration then [.register] else []) ++
      [.log .info "ClassPad LSP initialized"])
  | .shutdown => (s, [])
  | .opened uri text version =>
    { s with documents := store ⟨uri, text, version⟩ s.documents }.startPass uri
  | .changed uri edits version =>
    match s.find? uri with
    | none => (s, [])
    | some d => { s with documents := store (d.applyEdits edits version) s.documents }.startPass uri
  | .closed uri =>
    ({ s with
        documents := s.documents.filter fun d => d.uri ≠ uri
        cache := s.cache.forget uri }, [])
  | .configured payload =>
    let cache :=
      match s.cache.scope with
      | .perResource => s.cache.invalidateAll
      | .global => s.cache.setShared (Settings.ofChangeNotification payload)
    { s with cache := cache }.startPasses s.openUris
  | .foldersChanged => (s, [.log .log "Workspace folder change event received."])
  | .filesChanged => (s, [.log .log "We received a file change event"])
  | .complete => (s, [])
  | .resolve _ => (s, [])

/-- What a call is answered, given the state after it. -/
def reply (s : Server) : Call → Answer
  | .negotiate _ => .capabilities s.flags
  | .complete => .items s.catalog.items
  | .resolve item => .item item
  | _ => .nothing

def call (s : Server) (c : Call) : Server × Answer × List Effect :=
  let (next, effects) := s.perform c
  ({ next with calls := next.calls + 1 }, next.reply c, effects)

/-- Takes the answer to a request: the passes that joined it come to their ends. -/
def answer (s : Server) (request : Nat) (reply : Reply) : Server × List Effect :=
  let (done, rest) := s.passes.partition fun p => p.request = request
  ({ s with cache := s.cache.answer request reply, passes := rest },
    done.flatMap fun p => s.conclude p.uri reply.outcome)

/-- The number of calls that wait for the client. -/
def pending (s : Server) : Nat := (s.passes.map Pass.call).eraseDups.length

end Server

end ClassPad
