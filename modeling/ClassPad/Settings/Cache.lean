import ClassPad.Settings
import ClassPad.Rpc.Failure

/-!
The settings cache. Settings are one value for all documents, pushed by the client, or they are
asked for document by document. In the second case the first lookup of a document sends a request,
and all lookups share it, answered or not and whatever the answer, until the entry is dropped.
Requests are numbered from zero in the order in which they are sent, and an answer names its
request.
-/

set_option autoImplicit false
set_option relaxedAutoImplicit false

namespace ClassPad

/-- Where settings come from. -/
inductive Scope where
  /-- One value for all documents. -/
  | global
  /-- Asked for each document. -/
  | perResource
deriving DecidableEq, Repr

/-- What a client answers to a configuration request. -/
inductive Reply where
  | values (items : List Json)
  | failure (reason : Rpc.Failure)

abbrev Outcome := Except SettingsError Settings

/-- The settings that an answer holds: its first value decides. -/
def Reply.outcome : Reply → Outcome
  | .failure reason => .error (.query reason.text)
  | .values [] => .error .missing
  | .values (value :: _) => Settings.ofConfiguration value

/-- How far a lookup has come. -/
inductive Lookup where
  | settled (outcome : Outcome)
  | waiting (request : Nat)
deriving Repr

/-- The state of the settings. -/
structure SettingsCache where
  fixed : Option Scope := none
  shared : Settings := .standard
  /-- The request that serves each document. -/
  entries : List (Uri × Nat) := []
  /-- The outcome of each request, if it is answered. -/
  outcomes : List (Option Outcome) := []
deriving Repr

namespace SettingsCache

/-- The scope in force: global until another one is fixed. -/
def scope (c : SettingsCache) : Scope := c.fixed.getD .global

/-- Fixes the scope; only the first time counts. -/
def setScope (c : SettingsCache) (scope : Scope) : SettingsCache :=
  { c with fixed := some (c.fixed.getD scope) }

def setShared (c : SettingsCache) (settings : Settings) : SettingsCache :=
  { c with shared := settings }

def invalidateAll (c : SettingsCache) : SettingsCache := { c with entries := [] }

def forget (c : SettingsCache) (uri : Uri) : SettingsCache :=
  { c with entries := c.entries.filter fun e => e.1 ≠ uri }

def size (c : SettingsCache) : Nat := c.entries.length

def track (c : SettingsCache) (request : Nat) : Lookup :=
  match c.outcomes[request]? with
  | some (some outcome) => .settled outcome
  | _ => .waiting request

/-- Looks up the settings of a document. The last part is the request that had to be sent. -/
def get (c : SettingsCache) (uri : Uri) : SettingsCache × Lookup × Option Nat :=
  match c.scope with
  | .global => (c, .settled (.ok c.shared), none)
  | .perResource =>
    match c.entries.lookup uri with
    | some request => (c, c.track request, none)
    | none =>
      let request := c.outcomes.length
      ({ c with entries := (uri, request) :: c.entries, outcomes := c.outcomes ++ [none] },
        .waiting request, some request)

/-- Takes the answer to a request; only the first one counts. -/
def answer (c : SettingsCache) (request : Nat) (reply : Reply) : SettingsCache :=
  match c.outcomes[request]? with
  | some none => { c with outcomes := c.outcomes.set request (some reply.outcome) }
  | _ => c

end SettingsCache

end ClassPad
