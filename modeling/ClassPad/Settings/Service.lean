import ClassPad.Settings.Cache

/-!
A settings cache with those who wait for it. Each lookup is numbered and resolves once: at once, or
when the request that it joined is answered.
-/

set_option autoImplicit false
set_option relaxedAutoImplicit false

namespace ClassPad

/-- A cache and the lookups that wait, each with the request that it joined. -/
structure SettingsService where
  cache : SettingsCache := {}
  waiting : List (Nat × Nat) := []
  lookups : Nat := 0
deriving Repr

namespace SettingsService

inductive Input where
  | get (uri : Uri)
  | setScope (scope : Scope)
  | setShared (settings : Settings)
  | invalidateAll
  | forget (uri : Uri)
  | answer (request : Nat) (reply : Reply)

inductive Event where
  | asked (request : Nat) (uri : Uri)
  | resolved (lookup : Nat) (outcome : Outcome)

def step (s : SettingsService) : Input → SettingsService × List Event
  | .get uri =>
    let (cache, lookup, sent) := s.cache.get uri
    let asked := sent.toList.map fun request => Event.asked request uri
    match lookup with
    | .settled outcome =>
      ({ s with cache := cache, lookups := s.lookups + 1 }, asked ++ [.resolved s.lookups outcome])
    | .waiting request =>
      ({ cache := cache, waiting := s.waiting ++ [(s.lookups, request)], lookups := s.lookups + 1 },
        asked)
  | .setScope scope => ({ s with cache := s.cache.setScope scope }, [])
  | .setShared settings => ({ s with cache := s.cache.setShared settings }, [])
  | .invalidateAll => ({ s with cache := s.cache.invalidateAll }, [])
  | .forget uri => ({ s with cache := s.cache.forget uri }, [])
  | .answer request reply =>
    let (done, rest) := s.waiting.partition fun w => w.2 = request
    ({ s with cache := s.cache.answer request reply, waiting := rest },
      done.map fun w => .resolved w.1 reply.outcome)

end SettingsService

end ClassPad
