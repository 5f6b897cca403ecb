import ClassPad.Client
import ClassPad.Settings.Service

/-!
A settings service in the hands of a scripted client. Each step runs until nothing more can happen;
lookups whose answers are held back stay open.
-/

set_option autoImplicit false
set_option relaxedAutoImplicit false

namespace ClassPad

structure SettingsSession where
  client : Client := {}
  service : SettingsService := {}

namespace SettingsSession

inductive Step where
  | configure (uri : Option Uri) (reply : Reply)
  | stall (uri : Uri)
  | release (uri : Uri)
  | input (input : SettingsService.Input)
  /-- Nothing that the service could notice. -/
  | idle

def peer : Client.Peer SettingsService SettingsService.Event where
  asked
    | .asked request uri => some (request, uri)
    | .resolved _ _ => none
  answer s request reply := s.step (.answer request reply)

def step (s : SettingsSession) : Step → SettingsSession × List SettingsService.Event
  | .configure uri reply => ({ s with client := s.client.configure uri reply }, [])
  | .stall uri => ({ s with client := s.client.stall uri }, [])
  | .release uri =>
    let (client, replies) := s.client.release uri
    let (service, events) := Client.deliver peer s.service replies
    (⟨client, service⟩, events)
  | .input input =>
    let (service, events) := s.service.step input
    let (client, service, events) := Client.attend peer s.client service events
    (⟨client, service⟩, events)
  | .idle => (s, [])

end SettingsSession

end ClassPad
