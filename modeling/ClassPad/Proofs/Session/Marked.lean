import ClassPad.Proofs.Client
import ClassPad.Proofs.Server.Step
import ClassPad.Session

/-!
The effects of a session, each with the document of the pass that it comes from. A warning names its
document only in its text; with the mark there is no doubt which document it concerns. Without the
marks these are the effects of the session.
-/

set_option autoImplicit false
set_option relaxedAutoImplicit false

namespace ClassPad

/-- An effect with the document of its pass, if it comes from one. -/
abbrev Marked := Option Uri × Effect

/-- The mark is the document that the effect names: requests, diagnostics and warnings come from
passes, everything else does not. -/
def Marked.Apt : Marked → Prop
  | (mark, .request _ uri) => mark = some uri
  | (mark, .publish uri _) => mark = some uri
  | (mark, .log .warning message) => ∃ (uri : Uri) (e : SettingsError), mark = some uri ∧
      message = "Skipping validation of " ++ uri.text ++ ": " ++ e.message
  | (mark, _) => mark = none

def Effect.unnumbered : Effect → Effect
  | .request _ uri => .request 0 uri
  | effect => effect

/-- The effects that concern a document, without the numbers of requests. -/
def about (uri : Uri) (effects : List Marked) : List Effect :=
  (effects.filter fun m => m.1 = some uri).map fun m => m.2.unnumbered

namespace Server

def markedPasses (s : Server) : List Uri → List Marked
  | [] => []
  | uri :: rest => (s.startPass uri).2.map (some uri, ·) ++ (s.startPass uri).1.markedPasses rest

def markedCall (s : Server) (c : Call) : List Marked :=
  (s.notices c).map (none, ·) ++ (s.prepare c).markedPasses (s.starts c)

/-- The state after an answer, and what the passes do that it ends. -/
def markedAnswer (s : Server) (request : Nat) (reply : Reply) : Server × List Marked :=
  ((s.answer request reply).1,
    (s.passes.filter fun p => p.request = request).flatMap
      fun p => (s.conclude p.uri reply.outcome).map (some p.uri, ·))

end Server

namespace Session

def markedPeer : Client.Peer Server Marked where
  asked m := peer.asked m.2
  answer := Server.markedAnswer

def markedStep (x : Session) : Step → List Marked
  | .release uri => (Client.deliver markedPeer x.server (x.client.release uri).2).2
  | .call c =>
    (Client.attend markedPeer x.client (x.server.call c).1 (x.server.markedCall c)).2.2
  | _ => []

end Session

/-! Without the marks -/

section Erase

variable (s : Server)

private theorem map_snd_mark (mark : Option Uri) (effects : List Effect) :
    (effects.map (mark, ·)).map Prod.snd = effects := by
  rw [List.map_map]
  exact List.map_id effects

private theorem Server.map_snd_markedPasses (uris : List Uri) :
    (s.markedPasses uris).map Prod.snd = (s.startPasses uris).2 := by
  induction uris generalizing s with
  | nil => rfl
  | cons uri rest ih =>
    rw [markedPasses, startPasses_cons, List.map_append, ih, map_snd_mark]

theorem Server.map_snd_markedCall (c : Call) : (s.markedCall c).map Prod.snd = (s.call c).2.2 := by
  rw [markedCall, call_eq, List.map_append, map_snd_markedPasses, map_snd_mark]

private theorem Session.answer_markedPeer (request : Nat) (reply : Reply) :
    peer.answer s request reply =
      ((markedPeer.answer s request reply).1,
        (markedPeer.answer s request reply).2.map Prod.snd) := by
  have hends : ((s.passes.filter fun p => p.request = request).flatMap fun p =>
      (s.conclude p.uri reply.outcome).map (some p.uri, ·)).map Prod.snd =
      (s.passes.filter fun p => p.request = request).flatMap
        fun p => s.conclude p.uri reply.outcome := by
    simp only [List.map_flatMap, map_snd_mark]
  simp only [peer, markedPeer, Server.markedAnswer, hends]
  rw [Server.answer_eq]

private theorem Session.attend_markedPeer (client : Client) (effects : List Marked) :
    Client.attend peer client s (effects.map Prod.snd) =
      ((Client.attend markedPeer client s effects).1,
        (Client.attend markedPeer client s effects).2.1,
        (Client.attend markedPeer client s effects).2.2.map Prod.snd) := by
  have hasked : ∀ m : Marked, peer.asked m.2 = markedPeer.asked m := fun _ => rfl
  exact Client.attend_map hasked answer_markedPeer client s effects

theorem Session.step_release (x : Session) (uri : Uri) :
    (x.step (.release uri)).1 =
      ⟨(x.client.release uri).1,
        (Client.deliver markedPeer x.server (x.client.release uri).2).1⟩ := by
  have h := Client.deliver_map answer_markedPeer x.server (x.client.release uri).2
  simp only [step, h]

theorem Session.step_call (x : Session) (c : Call) :
    (x.step (.call c)).1 =
      ⟨(Client.attend markedPeer x.client (x.server.call c).1 (x.server.markedCall c)).1,
        (Client.attend markedPeer x.client (x.server.call c).1 (x.server.markedCall c)).2.1⟩ := by
  have h := attend_markedPeer (x.server.call c).1 x.client (x.server.markedCall c)
  rw [Server.map_snd_markedCall] at h
  simp only [step, h]

theorem Session.map_snd_markedStep (x : Session) (i : Step) :
    (x.markedStep i).map Prod.snd = (x.step i).2.2 := by
  cases i with
  | release uri =>
    have h := Client.deliver_map answer_markedPeer x.server (x.client.release uri).2
    simp only [step, h, markedStep]
  | call c =>
    have h := attend_markedPeer (x.server.call c).1 x.client (x.server.markedCall c)
    rw [Server.map_snd_markedCall] at h
    simp only [step, h, markedStep]
  | configure uri reply => rfl
  | stall uri => rfl
  | idle => rfl

end Erase

/-! The marks -/

section Apt

variable {s : Server}

private theorem Server.apt_conclude {uri : Uri} {o : Outcome} :
    ∀ effect ∈ s.conclude uri o, Marked.Apt (some uri, effect) := by
  intro effect hmem
  cases o with
  | error e =>
    rw [conclude, List.mem_singleton] at hmem
    subst hmem
    exact ⟨uri, e, rfl, rfl⟩
  | ok settings =>
    rw [conclude] at hmem
    cases hfind : s.find? uri with
    | none => simp [hfind] at hmem
    | some d =>
      simp only [hfind, List.mem_singleton] at hmem
      subst hmem
      rfl

private theorem Server.apt_startPass {uri : Uri} :
    ∀ effect ∈ (s.startPass uri).2, Marked.Apt (some uri, effect) := by
  intro effect hmem
  cases hfind : s.find? uri with
  | none =>
    rw [startPass_of_not_open hfind] at hmem
    exact absurd hmem List.not_mem_nil
  | some d =>
    rw [startPass_of_open (by simp [hfind])] at hmem
    rcases List.mem_append.mp hmem with hsent | hdone
    · obtain ⟨number, -, rfl⟩ := List.mem_map.mp hsent
      rfl
    · obtain ⟨o, -, hdone⟩ := List.mem_flatMap.mp hdone
      exact apt_conclude effect hdone

private theorem Server.apt_notices {c : Call} :
    ∀ effect ∈ s.notices c, Marked.Apt (none, effect) := by
  intro effect hmem
  cases c with
  | ready =>
    rw [notices] at hmem
    rcases List.mem_append.mp hmem with hreg | hlog
    · split_ifs at hreg
      · obtain rfl := List.mem_singleton.mp hreg
        rfl
      · exact absurd hreg List.not_mem_nil
    · obtain rfl := List.mem_singleton.mp hlog
      rfl
  | foldersChanged =>
    obtain rfl := List.mem_singleton.mp hmem
    rfl
  | filesChanged =>
    obtain rfl := List.mem_singleton.mp hmem
    rfl
  | _ => exact absurd hmem List.not_mem_nil

private theorem Server.apt_markedPasses {uris : List Uri} : ∀ m ∈ s.markedPasses uris, m.Apt := by
  induction uris generalizing s with
  | nil => exact fun m hmem => absurd hmem List.not_mem_nil
  | cons uri rest ih =>
    refine List.forall_mem_append.mpr ⟨?_, ih⟩
    exact List.forall_mem_map.mpr apt_startPass

theorem Server.apt_markedCall {c : Call} : ∀ m ∈ s.markedCall c, m.Apt := by
  refine List.forall_mem_append.mpr ⟨?_, apt_markedPasses⟩
  exact List.forall_mem_map.mpr apt_notices

private theorem Server.apt_markedAnswer (s : Server) (request : Nat) (reply : Reply) :
    ∀ m ∈ (s.markedAnswer request reply).2, m.Apt := by
  intro m hmem
  obtain ⟨p, -, hmem⟩ := List.mem_flatMap.mp hmem
  obtain ⟨effect, heffect, rfl⟩ := List.mem_map.mp hmem
  exact apt_conclude effect heffect

theorem Session.apt_markedStep (x : Session) (i : Step) : ∀ m ∈ x.markedStep i, m.Apt := by
  cases i with
  | release uri =>
    exact (Client.deliver_induction (P := fun _ => True) (fun _ _ _ _ => trivial)
      (fun s request reply _ => s.apt_markedAnswer request reply) trivial).2
  | call c =>
    exact (Client.attend_induction (P := fun _ => True) (fun _ _ _ _ => trivial)
      (fun s request reply _ => s.apt_markedAnswer request reply) trivial Server.apt_markedCall).2
  | _ => exact fun m hmem => absurd hmem List.not_mem_nil

end Apt

/-! What concerns a document -/

section About

variable {uri : Uri}

theorem about_append (uri : Uri) (first second : List Marked) :
    about uri (first ++ second) = about uri first ++ about uri second := by
  rw [about, List.filter_append, List.map_append, about, about]

theorem about_cons_of_ne {m : Marked} (h : m.1 ≠ some uri) (rest : List Marked) :
    about uri (m :: rest) = about uri rest := by
  rw [about, List.filter_cons_of_neg (by simpa using h), about]

theorem about_cons_of_eq {m : Marked} (h : m.1 = some uri) (rest : List Marked) :
    about uri (m :: rest) = m.2.unnumbered :: about uri rest := by
  rw [about, List.filter_cons_of_pos (by simpa using h), List.map_cons, about]

theorem about_map_self (effects : List Effect) :
    about uri (effects.map (some uri, ·)) = effects.map Effect.unnumbered := by
  induction effects with
  | nil => rfl
  | cons effect rest ih => rw [List.map_cons, about_cons_of_eq rfl, ih, List.map_cons]

theorem about_map_of_ne {mark : Option Uri} (h : mark ≠ some uri) (effects : List Effect) :
    about uri (effects.map (mark, ·)) = [] := by
  induction effects with
  | nil => rfl
  | cons effect rest ih => rw [List.map_cons, about_cons_of_ne h, ih]

theorem asked_unnumbered_eq_none_iff {effect : Effect} :
    Session.peer.asked effect.unnumbered = none ↔ Session.peer.asked effect = none := by
  cases effect <;> simp [Effect.unnumbered, Session.peer]

theorem Server.map_unnumbered_conclude (s : Server) (uri : Uri) (o : Outcome) :
    (s.conclude uri o).map Effect.unnumbered = s.conclude uri o := by
  cases o with
  | error e => rfl
  | ok settings =>
    rw [conclude]
    cases s.find? uri <;> rfl

end About

end ClassPad
