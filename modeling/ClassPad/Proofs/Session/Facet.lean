import ClassPad.Proofs.Server.Facet
import ClassPad.Proofs.Session.Convergence

/-!
A session seen from one document. At rest, the next facet of a document and what the step does that
concerns it follow from its facet and the step. So a session is, document by document, a machine
that knows nothing of the other documents.
-/

set_option autoImplicit false
set_option relaxedAutoImplicit false

namespace ClassPad

/-- What a client holds of one document, and what it holds for all. -/
structure Client.Facet where
  fallback : Reply
  own : Option Reply
  stalled : Bool

namespace Client

def facet (c : Client) (uri : Uri) : Facet where
  fallback := c.fallback
  own := c.replies.lookup uri
  stalled := decide (uri ∈ c.stalled)

namespace Facet

def reply (c : Facet) : Reply := c.own.getD c.fallback

/-- Attends to what a server does that concerns the document. -/
def hear (c : Facet) (uri : Uri) (f : Server.Facet) : List Effect → Server.Facet × List Effect
  | [] => (f, [])
  | effect :: rest =>
    let (f, done) :=
      if (Session.peer.asked effect).isSome && !c.stalled then f.settle uri c.reply.outcome
      else (f, [])
    let (f, more) := c.hear uri f rest
    (f, effect :: done ++ more)

variable {c : Facet} {uri : Uri} {f : Server.Facet} {effect : Effect} {rest : List Effect}

private theorem hear_of_passed (h : Session.peer.asked effect = none ∨ c.stalled = true) :
    c.hear uri f (effect :: rest) = ((c.hear uri f rest).1, effect :: (c.hear uri f rest).2) := by
  have hcond : ((Session.peer.asked effect).isSome && !c.stalled) = false := by
    rcases h with hask | hstalled
    · simp [hask]
    · simp [hstalled]
  simp only [hear, hcond, Bool.false_eq_true, if_false, List.singleton_append]

theorem hear_of_settled (hask : Session.peer.asked effect ≠ none) (hfree : c.stalled = false)
    {g : Server.Facet} {done : List Effect} (hg : (g, done) = f.settle uri c.reply.outcome) :
    c.hear uri f (effect :: rest) =
      ((c.hear uri g rest).1, effect :: done ++ (c.hear uri g rest).2) := by
  have hcond : ((Session.peer.asked effect).isSome && !c.stalled) = true := by
    simp [hfree, Option.isSome_iff_ne_none, hask]
  simp only [hear, hcond, if_true, ← hg]

end Facet

section Facet

variable {c : Client} {uri v : Uri}

private theorem facet_configure_self (reply : Reply) :
    (c.configure (some uri) reply).facet uri = { c.facet uri with own := some reply } := by
  have hlookup : ((uri, reply) :: c.replies).lookup uri = some reply := by simp
  exact congrArg (fun own => { c.facet uri with own := own }) hlookup

private theorem facet_configure_of_ne (h : uri ≠ v) (reply : Reply) :
    (c.configure (some uri) reply).facet v = c.facet v := by
  have hne : (v == uri) = false := by simpa using Ne.symm h
  have hlookup : ((uri, reply) :: c.replies).lookup v = c.replies.lookup v := by
    simp [List.lookup_cons, hne]
  exact congrArg (fun own => { c.facet v with own := own }) hlookup

private theorem facet_stall_self :
    (c.stall uri).facet uri = { c.facet uri with stalled := true } := by
  simp [facet, stall]

private theorem facet_stall_of_ne (h : uri ≠ v) : (c.stall uri).facet v = c.facet v := by
  simp [facet, stall, Ne.symm h]

private theorem facet_release_self :
    (c.release uri).1.facet uri = { c.facet uri with stalled := false } := by
  simp [facet, release]

private theorem facet_release_of_ne (h : uri ≠ v) : (c.release uri).1.facet v = c.facet v := by
  simp [facet, release, Ne.symm h]

end Facet

end Client

namespace Session

open Server (Awaits requested)

/-- What a session holds of one document, and what it holds for all. -/
structure Facet where
  client : Client.Facet
  server : Server.Facet

def facet (x : Session) (uri : Uri) : Facet := ⟨x.client.facet uri, x.server.facet uri⟩

def Facet.step (x : Facet) (uri : Uri) : Step → Facet × List Effect
  | .configure none reply => ({ x with client := { x.client with fallback := reply } }, [])
  | .configure (some other) reply =>
    if other = uri then ({ x with client := { x.client with own := some reply } }, []) else (x, [])
  | .stall other =>
    if other = uri then ({ x with client := { x.client with stalled := true } }, []) else (x, [])
  | .release other =>
    if other = uri then
      let (server, done) := x.server.settle uri x.client.reply.outcome
      (⟨{ x.client with stalled := false }, server⟩, done)
    else (x, [])
  | .call c =>
    let (server, effects) := x.server.call uri c
    let (server, done) := x.client.hear uri server effects
    ({ x with server := server }, done)
  | .idle => (x, [])

/-! The client's part -/

private theorem mark_of_asked {m : Marked} (h : m.Apt) {request : Nat} {uri : Uri}
    (hask : peer.asked m.2 = some (request, uri)) : m.1 = some uri := by
  obtain ⟨mark, effect⟩ := m
  cases effect with
  | request number other =>
    simp only [peer, Option.some.injEq, Prod.mk.injEq] at hask
    obtain ⟨-, rfl⟩ := hask
    exact h
  | publish other diagnostics => simp [peer] at hask
  | log level message => simp [peer] at hask
  | register => simp [peer] at hask

/-- Attending to the server is, for each document, attending to what concerns it. -/
theorem facet_attend {client : Client} {server : Server} {effects : List Marked} (v : Uri)
    (hapt : ∀ m ∈ effects, m.Apt)
    (honce : ((requested (effects.map Prod.snd)).map Prod.snd).Nodup)
    (hstalled : ∀ w ∈ client.held, w.2 ∈ client.stalled)
    (h : Awaits server.cache server.passes
      (client.held ++ requested (effects.map Prod.snd))) :
    (Client.attend markedPeer client server effects).1.facet v = client.facet v ∧
      ((Client.attend markedPeer client server effects).2.1.facet v,
        about v (Client.attend markedPeer client server effects).2.2) =
        (client.facet v).hear v (server.facet v) (about v effects) := by
  induction effects generalizing client server with
  | nil => exact ⟨rfl, rfl⟩
  | cons m rest ih =>
    have hfirst := hapt m List.mem_cons_self
    have hrest : ∀ n ∈ rest, n.Apt := fun n hn => hapt n (List.mem_cons_of_mem m hn)
    rw [List.map_cons] at honce h
    cases hask : peer.asked m.2 with
    | none =>
      rw [requested_of_other hask] at honce h
      obtain ⟨hclient, hserver⟩ := ih hrest honce hstalled h
      have hother : markedPeer.asked m = none := hask
      rw [Client.attend_of_other hother]
      refine ⟨hclient, ?_⟩
      by_cases hmark : m.1 = some v
      · have hpassed : peer.asked m.2.unnumbered = none := asked_unnumbered_eq_none_iff.mpr hask
        rw [about_cons_of_eq hmark, about_cons_of_eq hmark,
          Client.Facet.hear_of_passed (.inl hpassed), ← hserver]
      · rw [about_cons_of_ne hmark, about_cons_of_ne hmark]
        exact hserver
    | some w =>
      obtain ⟨request, uri⟩ := w
      have hmark : m.1 = some uri := mark_of_asked hfirst hask
      have hasked : markedPeer.asked m = some (request, uri) := hask
      rw [requested_of_asked hask] at honce h
      obtain ⟨hlast, honce⟩ := List.nodup_cons.mp honce
      by_cases hheld : uri ∈ client.stalled
      · have hnext := Client.held_hold_stalled hstalled hheld request
        have hseen : Awaits server.cache server.passes
            ((client.hold request uri).held ++ requested (rest.map Prod.snd)) := by
          rwa [List.append_cons] at h
        obtain ⟨hclient, hserver⟩ := ih hrest honce hnext hseen
        change _ = (client.facet v).hear v _ _ at hserver
        rw [Client.attend_of_stalled hasked hheld]
        refine ⟨hclient, ?_⟩
        by_cases hv : uri = v
        · subst hv
          have hpassed : (client.facet uri).stalled = true := by simpa [Client.facet] using hheld
          rw [about_cons_of_eq hmark, about_cons_of_eq hmark,
            Client.Facet.hear_of_passed (.inr hpassed), ← hserver]
        · have hne : m.1 ≠ some v := by simpa [hmark] using hv
          rw [about_cons_of_ne hne, about_cons_of_ne hne]
          exact hserver
      · have hbefore : ∀ w ∈ client.held, w.2 ≠ uri := fun w hw heq => hheld (heq ▸ hstalled w hw)
        have hanswer := Server.awaits_markedAnswer h hbefore (client.reply uri)
        obtain ⟨hclient, hserver⟩ := ih hrest honce hstalled hanswer
        rw [Client.attend_of_answered hasked hheld rfl]
        refine ⟨hclient, ?_⟩
        by_cases hv : uri = v
        · -- this was the only awaited request of the document, so nothing waits for it any more
          subst hv
          have hnone : ∀ w ∈ client.held ++ requested (rest.map Prod.snd), w.2 ≠ uri := by
            intro w hw heq
            rcases List.mem_append.mp hw with hold | hnew
            · exact hbefore w hold heq
            · exact hlast (List.mem_map.mpr ⟨w, hnew, heq⟩)
          have hsettle := Server.facet_answer_of_last h hnone (client.reply uri)
          have hrequest : peer.asked m.2.unnumbered ≠ none := fun hn => by
            rw [asked_unnumbered_eq_none_iff, hask] at hn
            exact absurd hn (by simp)
          have hfree : (client.facet uri).stalled = false := by simpa [Client.facet] using hheld
          rw [List.cons_append, about_cons_of_eq hmark, about_cons_of_eq hmark, about_append,
            Client.Facet.hear_of_settled hrequest hfree hsettle, ← hserver]
          rfl
        · have hne : m.1 ≠ some v := by simpa [hmark] using hv
          obtain ⟨hsame, hquiet⟩ := Server.facet_answer_of_ne h (Ne.symm hv) (client.reply uri)
          rw [List.cons_append, about_cons_of_ne hne, about_cons_of_ne hne, about_append, ← hsame]
          refine Eq.trans ?_ hserver
          exact congrArg (Prod.mk _) ((congrArg (· ++ _) hquiet).trans (List.nil_append _))

private theorem facet_deliver {server : Server} {before held : List (Nat × Uri)} {uri : Uri}
    (h : Awaits server.cache server.passes (before ++ held))
    (hbefore : ∀ w ∈ before, w.2 ≠ uri) (reply : Reply) {s : Server} {done : List Marked}
    (hdeliver : Client.deliver markedPeer server
      ((held.filter fun w => w.2 = uri).map fun w => (w.1, reply)) = (s, done)) :
    (server.facet uri).Progress uri reply.outcome (s.facet uri) (about uri done) ∧
      ∀ v ≠ uri, s.facet v = server.facet v ∧ about v done = [] := by
  induction held generalizing server before s done with
  | nil =>
    obtain ⟨rfl, rfl⟩ := Prod.ext_iff.mp hdeliver
    exact ⟨.refl _ _ _, fun v _ => ⟨rfl, rfl⟩⟩
  | cons w rest ih =>
    obtain ⟨request, other⟩ := w
    by_cases hw : other = uri
    · subst hw
      rw [List.filter_cons_of_pos (by simp), List.map_cons, Client.deliver_cons] at hdeliver
      obtain ⟨rfl, rfl⟩ := Prod.ext_iff.mp hdeliver
      have hanswer := Server.awaits_markedAnswer h hbefore reply
      obtain ⟨hown, hothers⟩ := ih hanswer hbefore rfl
      refine ⟨?_, fun v hv => ?_⟩
      · rw [about_append]
        exact (Server.progress_answer h reply).trans hown
      · obtain ⟨hsame, hquiet⟩ := Server.facet_answer_of_ne h hv reply
        obtain ⟨hsame', hquiet'⟩ := hothers v hv
        refine ⟨hsame'.trans hsame, ?_⟩
        rw [about_append]
        exact List.append_eq_nil_iff.mpr ⟨hquiet, hquiet'⟩
    · rw [List.append_cons] at h
      rw [List.filter_cons_of_neg (by simpa using hw)] at hdeliver
      refine ih h (fun w hmem => ?_) hdeliver
      rcases List.mem_append.mp hmem with hold | hnew
      · exact hbefore w hold
      · rwa [List.mem_singleton.mp hnew]

/-! Steps -/

private theorem requested_startPasses_sublist (s : Server) (uris : List Uri) :
    ((requested (s.startPasses uris).2).map Prod.snd).Sublist uris := by
  induction uris generalizing s with
  | nil => exact List.Sublist.refl _
  | cons uri rest ih =>
    have hrest := ih (s.startPass uri).1
    rw [Server.startPasses_cons, Server.requested_append, List.map_append]
    rcases Server.startPass_cases s uri with ⟨-, hsent, -⟩ | ⟨-, hsent, -⟩
    · rw [hsent]
      exact hrest.cons uri
    · rw [hsent]
      exact hrest.cons_cons uri

private theorem nodup_requested_call {s : Server} (h : s.openUris.Nodup) (c : Call) :
    ((requested (s.call c).2.2).map Prod.snd).Nodup := by
  rw [Server.call_eq, Server.requested_append, Server.requested_notices, List.nil_append]
  exact (Server.nodup_starts h c).sublist (requested_startPasses_sublist _ _)

private theorem nodup_openUris_answer {s : Server} (h : s.openUris.Nodup) (request : Nat)
    (reply : Reply) : (s.markedAnswer request reply).1.openUris.Nodup := by
  rw [Server.markedAnswer, Server.answer_eq]
  exact h

theorem nodup_openUris_step {x : Session} (h : x.server.openUris.Nodup) (i : Step) :
    (x.step i).1.server.openUris.Nodup := by
  cases i with
  | release uri =>
    rw [step_release]
    exact (Client.deliver_induction (P := fun s : Server => s.openUris.Nodup) (Q := fun _ => True)
      (fun _ request reply hs => nodup_openUris_answer hs request reply)
      (fun _ _ _ _ _ _ => trivial) h).1
  | call c =>
    have hcall : (x.server.call c).1.openUris.Nodup := by
      rw [Server.call_eq, Server.openUris, Server.documents_startPasses]
      exact Server.nodup_openUris_prepare h c
    rw [step_call]
    exact (Client.attend_induction (P := fun s : Server => s.openUris.Nodup) (Q := fun _ => True)
      (fun _ request reply hs => nodup_openUris_answer hs request reply)
      (fun _ _ _ _ _ _ => trivial) hcall (fun _ _ => trivial)).1
  | configure uri reply => exact h
  | stall uri => exact h
  | idle => exact h

/-- A step of a session at rest is a step of each facet. -/
theorem facet_step {x : Session} {log : List Effect} (h : Rests x log)
    (honce : x.server.openUris.Nodup) (v : Uri) (i : Step) :
    ((x.step i).1.facet v, about v (x.markedStep i)) = (x.facet v).step v i := by
  cases i with
  | configure uri reply =>
    cases uri with
    | none => rfl
    | some uri =>
      simp only [step, markedStep, facet, Facet.step]
      by_cases huri : uri = v
      · subst huri
        rw [Client.facet_configure_self, if_pos rfl]
        rfl
      · rw [Client.facet_configure_of_ne huri, if_neg huri]
        rfl
  | stall uri =>
    simp only [step, markedStep, facet, Facet.step]
    by_cases huri : uri = v
    · subst huri
      rw [Client.facet_stall_self, if_pos rfl]
      rfl
    · rw [Client.facet_stall_of_ne huri, if_neg huri]
      rfl
  | release uri =>
    have hheld : Awaits x.server.cache x.server.passes ([] ++ x.client.held) := h.coherent.awaits
    obtain ⟨hown, hothers⟩ := facet_deliver hheld (fun w hw => absurd hw List.not_mem_nil)
      (x.client.reply uri) rfl
    have hafter := (rests_step h (.release uri)).coherent.awaits
    rw [step_release] at hafter ⊢
    by_cases huri : uri = v
    · subst huri
      obtain ⟨hwaiting, hentry⟩ := Server.settled_of_awaits hafter
        fun w hw => by simpa using (List.mem_filter.mp hw).2
      have hsettle := hown.eq_settle hwaiting hentry
      have hreply : (x.client.facet uri).reply = x.client.reply uri := rfl
      simp only [Facet.step, if_true, facet, hreply, ← hsettle, Client.facet_release_self]
      rfl
    · obtain ⟨hsame, hquiet⟩ := hothers v (Ne.symm huri)
      simp only [Facet.step, if_neg huri, facet, Client.facet_release_of_ne huri, Prod.mk.injEq,
        Facet.mk.injEq, true_and]
      exact ⟨hsame, hquiet⟩
  | idle => rfl
  | call c =>
    have hcall : Awaits (x.server.call c).1.cache (x.server.call c).1.passes
        (x.client.held ++ requested ((x.server.markedCall c).map Prod.snd)) := by
      rw [Server.map_snd_markedCall]
      exact (h.coherent.call c).awaits
    have hnodup : ((requested ((x.server.markedCall c).map Prod.snd)).map Prod.snd).Nodup := by
      rw [Server.map_snd_markedCall]
      exact nodup_requested_call honce c
    obtain ⟨hclient, hserver⟩ := facet_attend v Server.apt_markedCall hnodup h.stalled hcall
    obtain ⟨hstate, hdone⟩ := Prod.ext_iff.mp (Server.facet_call honce v c)
    rw [step_call]
    simp only [Facet.step, facet, ← hstate, ← hdone, ← hserver, hclient, markedStep]

end Session

end ClassPad
