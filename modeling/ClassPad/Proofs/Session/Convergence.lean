import ClassPad.Proofs.Client
import ClassPad.Proofs.Server.Agreement

/-!
Convergence of a session that starts with the negotiation of flags. The client answers the requests
for a document in the order in which they were sent, since it holds back all of them or none. So at
every rest between two steps the last diagnostics of an open document that has its settings are
those of its text and its settings, however its passes overlapped.
-/

set_option autoImplicit false
set_option relaxedAutoImplicit false

namespace ClassPad.Session

open Server (Coherent published requested)

def run (x : Session) : List Step → Session × List Effect
  | [] => (x, [])
  | i :: rest =>
    let (next, _, done) := x.step i
    let (last, more) := run next rest
    (last, done ++ more)

/-- A session at rest: the server awaits what the client holds back, and no document is due. -/
structure Rests (x : Session) (log : List Effect) : Prop where
  coherent : Coherent x.server x.client.held [] log
  stalled : ∀ w ∈ x.client.held, w.2 ∈ x.client.stalled

/-! The client's part -/

private theorem attend_of_no_request (client : Client) (server : Server) {effects : List Effect}
    (h : requested effects = []) :
    Client.attend peer client server effects = (client, server, effects) := by
  induction effects with
  | nil => rfl
  | cons effect rest ih =>
    have hall := List.filterMap_eq_nil_iff.mp h
    have hrest : requested rest = [] :=
      List.filterMap_eq_nil_iff.mpr fun e he => hall e (List.mem_cons_of_mem effect he)
    simp only [Client.attend, hall effect List.mem_cons_self, ih hrest]

theorem requested_of_other {effect : Effect} {rest : List Effect}
    (h : peer.asked effect = none) : requested (effect :: rest) = requested rest :=
  List.filterMap_cons_none h

theorem requested_of_asked {effect : Effect} {rest : List Effect} {w : Nat × Uri}
    (h : peer.asked effect = some w) : requested (effect :: rest) = w :: requested rest :=
  List.filterMap_cons_some h

/-- The client attends to requests one after the other; what it holds back and what it has not seen
yet is what the server awaits. -/
theorem rests_attend {client : Client} {server : Server} {effects log : List Effect}
    (hquiet : ∀ uri, published uri effects = [])
    (hstalled : ∀ w ∈ client.held, w.2 ∈ client.stalled)
    (h : Coherent server (client.held ++ requested effects) [] log) :
    Rests ⟨(Client.attend peer client server effects).1,
        (Client.attend peer client server effects).2.1⟩
      (log ++ (Client.attend peer client server effects).2.2) := by
  induction effects generalizing client server log with
  | nil =>
    simp only [Client.attend, List.append_nil]
    exact ⟨by simpa [requested] using h, hstalled⟩
  | cons effect rest ih =>
    have hsplit : ∀ uri, published uri [effect] = [] ∧ published uri rest = [] := fun uri => by
      have := hquiet uri
      rwa [← List.singleton_append, Server.published_append, List.append_eq_nil_iff] at this
    have hrest : ∀ uri, published uri rest = [] := fun uri => (hsplit uri).2
    have hseen := (Server.coherent_append_iff fun uri => (hsplit uri).1).mpr h
    cases hask : peer.asked effect with
    | none =>
      rw [requested_of_other hask] at hseen
      rw [Client.attend_of_other hask, List.append_cons log]
      exact ih hrest hstalled hseen
    | some w =>
      obtain ⟨request, uri⟩ := w
      rw [requested_of_asked hask] at hseen
      by_cases hheld : uri ∈ client.stalled
      · -- the request is awaited as before, now as one that is held back
        have hnext := Client.held_hold_stalled hstalled hheld request
        rw [List.append_cons] at hseen
        rw [Client.attend_of_stalled hask hheld, List.append_cons log]
        exact ih hrest hnext hseen
      · -- nothing is held back for the document, so no older request of it is awaited
        have hfirst : ∀ w ∈ client.held, w.2 ≠ uri := fun w hw heq => hheld (heq ▸ hstalled w hw)
        have hnext := hseen.answer hfirst (client.reply uri)
        rw [Client.attend_of_answered hask hheld rfl, List.cons_append, List.append_cons log,
          ← List.append_assoc]
        exact ih hrest hstalled hnext

/-- The requests of a document that are held back are answered oldest first. -/
theorem coherent_deliver {server : Server} {before held : List (Nat × Uri)} {log : List Effect}
    (h : Coherent server (before ++ held) [] log) {uri : Uri}
    (hbefore : ∀ w ∈ before, w.2 ≠ uri) (reply : Reply) :
    Coherent
      (Client.deliver peer server ((held.filter fun w => w.2 = uri).map fun w => (w.1, reply))).1
      (before ++ held.filter fun w => w.2 ≠ uri) []
      (log ++ (Client.deliver peer server
        ((held.filter fun w => w.2 = uri).map fun w => (w.1, reply))).2) := by
  -- what has been passed over on the way, `before`, is of other documents and stays awaited
  induction held generalizing server before log with
  | nil => simpa [Client.deliver] using h
  | cons w rest ih =>
    obtain ⟨request, other⟩ := w
    by_cases hw : other = uri
    · subst hw
      have hnext := ih (h.answer hbefore reply) hbefore
      rw [List.append_assoc] at hnext
      rw [List.filter_cons_of_pos (by simp), List.filter_cons_of_neg (by simp)]
      exact hnext
    · rw [List.append_cons] at h
      have hnext := ih h (fun w hmem => ?_)
      · simpa [hw] using hnext
      · rcases List.mem_append.mp hmem with hold | hnew
        · exact hbefore w hold
        · rwa [List.mem_singleton.mp hnew]

/-! Steps and runs -/

private theorem rests_call {x : Session} {log : List Effect} (h : Rests x log) (c : Call) :
    Rests (x.step (.call c)).1 (log ++ (x.step (.call c)).2.2) := by
  have hnext := h.coherent.call c
  rcases Server.requested_or_published_call x.server c with hnone | hquiet
  · simp only [step, attend_of_no_request x.client (x.server.call c).1 hnone]
    rw [hnone, List.append_nil] at hnext
    exact ⟨hnext, h.stalled⟩
  · exact rests_attend hquiet h.stalled ((Server.coherent_append_iff hquiet).mp hnext)

theorem rests_step {x : Session} {log : List Effect} (h : Rests x log) (i : Step) :
    Rests (x.step i).1 (log ++ (x.step i).2.2) := by
  cases i with
  | configure uri reply =>
    rw [step, List.append_nil]
    cases uri with
    | none => exact ⟨h.coherent, h.stalled⟩
    | some uri => exact ⟨h.coherent, h.stalled⟩
  | stall uri =>
    rw [step, List.append_nil]
    exact ⟨h.coherent, fun w hw => List.mem_cons_of_mem uri (h.stalled w hw)⟩
  | release uri =>
    have hheld : Coherent x.server ([] ++ x.client.held) [] log := h.coherent
    have hnone : ∀ w ∈ ([] : List (Nat × Uri)), w.2 ≠ uri := fun w hw =>
      absurd hw List.not_mem_nil
    have hnext := coherent_deliver hheld hnone (x.client.reply uri)
    refine ⟨hnext, fun w hw => ?_⟩
    obtain ⟨hw, hne⟩ := List.mem_filter.mp hw
    exact List.mem_filter.mpr ⟨h.stalled w hw, hne⟩
  | call c => exact rests_call h c
  | idle =>
    rw [step, List.append_nil]
    exact h

private theorem rests_run {x : Session} {log : List Effect} (h : Rests x log) (steps : List Step) :
    Rests (x.run steps).1 (log ++ (x.run steps).2) := by
  induction steps generalizing x log with
  | nil =>
    rw [run, List.append_nil]
    exact h
  | cons i rest ih =>
    have hnext := ih (rests_step h i)
    rw [List.append_assoc] at hnext
    exact hnext

theorem rests_negotiate (catalog : Catalog) (fallback : Reply) (replies : List (Uri × Reply))
    (stalled : List Uri) (capabilities : ClientCapabilities) :
    Rests ((⟨{ fallback, replies, stalled }, { catalog }⟩ : Session).step
      (.call (.negotiate capabilities))).1 [] := by
  refine ⟨⟨rfl, rfl, ?_, fun uri _ d settings hfind => (nomatch hfind)⟩, fun w hw => (nomatch hw)⟩
  refine ⟨List.Pairwise.nil, fun w hw => (nomatch hw), fun h => absurd rfl h,
    fun p hp => (nomatch hp), fun uri request he => (nomatch he), fun w hw => (nomatch hw)⟩

/-- The published diagnostics converge, in every run that starts with a negotiation: when a document
is open and its settings are in force, no pass waits for it, something was published for it, and the
last of that is what its text and its settings give. -/
theorem last_published_of_inForce (catalog : Catalog) (fallback : Reply)
    (replies : List (Uri × Reply)) (stalled : List Uri) (capabilities : ClientCapabilities)
    (steps : List Step) {x : Session} {log : List Effect}
    (hrun : run ⟨{ fallback, replies, stalled }, { catalog }⟩
      (.call (.negotiate capabilities) :: steps) = (x, log))
    {uri : Uri} {d : Document} {settings : Settings} (hopen : x.server.find? uri = some d)
    (hforce : x.server.cache.InForce uri settings) :
    (∀ p ∈ x.server.passes, p.uri ≠ uri) ∧
      (published uri log).getLast? =
        some (d.validate settings x.server.flags.relatedInformation) := by
  obtain ⟨rfl, rfl⟩ := Prod.ext_iff.mp hrun
  have hrests := rests_run (rests_negotiate catalog fallback replies stalled capabilities) steps
  have hnone := hrests.coherent.awaits.uri_ne_of_inForce hforce
  refine ⟨fun p hp => hnone _ (hrests.coherent.awaits.waiting p hp), ?_⟩
  exact hrests.coherent.agrees uri List.not_mem_nil d settings hopen hforce

/-- Steps in which three requests for a document are held back at once. -/
def overlap (uri : Uri) : List Step :=
  [.stall uri, .call (.opened uri ['A', 'B'] 1), .call (.configured .null),
    .configure (some uri) (.values []), .call (.closed uri),
    .call (.opened uri ['C', 'D', '\n', 'x'] 1),
    .call (.changed uri [.replace ⟨⟨1, 0⟩, ⟨1, 1⟩⟩ ['E', 'F']] 2),
    .configure (some uri) (.values [.null]), .release uri]

theorem last_published_after_overlap :
    ∃ x log, run ⟨{}, { catalog := ⟨[]⟩ }⟩
        (.call (.negotiate { workspace := some { configuration := some true } }) ::
          overlap ⟨"file:///note"⟩) = (x, log) ∧
      x.server.find? ⟨"file:///note"⟩ =
        some ⟨⟨"file:///note"⟩, ['C', 'D', '\n', 'E', 'F'], 2⟩ ∧
      x.server.cache.InForce ⟨"file:///note"⟩ .standard ∧
      (published ⟨"file:///note"⟩ log).getLast? =
        some (Document.validate ⟨⟨"file:///note"⟩, ['C', 'D', '\n', 'E', 'F'], 2⟩ .standard
          false) := by
  refine ⟨_, _, rfl, rfl, ?_, ?_⟩
  · exact .inr ⟨rfl, 2, rfl, rfl⟩
  · exact (last_published_of_inForce ⟨[]⟩ (.values [.null]) [] []
      { workspace := some { configuration := some true } } (overlap ⟨"file:///note"⟩) rfl rfl
      (.inr ⟨rfl, 2, rfl, rfl⟩)).2

end ClassPad.Session
