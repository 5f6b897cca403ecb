import ClassPad.Proofs.Server.Awaited
import ClassPad.Proofs.Server.Step

/-!
The published diagnostics of a server against its documents and their settings. A document is due
from the moment when its text or its settings change to the start of the pass that follows. For a
document that is open, not due and has its settings, what was last published is what its text and
its settings give. Calls keep this, and so does the answer to the oldest awaited request of a
document.
-/

set_option autoImplicit false
set_option relaxedAutoImplicit false

namespace ClassPad.Server

/-! Published diagnostics -/

def published (uri : Uri) (log : List Effect) : List (List Diagnostic) :=
  log.filterMap fun
    | .publish other diagnostics => if other = uri then some diagnostics else none
    | _ => none

@[simp] theorem published_nil (uri : Uri) : published uri [] = [] := rfl

@[simp] theorem published_append (uri : Uri) (first second : List Effect) :
    published uri (first ++ second) = published uri first ++ published uri second :=
  List.filterMap_append

@[simp] theorem published_requests (uri other : Uri) (numbers : List Nat) :
    published uri (numbers.map fun n => Effect.request n other) = [] := by
  simp [published, List.filterMap_map]

private theorem published_conclude_of_ne (s : Server) {uri other : Uri} (h : other ≠ uri)
    (o : Outcome) : published uri (s.conclude other o) = [] := by
  cases o with
  | error e => rfl
  | ok settings =>
    simp only [conclude]
    cases s.find? other with
    | none => rfl
    | some d => simp [published, h]

private theorem published_conclude_self {s : Server} {uri : Uri} {d : Document}
    (h : s.find? uri = some d) (settings : Settings) :
    published uri (s.conclude uri (.ok settings)) =
      [d.validate settings s.flags.relatedInformation] := by
  simp [conclude, h, published]

private theorem published_flatMap_conclude_of_ne (s : Server) {uri : Uri} {passes : List Pass}
    (h : ∀ p ∈ passes, p.uri ≠ uri) (o : Outcome) :
    published uri (passes.flatMap fun p => s.conclude p.uri o) = [] := by
  induction passes with
  | nil => rfl
  | cons p rest ih =>
    rw [List.flatMap_cons, published_append,
      published_conclude_of_ne s (h p List.mem_cons_self),
      ih fun q hq => h q (List.mem_cons_of_mem p hq), List.append_nil]

private theorem published_flatMap_conclude_self {s : Server} {uri : Uri} {d : Document}
    (hfind : s.find? uri = some d) {passes : List Pass} (h : ∀ p ∈ passes, p.uri = uri)
    (settings : Settings) :
    published uri (passes.flatMap fun p => s.conclude p.uri (.ok settings)) =
      passes.map fun _ => d.validate settings s.flags.relatedInformation := by
  induction passes with
  | nil => rfl
  | cons p rest ih =>
    rw [List.flatMap_cons, published_append, h p List.mem_cons_self,
      published_conclude_self hfind, ih fun q hq => h q (List.mem_cons_of_mem p hq), List.map_cons,
      List.singleton_append]

/-! Agreement -/

/-- What was last published for an open document that is not due is what its text and its settings
give. -/
def Agrees (s : Server) (due : List Uri) (log : List Effect) : Prop :=
  ∀ uri ∉ due, ∀ d settings, s.find? uri = some d → s.cache.InForce uri settings →
    (published uri log).getLast? = some (d.validate settings s.flags.relatedInformation)

/-- A server whose flags are negotiated, with the requests it awaits, the documents that are due and
all that it has done. -/
structure Coherent (s : Server) (owed : List (Nat × Uri)) (due : List Uri) (log : List Effect) :
    Prop where
  negotiated : s.negotiated.isSome
  fixed : s.cache.fixed.isSome
  awaits : Awaits s.cache s.passes owed
  agrees : Agrees s due log

theorem coherent_append_iff {s : Server} {owed : List (Nat × Uri)} {due : List Uri}
    {log more : List Effect} (h : ∀ uri, published uri more = []) :
    Coherent s owed due (log ++ more) ↔ Coherent s owed due log := by
  have hagrees : Agrees s due (log ++ more) ↔ Agrees s due log := by
    simp only [Agrees, published_append, h, List.append_nil]
  constructor
  · intro hc
    exact ⟨hc.negotiated, hc.fixed, hc.awaits, hagrees.mp hc.agrees⟩
  · intro hc
    exact ⟨hc.negotiated, hc.fixed, hc.awaits, hagrees.mpr hc.agrees⟩

section Start

variable {s : Server} {owed : List (Nat × Uri)} {uri : Uri}

private theorem awaits_startPass (hopen : (s.find? uri).isSome) (h : Awaits s.cache s.passes owed) :
    Awaits (s.startPass uri).1.cache (s.startPass uri).1.passes
      (owed ++ requested (s.startPass uri).2) := by
  by_cases hknown : s.cache.Known uri
  · rw [startPass_of_known hopen hknown]
    cases hjoined : s.cache.joined uri with
    | settled o => simpa [Lookup.request?, Lookup.outcome?] using h
    | waiting r =>
      have howed : (r, uri) ∈ owed := h.mem_of_joined hknown hjoined
      have hwait : Awaits s.cache (s.passes ++ [⟨uri, r, s.calls⟩]) owed := h.wait howed
      simpa [Lookup.request?, Lookup.outcome?, requested] using hwait
  · rw [startPass_of_not_known hopen hknown]
    exact h.send uri (SettingsCache.not_known_iff.mp hknown).1 s.calls

private theorem inForce_of_startPass {other : Uri} {settings : Settings}
    (h : (s.startPass uri).1.cache.InForce other settings) : s.cache.InForce other settings := by
  rcases startPass_cases s uri with ⟨hcache, -⟩ | ⟨hcache, -⟩ <;> rw [hcache] at h
  · exact h
  · exact h.of_send

private theorem published_startPass_of_ne {other : Uri} (h : uri ≠ other) :
    published other (s.startPass uri).2 = [] := by
  cases hfind : s.find? uri with
  | none => rw [startPass_of_not_open hfind, published_nil]
  | some d =>
    rw [startPass_of_open (by simp [hfind]), published_append, published_requests, List.nil_append]
    cases (s.cache.joined uri).outcome? with
    | none => rfl
    | some o => simpa using published_conclude_of_ne s h o

private theorem published_startPass_of_inForce {d : Document} {settings : Settings}
    (hfind : s.find? uri = some d) (hforce : s.cache.InForce uri settings) :
    published uri (s.startPass uri).2 = [d.validate settings s.flags.relatedInformation] := by
  rw [startPass_of_known (by simp [hfind]) hforce.known, hforce.joined]
  simpa [Lookup.outcome?] using published_conclude_self hfind settings

private theorem published_startPass_of_not_inForce (h : ∀ settings, ¬s.cache.InForce uri settings)
    (other : Uri) : published other (s.startPass uri).2 = [] := by
  cases hfind : s.find? uri with
  | none => rw [startPass_of_not_open hfind, published_nil]
  | some d =>
    rw [startPass_of_open (by simp [hfind]), published_append, published_requests, List.nil_append]
    cases hjoined : s.cache.joined uri with
    | waiting request => rfl
    | settled o =>
      cases o with
      | error e => rfl
      | ok settings => exact absurd (SettingsCache.inForce_of_joined hjoined) (h settings)

/-- A document is no longer due once its pass is started. -/
theorem agrees_startPass {due : List Uri} {log : List Effect} (h : Agrees s (uri :: due) log) :
    Agrees (s.startPass uri).1 due (log ++ (s.startPass uri).2) := by
  intro other hother d settings hfind hforce
  have hflags : (s.startPass uri).1.flags = s.flags := by
    rw [flags, negotiated_startPass, flags]
  have hbefore : s.cache.InForce other settings := inForce_of_startPass hforce
  rw [find?_startPass] at hfind
  rw [hflags, published_append]
  by_cases heq : other = uri
  · subst heq
    rw [published_startPass_of_inForce hfind hbefore, List.getLast?_append]
    rfl
  · have hnotdue : other ∉ uri :: due := by simp [heq, hother]
    rw [published_startPass_of_ne (Ne.symm heq), List.append_nil]
    exact h other hnotdue d settings hfind hbefore

private theorem Coherent.startPass {due : List Uri} {log : List Effect}
    (hopen : (s.find? uri).isSome) (h : Coherent s owed (uri :: due) log) :
    Coherent (s.startPass uri).1 (owed ++ requested (s.startPass uri).2) due
      (log ++ (s.startPass uri).2) where
  negotiated := by
    rw [negotiated_startPass]
    exact h.negotiated
  fixed := by
    rw [fixed_startPass]
    exact h.fixed
  awaits := awaits_startPass hopen h.awaits
  agrees := agrees_startPass h.agrees

private theorem Coherent.startPasses {uris : List Uri} {s : Server} {owed : List (Nat × Uri)}
    {log : List Effect} (hopen : ∀ uri ∈ uris, (s.find? uri).isSome)
    (h : Coherent s owed uris log) :
    Coherent (s.startPasses uris).1 (owed ++ requested (s.startPasses uris).2) []
      (log ++ (s.startPasses uris).2) := by
  induction uris generalizing s owed log with
  | nil => simpa [startPasses_nil, requested] using h
  | cons uri rest ih =>
    have hrest : ∀ other ∈ rest, ((s.startPass uri).1.find? other).isSome := fun other hmem => by
      rw [find?_startPass]
      exact hopen other (List.mem_cons_of_mem uri hmem)
    have hnext := ih hrest (h.startPass (hopen uri List.mem_cons_self))
    rw [startPasses_cons, requested_append, ← List.append_assoc, ← List.append_assoc]
    exact hnext

end Start

section Prepare

variable {s : Server} {owed : List (Nat × Uri)} {log : List Effect}

private theorem prepare_negotiate (h : Coherent s owed [] log) (capabilities : ClientCapabilities) :
    s.prepare (.negotiate capabilities) = s := by
  obtain ⟨kept, hkept⟩ := Option.isSome_iff_exists.mp h.negotiated
  obtain ⟨scope, hscope⟩ := Option.isSome_iff_exists.mp h.fixed
  rcases s with ⟨catalog, negotiated, ⟨fixed, shared, entries, outcomes⟩, documents, passes, calls⟩
  simp only at hkept hscope
  simp [prepare, SettingsCache.setScope, hkept, hscope]

private theorem awaits_prepare (h : Coherent s owed [] log) (c : Call) :
    Awaits (s.prepare c).cache (s.prepare c).passes owed := by
  cases c with
  | negotiate capabilities =>
    rw [prepare_negotiate h]
    exact h.awaits
  | changed uri edits version =>
    simp only [prepare]
    cases s.find? uri <;> exact h.awaits
  | closed uri => exact h.awaits.forget uri
  | configured payload =>
    simp only [prepare]
    cases s.cache.scope with
    | perResource => exact h.awaits.invalidateAll
    | global => exact h.awaits.setShared _
  | _ => exact h.awaits

private theorem find?_of_find?_prepare {c : Call} {uri : Uri} {d : Document}
    (hstart : uri ∉ s.starts c) (h : (s.prepare c).find? uri = some d) : s.find? uri = some d := by
  cases c with
  | opened other text version =>
    have hne : uri ≠ other := fun heq => hstart (by simp [starts, heq])
    rwa [find?, prepare, find?_store, if_neg hne] at h
  | changed other edits version =>
    cases hother : s.find? other with
    | none => simpa only [prepare, hother] using h
    | some e =>
      have hne : uri ≠ other := fun heq => hstart (by simp [starts, hother, heq])
      have huri : (e.applyEdits edits version).uri = other :=
        (uri_eq_of_find? hother : e.uri = other)
      simp only [prepare, hother] at h
      rwa [find?, find?_store, huri, if_neg hne] at h
  | closed other =>
    rw [find?, prepare, find?_filter_ne] at h
    split_ifs at h
    exact h
  | _ => exact h

private theorem inForce_of_prepare (h : Coherent s owed [] log) {c : Call} {uri : Uri}
    {d : Document}
    {settings : Settings} (hstart : uri ∉ s.starts c) (hfind : (s.prepare c).find? uri = some d)
    (hforce : (s.prepare c).cache.InForce uri settings) : s.cache.InForce uri settings := by
  cases c with
  | negotiate capabilities => rwa [prepare_negotiate h] at hforce
  | changed other edits version =>
    simp only [prepare] at hforce
    cases hother : s.find? other <;> simpa only [hother] using hforce
  | closed other =>
    have hne : uri ≠ other := by
      rintro rfl
      rw [find?, prepare, find?_filter_ne, if_pos rfl] at hfind
      exact absurd hfind (by simp)
    exact (SettingsCache.inForce_forget_of_ne hne).mp hforce
  | configured payload =>
    have hopen : uri ∈ s.openUris := isSome_find?_iff.mp (by
      rw [find?_of_find?_prepare hstart hfind]
      rfl)
    exact absurd hopen hstart
  | _ => exact hforce

private theorem negotiated_prepare (h : Coherent s owed [] log) (c : Call) :
    (s.prepare c).negotiated = s.negotiated := by
  cases c with
  | negotiate capabilities => rw [prepare_negotiate h]
  | changed uri edits version =>
    simp only [prepare]
    cases s.find? uri <;> rfl
  | _ => rfl

private theorem fixed_prepare (h : Coherent s owed [] log) (c : Call) :
    (s.prepare c).cache.fixed = s.cache.fixed := by
  cases c with
  | negotiate capabilities => rw [prepare_negotiate h]
  | changed uri edits version =>
    simp only [prepare]
    cases s.find? uri <;> rfl
  | configured payload =>
    simp only [prepare]
    cases s.cache.scope <;> rfl
  | _ => rfl

/-- The documents whose text or settings a call changes are those that it starts passes for. -/
theorem Coherent.prepare (h : Coherent s owed [] log) (c : Call) :
    Coherent (s.prepare c) owed (s.starts c) log where
  negotiated := by
    rw [negotiated_prepare h]
    exact h.negotiated
  fixed := by
    rw [fixed_prepare h]
    exact h.fixed
  awaits := awaits_prepare h c
  agrees := fun uri hstart d settings hfind hforce => by
    rw [flags, negotiated_prepare h]
    exact h.agrees uri List.not_mem_nil d settings (find?_of_find?_prepare hstart hfind)
      (inForce_of_prepare h hstart hfind hforce)

end Prepare

section Step

variable {s : Server} {owed : List (Nat × Uri)} {log : List Effect}

private theorem published_notices (s : Server) (c : Call) (uri : Uri) :
    published uri (s.notices c) = [] := by
  cases c <;> simp only [notices] <;> try rfl
  split_ifs <;> rfl

theorem Coherent.call (h : Coherent s owed [] log) (c : Call) :
    Coherent (s.call c).1 (owed ++ requested (s.call c).2.2) [] (log ++ (s.call c).2.2) := by
  have hnext := (h.prepare c).startPasses fun uri hmem => isSome_find?_of_mem_starts hmem
  rw [call_eq, requested_append, requested_notices, List.nil_append]
  refine ⟨hnext.negotiated, hnext.fixed, hnext.awaits, fun uri hdue d settings hfind hforce => ?_⟩
  rw [published_append, published_append, published_notices, List.nil_append, ← published_append]
  exact hnext.agrees uri hdue d settings hfind hforce

section Answer

variable {before after : List (Nat × Uri)} {request : Nat} {uri : Uri}

theorem uri_eq_of_awaits (h : Awaits s.cache s.passes (before ++ (request, uri) :: after)) :
    ∀ p ∈ s.passes.filter (fun p => p.request = request), p.uri = uri := by
  intro p hp
  obtain ⟨hp, hr⟩ := List.mem_filter.mp hp
  have hmem : (request, uri) ∈ before ++ (request, uri) :: after := by simp
  exact congrArg Prod.snd (h.eq_of_request (h.waiting p hp) hmem (by simpa using hr))

private theorem agrees_answer (h : Awaits s.cache s.passes (before ++ (request, uri) :: after))
    (hagrees : Agrees s [] log) (reply : Reply) :
    Agrees (s.answer request reply).1 [] (log ++ (s.answer request reply).2) := by
  intro other hdue d settings hfind hforce
  have hmem : (request, uri) ∈ before ++ (request, uri) :: after := by simp
  have hsame := uri_eq_of_awaits h
  rw [answer_eq] at hfind hforce ⊢
  have hstored : s.find? other = some d := hfind
  rw [published_append]
  rcases hforce.of_answer with hold | ⟨he, hnone, hok⟩
  · -- settings that were in force before are those of a document without awaited requests
    have hne : uri ≠ other := h.uri_ne_of_inForce hold _ hmem
    rw [published_flatMap_conclude_of_ne s (fun p hp => hsame p hp ▸ hne), List.append_nil]
    exact hagrees other hdue d settings hstored hold
  · -- the answered request serves the document, and so a pass waited for it
    obtain rfl := h.uri_eq_of_serving he
    obtain ⟨p, hp, -, hr⟩ := h.exists_pass he hnone
    have hends : s.passes.filter (fun p => p.request = request) ≠ [] :=
      List.ne_nil_of_mem (List.mem_filter.mpr ⟨hp, by simpa using hr⟩)
    rw [hok, published_flatMap_conclude_self hstored hsame, List.getLast?_append,
      List.getLast?_map, List.getLast?_eq_some_getLast hends]
    rfl

/-- The oldest awaited request of a document may be answered. -/
theorem Coherent.answer (h : Coherent s (before ++ (request, uri) :: after) [] log)
    (hfirst : ∀ w ∈ before, w.2 ≠ uri) (reply : Reply) :
    Coherent (s.answer request reply).1 (before ++ after) []
      (log ++ (s.answer request reply).2) where
  negotiated := by
    rw [answer_eq]
    exact h.negotiated
  fixed := by
    rw [answer_eq, SettingsCache.fixed_answer]
    exact h.fixed
  awaits := by
    rw [answer_eq]
    exact h.awaits.answer hfirst reply
  agrees := agrees_answer h.awaits h.agrees reply

end Answer

private theorem requested_or_published_startPass (s : Server) (uri : Uri) :
    requested (s.startPass uri).2 = [] ∨ ∀ other, published other (s.startPass uri).2 = [] := by
  by_cases hknown : s.cache.Known uri
  · exact .inl (requested_startPass_of_known hknown)
  · exact .inr (published_startPass_of_not_inForce fun settings hforce => hknown hforce.known)

private theorem requested_startPasses_of_global {s : Server} (h : s.cache.scope = .global)
    (uris : List Uri) : requested (s.startPasses uris).2 = [] := by
  induction uris generalizing s with
  | nil => rfl
  | cons uri rest ih =>
    have hscope : (s.startPass uri).1.cache.scope = .global := by
      rw [SettingsCache.scope, fixed_startPass]
      exact h
    rw [startPasses_cons, requested_append, requested_startPass_of_known (.inl h), ih hscope,
      List.append_nil]

private theorem published_startPasses_of_not_inForce {s : Server}
    (h : ∀ uri settings, ¬s.cache.InForce uri settings) (uris : List Uri) (other : Uri) :
    published other (s.startPasses uris).2 = [] := by
  induction uris generalizing s with
  | nil => rfl
  | cons uri rest ih =>
    have hrest : ∀ v settings, ¬(s.startPass uri).1.cache.InForce v settings :=
      fun v settings hforce => h v settings (inForce_of_startPass hforce)
    rw [startPasses_cons, published_append, published_startPass_of_not_inForce (h uri), ih hrest,
      List.append_nil]

/-- A call sends requests or publishes, and never both. -/
theorem requested_or_published_call (s : Server) (c : Call) :
    requested (s.call c).2.2 = [] ∨ ∀ uri, published uri (s.call c).2.2 = [] := by
  have hpasses : requested ((s.prepare c).startPasses (s.starts c)).2 = [] ∨
      ∀ uri, published uri ((s.prepare c).startPasses (s.starts c)).2 = [] := by
    cases c with
    | opened uri text version =>
      rw [starts, startPasses_singleton]
      exact requested_or_published_startPass _ uri
    | changed uri edits version =>
      simp only [starts]
      split_ifs
      · rw [startPasses_singleton]
        exact requested_or_published_startPass _ uri
      · exact .inl rfl
    | configured payload =>
      cases hscope : s.cache.scope with
      | global =>
        have hnext : (s.prepare (.configured payload)).cache.scope = .global := by
          simp only [prepare, hscope]
          exact hscope
        exact .inl (requested_startPasses_of_global hnext _)
      | perResource =>
        -- all entries are gone, so every pass asks anew
        have hnext : (s.prepare (.configured payload)).cache = s.cache.invalidateAll := by
          simp only [prepare, hscope]
        refine .inr (published_startPasses_of_not_inForce (fun uri settings hforce => ?_) _)
        rw [hnext] at hforce
        exact SettingsCache.not_inForce_invalidateAll hscope hforce
    | _ => exact .inl rfl
  rw [call_eq]
  simpa only [requested_append, published_append, requested_notices, published_notices,
    List.nil_append] using hpasses

end Step

end ClassPad.Server
