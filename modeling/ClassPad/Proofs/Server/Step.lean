import Mathlib.Data.List.Nodup
import ClassPad.Proofs.Settings.Cache
import ClassPad.Session

/-!
What one step does to a server. A call first puts the documents, the flags and the cache in order
and then starts passes, one after the other; an answer ends the passes that joined its request.
Everything else about the server is said in terms of these.
-/

set_option autoImplicit false
set_option relaxedAutoImplicit false

namespace ClassPad

def Lookup.request? : Lookup → Option Nat
  | .settled _ => none
  | .waiting request => some request

def Lookup.outcome? : Lookup → Option Outcome
  | .settled outcome => some outcome
  | .waiting _ => none

theorem Lookup.request?_eq_none_iff {lookup : Lookup} :
    lookup.request? = none ↔ lookup.outcome?.isSome := by
  cases lookup <;> simp [request?, outcome?]

namespace Call

def opens (uri : Uri) : Call → Bool
  | .opened other _ _ => other = uri
  | _ => false

def changes (uri : Uri) : Call → Bool
  | .changed other _ _ => other = uri
  | _ => false

def closes (uri : Uri) : Call → Bool
  | .closed other => other = uri
  | _ => false

def configures : Call → Bool
  | .configured _ => true
  | _ => false

/-- What a call makes of the document with an address, if that is open. -/
def revise (uri : Uri) (d : Option Document) : Call → Option Document
  | .opened other text version => if other = uri then some ⟨uri, text, version⟩ else d
  | .changed other edits version =>
    if other = uri then d.map fun d => d.applyEdits edits version else d
  | .closed other => if other = uri then none else d
  | _ => d

theorem isSome_revise (uri : Uri) (d : Option Document) (c : Call) :
    (c.revise uri d).isSome ↔ c.opens uri = true ∨ d.isSome ∧ c.closes uri = false := by
  cases c with
  | opened other text version =>
    simp only [revise, opens, closes]
    split_ifs with h <;> simp [h]
  | changed other edits version =>
    simp only [revise, opens, closes]
    split_ifs <;> simp
  | closed other =>
    simp only [revise, opens, closes]
    split_ifs with h <;> simp [h]
  | _ => simp [revise, opens, closes]

end Call

namespace Server

/-! The open documents -/

theorem find?_store (d : Document) (documents : List Document) (uri : Uri) :
    (store d documents).find? (fun e => e.uri = uri) =
      if uri = d.uri then some d else documents.find? fun e => e.uri = uri := by
  induction documents with
  | nil =>
    by_cases h : uri = d.uri
    · simp [store, h]
    · simp [store, h, Ne.symm h]
  | cons e rest ih =>
    by_cases he : e.uri = d.uri
    · rw [store, if_pos he]
      by_cases h : uri = d.uri
      · simp [h]
      · have hd : d.uri ≠ uri := Ne.symm h
        simp [h, hd, he]
    · rw [store, if_neg he]
      by_cases h : e.uri = uri
      · have hne : uri ≠ d.uri := fun hd => he (h.trans hd)
        simp [h, hne]
      · rw [List.find?_cons_of_neg (by simpa using h), List.find?_cons_of_neg (by simpa using h),
          ih]

private theorem map_uri_store (d : Document) (documents : List Document) :
    (store d documents).map Document.uri =
      if d.uri ∈ documents.map Document.uri then documents.map Document.uri
      else documents.map Document.uri ++ [d.uri] := by
  induction documents with
  | nil => simp [store]
  | cons e rest ih =>
    by_cases he : e.uri = d.uri
    · simp [store, he]
    · have hne : d.uri ≠ e.uri := Ne.symm he
      rw [store, if_neg he, List.map_cons, ih, List.map_cons]
      simp only [List.mem_cons, hne, false_or]
      split_ifs <;> rfl

private theorem nodup_map_uri_store {d : Document} {documents : List Document}
    (h : (documents.map Document.uri).Nodup) : ((store d documents).map Document.uri).Nodup := by
  rw [map_uri_store]
  split_ifs with hmem
  · exact h
  · rw [← List.concat_eq_append]
    exact h.concat hmem

theorem isSome_find?_iff {s : Server} {uri : Uri} :
    (s.find? uri).isSome ↔ uri ∈ s.openUris := by
  simp only [find?, List.find?_isSome, openUris, List.mem_map, decide_eq_true_eq]

theorem uri_eq_of_find? {s : Server} {uri : Uri} {d : Document} (h : s.find? uri = some d) :
    d.uri = uri := by
  simpa using List.find?_some h

/-! The parts of a call -/

/-- The server with a call's documents, flags and cache, before any pass is started. -/
def prepare (s : Server) : Call → Server
  | .negotiate capabilities =>
    let kept := s.negotiated.getD (Flags.ofClient capabilities)
    { s with
      negotiated := some kept
      cache := s.cache.setScope (if kept.configuration then .perResource else .global) }
  | .opened uri text version => { s with documents := store ⟨uri, text, version⟩ s.documents }
  | .changed uri edits version =>
    match s.find? uri with
    | none => s
    | some d => { s with documents := store (d.applyEdits edits version) s.documents }
  | .closed uri =>
    { s with
      documents := s.documents.filter fun d => d.uri ≠ uri
      cache := s.cache.forget uri }
  | .configured payload =>
    { s with
      cache :=
        match s.cache.scope with
        | .perResource => s.cache.invalidateAll
        | .global => s.cache.setShared (Settings.ofChangeNotification payload) }
  | _ => s

def starts (s : Server) : Call → List Uri
  | .opened uri _ _ => [uri]
  | .changed uri _ _ => if (s.find? uri).isSome then [uri] else []
  | .configured _ => s.openUris
  | _ => []

def notices (s : Server) : Call → List Effect
  | .ready =>
    (if s.flags.configuration then [.register] else []) ++ [.log .info "ClassPad LSP initialized"]
  | .foldersChanged => [.log .log "Workspace folder change event received."]
  | .filesChanged => [.log .log "We received a file change event"]
  | _ => []

theorem startPasses_nil (s : Server) : s.startPasses [] = (s, []) := rfl

theorem startPasses_cons (s : Server) (uri : Uri) (rest : List Uri) :
    s.startPasses (uri :: rest) =
      (((s.startPass uri).1.startPasses rest).1,
        (s.startPass uri).2 ++ ((s.startPass uri).1.startPasses rest).2) := rfl

theorem startPasses_singleton (s : Server) (uri : Uri) :
    s.startPasses [uri] = s.startPass uri := by
  rw [startPasses_cons, startPasses_nil, List.append_nil]

theorem startPasses_invariant {P : Server → Prop}
    (next : ∀ s uri, P s → P (s.startPass uri).1) {s : Server} (h : P s) (uris : List Uri) :
    P (s.startPasses uris).1 := by
  induction uris generalizing s with
  | nil => exact h
  | cons uri rest ih =>
    rw [startPasses_cons]
    exact ih (next s uri h)

/-- A call is its preparation, its notices and its passes. -/
theorem perform_eq (s : Server) (c : Call) :
    s.perform c =
      (((s.prepare c).startPasses (s.starts c)).1,
        s.notices c ++ ((s.prepare c).startPasses (s.starts c)).2) := by
  cases c with
  | opened uri text version =>
    rw [starts, startPasses_singleton]
    rfl
  | changed uri edits version =>
    cases h : s.find? uri with
    | none => simp [perform, prepare, starts, notices, h, startPasses_nil]
    | some d =>
      simp only [perform, prepare, starts, notices, h, Option.isSome_some, if_true,
        startPasses_singleton, List.nil_append]
  | configured payload => rfl
  | ready => simp [perform, prepare, starts, notices, startPasses_nil]
  | negotiate capabilities => rfl
  | shutdown => rfl
  | closed uri => rfl
  | foldersChanged => rfl
  | filesChanged => rfl
  | complete => rfl
  | resolve item => rfl

theorem call_eq (s : Server) (c : Call) :
    s.call c =
      ({ ((s.prepare c).startPasses (s.starts c)).1 with
          calls := ((s.prepare c).startPasses (s.starts c)).1.calls + 1 },
        ((s.prepare c).startPasses (s.starts c)).1.reply c,
        s.notices c ++ ((s.prepare c).startPasses (s.starts c)).2) := by
  simp only [call, perform_eq]

theorem find?_filter_ne (documents : List Document) (uri other : Uri) :
    (documents.filter fun d => d.uri ≠ uri).find? (fun d => d.uri = other) =
      if other = uri then none else documents.find? fun d => d.uri = other := by
  split_ifs with h
  · subst h
    simp [List.find?_eq_none]
  · induction documents with
    | nil => rfl
    | cons d rest ih =>
      by_cases hd : d.uri = uri
      · have hne : d.uri ≠ other := fun heq => h (heq.symm.trans hd)
        rw [List.filter_cons_of_neg (by simpa using hd), ih,
          List.find?_cons_of_neg (by simpa using hne)]
      · rw [List.filter_cons_of_pos (by simpa using hd), List.find?_cons, List.find?_cons, ih]

/-- A call makes of the open documents what it makes of each of them. -/
theorem find?_prepare (s : Server) (c : Call) (uri : Uri) :
    (s.prepare c).find? uri = c.revise uri (s.find? uri) := by
  cases c with
  | opened other text version =>
    simp only [prepare, find?, find?_store, Call.revise, eq_comm (a := uri)]
    split_ifs with h
    · rw [h]
    · rfl
  | changed other edits version =>
    simp only [prepare, Call.revise]
    cases hfind : s.find? other with
    | none =>
      split_ifs with h
      · rw [← h, hfind, Option.map_none]
      · rfl
    | some d =>
      have huri : (d.applyEdits edits version).uri = other :=
        (uri_eq_of_find? hfind : d.uri = other)
      simp only [find?, find?_store, huri, eq_comm (a := uri)]
      split_ifs with h
      · subst h
        simp only [find?] at hfind
        rw [hfind, Option.map_some]
      · rfl
  | closed other =>
    simp only [prepare, find?, find?_filter_ne, Call.revise, eq_comm (a := uri)]
  | _ => rfl

theorem isSome_find?_prepare (s : Server) (c : Call) (uri : Uri) :
    ((s.prepare c).find? uri).isSome ↔
      c.opens uri = true ∨ (s.find? uri).isSome ∧ c.closes uri = false := by
  rw [find?_prepare, Call.isSome_revise]

theorem nodup_openUris_prepare {s : Server} (h : s.openUris.Nodup) (c : Call) :
    (s.prepare c).openUris.Nodup := by
  cases c with
  | opened uri text version => exact nodup_map_uri_store h
  | changed uri edits version =>
    simp only [prepare]
    cases s.find? uri with
    | none => exact h
    | some d => exact nodup_map_uri_store h
  | closed uri => exact h.sublist (List.filter_sublist.map Document.uri)
  | configured payload => exact h
  | negotiate capabilities => exact h
  | ready => exact h
  | shutdown => exact h
  | foldersChanged => exact h
  | filesChanged => exact h
  | complete => exact h
  | resolve item => exact h

theorem nodup_starts {s : Server} (h : s.openUris.Nodup) (c : Call) : (s.starts c).Nodup := by
  cases c with
  | opened uri text version => exact List.nodup_singleton uri
  | changed uri edits version =>
    simp only [starts]
    split_ifs
    · exact List.nodup_singleton uri
    · exact List.nodup_nil
  | configured payload => exact h
  | _ => exact List.nodup_nil

theorem isSome_find?_of_mem_starts {s : Server} {c : Call} {uri : Uri} (h : uri ∈ s.starts c) :
    ((s.prepare c).find? uri).isSome := by
  rw [isSome_find?_prepare]
  cases c with
  | opened other text version =>
    left
    simpa [starts, Call.opens, eq_comm] using h
  | changed other edits version =>
    right
    simp only [starts] at h
    split_ifs at h with hopen
    · obtain rfl := List.mem_singleton.mp h
      exact ⟨hopen, rfl⟩
    · simp at h
  | configured payload =>
    right
    exact ⟨isSome_find?_iff.mpr h, rfl⟩
  | _ => simp [starts] at h

/-! Passes -/

/-- Whether an effect is what a pass ends with: diagnostics, or a warning that there are none. -/
def isVerdict : Effect → Bool
  | .publish _ _ => true
  | .log .warning _ => true
  | _ => false

def verdicts (effects : List Effect) : List Effect := effects.filter isVerdict

theorem verdicts_append (first second : List Effect) :
    verdicts (first ++ second) = verdicts first ++ verdicts second :=
  List.filter_append first second

private theorem verdicts_requests (numbers : List Nat) (uri : Uri) :
    verdicts (numbers.map fun n => Effect.request n uri) = [] := by
  simp [verdicts, isVerdict, List.filter_eq_nil_iff]

theorem verdicts_notices (s : Server) (c : Call) : verdicts (s.notices c) = [] := by
  cases c <;> simp only [notices, verdicts, List.filter_nil]
  · split_ifs <;> rfl
  · rfl
  · rfl

theorem conclude_congr {s t : Server} (hdocs : t.documents = s.documents)
    (hflags : t.negotiated = s.negotiated) (uri : Uri) (o : Outcome) :
    t.conclude uri o = s.conclude uri o := by
  cases o with
  | error e => rfl
  | ok settings => simp only [conclude, find?, flags, hdocs, hflags]

theorem verdicts_conclude (s : Server) (uri : Uri) (o : Outcome) :
    verdicts (s.conclude uri o) = s.conclude uri o := by
  cases o with
  | error e => rfl
  | ok settings =>
    simp only [conclude]
    cases s.find? uri <;> rfl

theorem exists_of_publish {s : Server} {uri other : Uri} {o : Outcome}
    {diagnostics : List Diagnostic} (h : Effect.publish uri diagnostics ∈ s.conclude other o) :
    uri = other ∧ ∃ d settings, o = .ok settings ∧ s.find? uri = some d ∧
      diagnostics = d.validate settings s.flags.relatedInformation := by
  cases o with
  | error e => simp [conclude] at h
  | ok settings =>
    simp only [conclude] at h
    cases hfind : s.find? other with
    | none => simp [hfind] at h
    | some d =>
      simp only [hfind, List.mem_singleton, Effect.publish.injEq] at h
      obtain ⟨rfl, rfl⟩ := h
      exact ⟨rfl, d, settings, rfl, hfind, rfl⟩

/-- A pass that is started looks up its settings; it ends at once or waits. -/
theorem startPass_of_open {s : Server} {uri : Uri} (h : (s.find? uri).isSome) :
    s.startPass uri =
      ({ s with
          cache := (s.cache.get uri).1
          passes := s.passes ++
            (s.cache.joined uri).request?.toList.map fun r => ⟨uri, r, s.calls⟩ },
        ((s.cache.get uri).2.2.toList.map fun n => Effect.request n uri) ++
          (s.cache.joined uri).outcome?.toList.flatMap (s.conclude uri)) := by
  obtain ⟨d, hd⟩ := Option.isSome_iff_exists.mp h
  unfold startPass SettingsCache.joined
  rw [hd]
  rcases hget : s.cache.get uri with ⟨cache, lookup, sent⟩
  cases lookup with
  | settled o => simp [Lookup.request?, Lookup.outcome?]
  | waiting r => simp [Lookup.request?, Lookup.outcome?]

theorem startPass_of_known {s : Server} {uri : Uri} (hopen : (s.find? uri).isSome)
    (h : s.cache.Known uri) :
    s.startPass uri =
      ({ s with
          passes := s.passes ++
            (s.cache.joined uri).request?.toList.map fun r => ⟨uri, r, s.calls⟩ },
        (s.cache.joined uri).outcome?.toList.flatMap (s.conclude uri)) := by
  rw [startPass_of_open hopen, SettingsCache.get_of_known h]
  rfl

theorem startPass_of_not_known {s : Server} {uri : Uri} (hopen : (s.find? uri).isSome)
    (h : ¬s.cache.Known uri) :
    s.startPass uri =
      ({ s with
          cache := s.cache.send uri
          passes := s.passes ++ [⟨uri, s.cache.outcomes.length, s.calls⟩] },
        [.request s.cache.outcomes.length uri]) := by
  rw [startPass_of_open hopen, SettingsCache.joined, SettingsCache.get_of_not_known h]
  rfl

theorem startPass_of_not_open {s : Server} {uri : Uri} (h : s.find? uri = none) :
    s.startPass uri = (s, []) := by
  simp only [startPass, h]

@[simp] theorem documents_startPass (s : Server) (uri : Uri) :
    (s.startPass uri).1.documents = s.documents := by
  cases h : s.find? uri with
  | none => rw [startPass_of_not_open h]
  | some d => rw [startPass_of_open (by simp [h])]

@[simp] theorem negotiated_startPass (s : Server) (uri : Uri) :
    (s.startPass uri).1.negotiated = s.negotiated := by
  cases h : s.find? uri with
  | none => rw [startPass_of_not_open h]
  | some d => rw [startPass_of_open (by simp [h])]

@[simp] theorem calls_startPass (s : Server) (uri : Uri) :
    (s.startPass uri).1.calls = s.calls := by
  cases h : s.find? uri with
  | none => rw [startPass_of_not_open h]
  | some d => rw [startPass_of_open (by simp [h])]

theorem find?_startPass (s : Server) (uri other : Uri) :
    (s.startPass uri).1.find? other = s.find? other := by
  rw [find?, documents_startPass, find?]

@[simp] theorem documents_startPasses (s : Server) (uris : List Uri) :
    (s.startPasses uris).1.documents = s.documents :=
  startPasses_invariant (P := fun t => t.documents = s.documents)
    (fun t uri h => (documents_startPass t uri).trans h) rfl uris

@[simp] theorem negotiated_startPasses (s : Server) (uris : List Uri) :
    (s.startPasses uris).1.negotiated = s.negotiated :=
  startPasses_invariant (P := fun t => t.negotiated = s.negotiated)
    (fun t uri h => (negotiated_startPass t uri).trans h) rfl uris

private theorem cache_startPass {s : Server} {uri : Uri} (h : (s.find? uri).isSome) :
    (s.startPass uri).1.cache = (s.cache.get uri).1 := by
  rw [startPass_of_open h]

private theorem joined_startPasses {s : Server} {uris : List Uri} {uri : Uri}
    (h : s.cache.Known uri) : (s.startPasses uris).1.cache.joined uri = s.cache.joined uri := by
  induction uris generalizing s with
  | nil => rfl
  | cons other rest ih =>
    rw [startPasses_cons]
    cases hfind : s.find? other with
    | none =>
      rw [startPass_of_not_open hfind]
      exact ih h
    | some d =>
      have hcache : (s.startPass other).1.cache = (s.cache.get other).1 :=
        cache_startPass (by simp [hfind])
      rw [ih (by rw [hcache]; exact SettingsCache.known_get_of_known h), hcache,
        SettingsCache.joined_get_of_known h]

private theorem joined_startPasses_self {s : Server} {uri : Uri} {rest : List Uri}
    (h : (s.find? uri).isSome) :
    ((s.startPass uri).1.startPasses rest).1.cache.joined uri = s.cache.joined uri := by
  have hknown : (s.startPass uri).1.cache.Known uri := by
    rw [cache_startPass h]
    exact SettingsCache.known_get_self
  rw [joined_startPasses hknown, cache_startPass h, SettingsCache.joined_get_self]

/-- Passes started one after the other wait for what their documents have joined in the end. -/
theorem passes_startPasses {s : Server} {uris : List Uri}
    (h : ∀ uri ∈ uris, (s.find? uri).isSome) :
    (s.startPasses uris).1.passes = s.passes ++ uris.flatMap fun uri =>
      ((s.startPasses uris).1.cache.joined uri).request?.toList.map
        fun r => ⟨uri, r, s.calls⟩ := by
  induction uris generalizing s with
  | nil => simp [startPasses_nil]
  | cons uri rest ih =>
    have hopen := h uri List.mem_cons_self
    have hrest : ∀ other ∈ rest, ((s.startPass uri).1.find? other).isSome := fun other hmem => by
      rw [find?_startPass]
      exact h other (List.mem_cons_of_mem uri hmem)
    rw [startPasses_cons, ih hrest, List.flatMap_cons, joined_startPasses_self hopen,
      calls_startPass, ← List.append_assoc]
    congr 1
    rw [startPass_of_open hopen]

/-- Passes that do not wait end with the outcome that their documents have joined. -/
theorem verdicts_startPasses {s : Server} {uris : List Uri}
    (h : ∀ uri ∈ uris, (s.find? uri).isSome) :
    verdicts (s.startPasses uris).2 = uris.flatMap fun uri =>
      ((s.startPasses uris).1.cache.joined uri).outcome?.toList.flatMap (s.conclude uri) := by
  induction uris generalizing s with
  | nil => rfl
  | cons uri rest ih =>
    have hopen := h uri List.mem_cons_self
    have hrest : ∀ other ∈ rest, ((s.startPass uri).1.find? other).isSome := fun other hmem => by
      rw [find?_startPass]
      exact h other (List.mem_cons_of_mem uri hmem)
    have hfirst : verdicts (s.startPass uri).2 =
        (s.cache.joined uri).outcome?.toList.flatMap (s.conclude uri) := by
      rw [startPass_of_open hopen, verdicts_append, verdicts_requests, List.nil_append]
      cases (s.cache.joined uri).outcome? with
      | none => rfl
      | some o => simp [verdicts_conclude]
    have hconclude : (s.startPass uri).1.conclude = s.conclude := by
      funext other o
      exact conclude_congr (documents_startPass s uri) (negotiated_startPass s uri) other o
    rw [startPasses_cons, verdicts_append, hfirst, ih hrest, List.flatMap_cons,
      joined_startPasses_self hopen, hconclude]

/-! Requests -/

def requested (effects : List Effect) : List (Nat × Uri) := effects.filterMap Session.peer.asked

@[simp] theorem requested_append (first second : List Effect) :
    requested (first ++ second) = requested first ++ requested second :=
  List.filterMap_append

@[simp] theorem requested_conclude (s : Server) (uri : Uri) (o : Outcome) :
    requested (s.conclude uri o) = [] := by
  cases o with
  | error e => rfl
  | ok settings =>
    simp only [conclude]
    cases s.find? uri <;> rfl

theorem requested_notices (s : Server) (c : Call) : requested (s.notices c) = [] := by
  cases c with
  | ready =>
    rw [notices]
    split_ifs <;> rfl
  | _ => rfl

theorem requested_startPass_of_known {s : Server} {uri : Uri} (h : s.cache.Known uri) :
    requested (s.startPass uri).2 = [] := by
  cases hfind : s.find? uri with
  | none =>
    rw [startPass_of_not_open hfind]
    rfl
  | some d =>
    rw [startPass_of_known (by simp [hfind]) h]
    cases (s.cache.joined uri).outcome? with
    | none => rfl
    | some o => simp

/-- A pass that is started sends a request, or it leaves the cache as it is. -/
theorem startPass_cases (s : Server) (uri : Uri) :
    ((s.startPass uri).1.cache = s.cache ∧ requested (s.startPass uri).2 = [] ∧
        ((s.find? uri).isSome → s.cache.Known uri)) ∨
      (s.startPass uri).1.cache = s.cache.send uri ∧
        requested (s.startPass uri).2 = [(s.cache.outcomes.length, uri)] ∧
        ¬s.cache.Known uri := by
  cases hfind : s.find? uri with
  | none =>
    rw [startPass_of_not_open hfind]
    exact .inl ⟨rfl, rfl, fun h => absurd h (by simp)⟩
  | some d =>
    have hopen : (s.find? uri).isSome := by simp [hfind]
    by_cases hknown : s.cache.Known uri
    · refine .inl ⟨?_, requested_startPass_of_known hknown, fun _ => hknown⟩
      rw [startPass_of_known hopen hknown]
    · rw [startPass_of_not_known hopen hknown]
      exact .inr ⟨rfl, rfl, hknown⟩

theorem fixed_startPass (s : Server) (uri : Uri) :
    (s.startPass uri).1.cache.fixed = s.cache.fixed := by
  rcases startPass_cases s uri with ⟨hcache, -⟩ | ⟨hcache, -⟩ <;> rw [hcache]
  rfl

theorem fixed_startPasses (s : Server) (uris : List Uri) :
    (s.startPasses uris).1.cache.fixed = s.cache.fixed :=
  startPasses_invariant (P := fun t => t.cache.fixed = s.cache.fixed)
    (fun t uri h => (fixed_startPass t uri).trans h) rfl uris

theorem shared_startPasses (s : Server) (uris : List Uri) :
    (s.startPasses uris).1.cache.shared = s.cache.shared := by
  refine startPasses_invariant (P := fun t => t.cache.shared = s.cache.shared)
    (fun t uri h => ?_) rfl uris
  rcases startPass_cases t uri with ⟨hcache, -⟩ | ⟨hcache, -⟩ <;> rw [hcache]
  · exact h
  · exact h

theorem entries_startPasses (s : Server) (uris : List Uri) :
    (s.startPasses uris).1.cache.entries =
      ((requested (s.startPasses uris).2).map Prod.swap).reverse ++ s.cache.entries := by
  induction uris generalizing s with
  | nil => rfl
  | cons uri rest ih =>
    rw [startPasses_cons, ih, requested_append]
    rcases startPass_cases s uri with ⟨hcache, hsent, -⟩ | ⟨hcache, hsent, -⟩
    · rw [hcache, hsent, List.nil_append]
    · simp [hcache, hsent, SettingsCache.send]

theorem outcomes_startPasses (s : Server) (uris : List Uri) :
    (s.startPasses uris).1.cache.outcomes =
      s.cache.outcomes ++ (requested (s.startPasses uris).2).map fun _ => none := by
  induction uris generalizing s with
  | nil => simp [startPasses_nil, requested]
  | cons uri rest ih =>
    rw [startPasses_cons, ih, requested_append]
    rcases startPass_cases s uri with ⟨hcache, hsent, -⟩ | ⟨hcache, hsent, -⟩
    · rw [hcache, hsent, List.nil_append]
    · simp [hcache, hsent, SettingsCache.send]

theorem numbers_startPasses (s : Server) (uris : List Uri) :
    List.range s.cache.outcomes.length ++ (requested (s.startPasses uris).2).map Prod.fst =
      List.range (s.startPasses uris).1.cache.outcomes.length := by
  induction uris generalizing s with
  | nil => simp [startPasses_nil, requested]
  | cons uri rest ih =>
    rw [startPasses_cons, ← ih, requested_append]
    rcases startPass_cases s uri with ⟨hcache, hsent, -⟩ | ⟨hcache, hsent, -⟩
    · rw [hcache, hsent, List.nil_append]
    · simp [hcache, hsent, SettingsCache.send, List.range_succ]

theorem unanswered_of_requested {s : Server} {uris : List Uri} {w : Nat × Uri}
    (h : w ∈ requested (s.startPasses uris).2) :
    (s.startPasses uris).1.cache.outcomes[w.1]? = some none := by
  induction uris generalizing s with
  | nil => exact absurd h List.not_mem_nil
  | cons uri rest ih =>
    rw [startPasses_cons, requested_append, List.mem_append] at h
    rw [startPasses_cons]
    rcases h with hfirst | hrest
    · rcases startPass_cases s uri with ⟨-, hsent, -⟩ | ⟨hcache, hsent, -⟩
      · simp [hsent] at hfirst
      · rw [hsent, List.mem_singleton] at hfirst
        simp [outcomes_startPasses, hcache, hfirst, SettingsCache.send]
    · exact ih hrest

/-- Passes of different documents send a request for each document that is not known. -/
theorem uris_requested_startPasses {s : Server} {uris : List Uri} (honce : uris.Nodup)
    (hopen : ∀ uri ∈ uris, (s.find? uri).isSome) :
    (requested (s.startPasses uris).2).map Prod.snd =
      uris.filter fun uri => ¬s.cache.Known uri := by
  induction uris generalizing s with
  | nil => rfl
  | cons uri rest ih =>
    obtain ⟨hnot, hrest⟩ := List.nodup_cons.mp honce
    have hopen' : ∀ other ∈ rest, ((s.startPass uri).1.find? other).isSome := fun other hmem => by
      rw [find?_startPass]
      exact hopen other (List.mem_cons_of_mem uri hmem)
    rw [startPasses_cons, requested_append, List.map_append, ih hrest hopen']
    rcases startPass_cases s uri with ⟨hcache, hsent, hknown⟩ | ⟨hcache, hsent, hknown⟩
    · have hfirst := hknown (hopen uri List.mem_cons_self)
      rw [hcache, hsent, List.filter_cons_of_neg (by simpa using hfirst)]
      rfl
    · have hothers : rest.filter (fun other => ¬(s.cache.send uri).Known other) =
          rest.filter fun other => ¬s.cache.Known other := by
        refine List.filter_congr fun other hmem => decide_eq_decide.mpr ?_
        have hne : other ≠ uri := fun heq => hnot (heq ▸ hmem)
        exact not_congr (SettingsCache.known_send_of_ne hne)
      rw [hcache, hsent, hothers, List.filter_cons_of_pos (by simpa using hknown)]
      rfl

/-! Answers -/

/-- An answer ends the passes that joined its request. -/
theorem answer_eq (s : Server) (request : Nat) (reply : Reply) :
    s.answer request reply =
      ({ s with
          cache := s.cache.answer request reply
          passes := s.passes.filter fun p => !decide (p.request = request) },
        (s.passes.filter fun p => p.request = request).flatMap
          fun p => s.conclude p.uri reply.outcome) := by
  simp only [answer, List.partition_eq_filter_filter]
  rfl

end Server

end ClassPad
