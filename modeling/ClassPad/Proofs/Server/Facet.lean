import ClassPad.Proofs.Server.Agreement
import ClassPad.Proofs.Session.Marked

/-!
A server seen from one document. What a call or an answer makes of the facet of a document, and what
it does that concerns the document, can be told from the facet alone: other documents, their
entries and their requests do not come into it.
-/

set_option autoImplicit false
set_option relaxedAutoImplicit false

namespace ClassPad

/-- How far the settings of a document have come: there is no entry, or it has an outcome or waits
for one. -/
def SettingsCache.status (c : SettingsCache) (uri : Uri) : Option (Option Outcome) :=
  (c.entries.lookup uri).map fun request => c.outcomes[request]?.join

namespace Server

/-- What a server holds of one document, and what it holds for all. -/
structure Facet where
  negotiated : Option Flags
  fixed : Option Scope
  shared : Settings
  document : Option Document
  entry : Option (Option Outcome)
  waiting : Nat

def facet (s : Server) (uri : Uri) : Facet where
  negotiated := s.negotiated
  fixed := s.cache.fixed
  shared := s.cache.shared
  document := s.find? uri
  entry := s.cache.status uri
  waiting := s.passes.countP fun p => p.uri = uri

namespace Facet

def scope (f : Facet) : Scope := f.fixed.getD .global

def conclude (f : Facet) (uri : Uri) : Outcome → List Effect
  | .error e => [.log .warning ("Skipping validation of " ++ uri.text ++ ": " ++ e.message)]
  | .ok settings =>
    match f.document with
    | none => []
    | some d => [.publish uri (d.validate settings (f.negotiated.getD {}).relatedInformation)]

def start (f : Facet) (uri : Uri) : Facet × List Effect :=
  match f.scope, f.entry with
  | .global, _ => (f, f.conclude uri (.ok f.shared))
  | .perResource, some (some outcome) => (f, f.conclude uri outcome)
  | .perResource, some none => ({ f with waiting := f.waiting + 1 }, [])
  | .perResource, none =>
    ({ f with entry := some none, waiting := f.waiting + 1 }, [.request 0 uri])

def prepare (f : Facet) (uri : Uri) : Call → Facet
  | .negotiate capabilities =>
    let kept := f.negotiated.getD (Flags.ofClient capabilities)
    { f with
      negotiated := some kept
      fixed := some (f.fixed.getD (if kept.configuration then .perResource else .global)) }
  | .opened other text version =>
    if other = uri then { f with document := some ⟨uri, text, version⟩ } else f
  | .changed other edits version =>
    if other = uri then { f with document := f.document.map fun d => d.applyEdits edits version }
    else f
  | .closed other => if other = uri then { f with document := none, entry := none } else f
  | .configured payload =>
    match f.scope with
    | .perResource => { f with entry := none }
    | .global => { f with shared := Settings.ofChangeNotification payload }
  | _ => f

def starts (f : Facet) (uri : Uri) : Call → Bool
  | .opened other _ _ => other = uri
  | .changed other _ _ => other = uri && f.document.isSome
  | .configured _ => f.document.isSome
  | _ => false

def call (f : Facet) (uri : Uri) (c : Call) : Facet × List Effect :=
  if f.starts uri c then (f.prepare uri c).start uri else (f.prepare uri c, [])

/-- Takes an outcome for all that waits for one. -/
def settle (f : Facet) (uri : Uri) (o : Outcome) : Facet × List Effect :=
  ({ f with entry := f.entry.map fun known => some (known.getD o), waiting := 0 },
    (List.replicate f.waiting (f.conclude uri o)).flatten)

/-- From one facet to another some passes have ended with an outcome, and an entry that waited may
have taken it. -/
def Progress (f : Facet) (uri : Uri) (o : Outcome) (g : Facet) (done : List Effect) : Prop :=
  ∃ entry ended, (entry = f.entry ∨ f.entry = some none ∧ entry = some (some o)) ∧
    ended ≤ f.waiting ∧ g = { f with entry := entry, waiting := f.waiting - ended } ∧
    done = (List.replicate ended (f.conclude uri o)).flatten

theorem Progress.refl (f : Facet) (uri : Uri) (o : Outcome) : Progress f uri o f [] :=
  ⟨f.entry, 0, .inl rfl, Nat.zero_le _, rfl, rfl⟩

theorem Progress.trans {f g k : Facet} {uri : Uri} {o : Outcome} {first second : List Effect}
    (hfirst : Progress f uri o g first) (hsecond : Progress g uri o k second) :
    Progress f uri o k (first ++ second) := by
  obtain ⟨e, m, he, hm, rfl, rfl⟩ := hfirst
  obtain ⟨e', n, he', hn, rfl, rfl⟩ := hsecond
  have hentry : e' = f.entry ∨ f.entry = some none ∧ e' = some (some o) := by
    rcases he' with rfl | ⟨hnone, rfl⟩
    · exact he
    · rcases he with rfl | ⟨hf, -⟩
      · exact .inr ⟨hnone, rfl⟩
      · exact .inr ⟨hf, rfl⟩
  have hbound : m + n ≤ f.waiting := by
    simp only at hn
    omega
  refine ⟨e', m + n, hentry, hbound, ?_, ?_⟩
  · simp only [Nat.sub_sub]
  · rw [List.replicate_add, List.flatten_append]
    rfl

/-- When nothing waits any more, everything that waited has taken the outcome. -/
theorem Progress.eq_settle {f g : Facet} {uri : Uri} {o : Outcome} {done : List Effect}
    (h : Progress f uri o g done) (hwaiting : g.waiting = 0) (hentry : g.entry ≠ some none) :
    (g, done) = f.settle uri o := by
  obtain ⟨e, m, he, hm, rfl, rfl⟩ := h
  have hall : m = f.waiting := by
    simp only at hwaiting
    omega
  have hknown : e = f.entry.map fun known => some (known.getD o) := by
    rcases he with rfl | ⟨hnone, rfl⟩
    · cases hf : f.entry with
      | none => rfl
      | some known =>
        cases known with
        | none => exact absurd hf hentry
        | some o' => rfl
    · rw [hnone]
      rfl
  rw [settle, hall, ← hknown, Nat.sub_self]

end Facet

/-! Passes -/

section Start

variable {s : Server} {uri v : Uri}

private theorem conclude_facet (s : Server) (uri : Uri) (o : Outcome) :
    (s.facet uri).conclude uri o = s.conclude uri o := by
  cases o <;> rfl

private theorem status_send_of_ne (c : SettingsCache) (h : v ≠ uri) :
    (c.send uri).status v = c.status v := by
  have hjoin : ∀ request : Nat, (c.outcomes ++ [none])[request]?.join =
      c.outcomes[request]?.join := by
    intro request
    rw [List.getElem?_append]
    split_ifs with hlt
    · rfl
    · rw [List.getElem?_eq_none (Nat.le_of_not_lt hlt)]
      cases request - c.outcomes.length <;> rfl
  rw [SettingsCache.status, SettingsCache.lookup_entries_send, if_neg h, SettingsCache.status]
  simp only [SettingsCache.send, hjoin]

private theorem status_send_self (c : SettingsCache) : (c.send uri).status uri = some none := by
  rw [SettingsCache.status, SettingsCache.lookup_entries_send, if_pos rfl]
  simp [SettingsCache.send]

private theorem countP_append_of_ne (passes : List Pass) {more : List Pass}
    (h : ∀ p ∈ more, p.uri ≠ v) :
    (passes ++ more).countP (fun p => p.uri = v) = passes.countP fun p => p.uri = v := by
  have hnone : more.countP (fun p => p.uri = v) = 0 := by
    rw [List.countP_eq_zero]
    intro p hp
    simpa using h p hp
  rw [List.countP_append, hnone, Nat.add_zero]

private theorem facet_startPass_of_ne (h : v ≠ uri) : (s.startPass uri).1.facet v = s.facet v := by
  cases hfind : s.find? uri with
  | none => rw [startPass_of_not_open hfind]
  | some d =>
    have hopen : (s.find? uri).isSome := by simp [hfind]
    by_cases hknown : s.cache.Known uri
    · have hnew : ∀ p ∈ (s.cache.joined uri).request?.toList.map
          (fun r => (⟨uri, r, s.calls⟩ : Pass)), p.uri ≠ v :=
        List.forall_mem_map.mpr fun _ _ => Ne.symm h
      rw [startPass_of_known hopen hknown, facet, facet, countP_append_of_ne s.passes hnew]
      rfl
    · have hnew : ∀ p ∈ [(⟨uri, s.cache.outcomes.length, s.calls⟩ : Pass)], p.uri ≠ v :=
        List.forall_mem_singleton.mpr (Ne.symm h)
      rw [startPass_of_not_known hopen hknown, facet, facet, countP_append_of_ne s.passes hnew,
        status_send_of_ne s.cache h]
      rfl

private theorem facet_startPass_self (hopen : (s.find? uri).isSome) :
    ((s.startPass uri).1.facet uri, (s.startPass uri).2.map Effect.unnumbered) =
      (s.facet uri).start uri := by
  have hscope : (s.facet uri).scope = s.cache.scope := rfl
  by_cases hknown : s.cache.Known uri
  · rw [startPass_of_known hopen hknown]
    cases hglobal : s.cache.scope with
    | global =>
      rw [SettingsCache.joined_of_global hglobal]
      simp only [Facet.start, hscope, hglobal, conclude_facet, Lookup.request?, Lookup.outcome?]
      simp [map_unnumbered_conclude, facet, find?]
    | perResource =>
      rcases hknown with h | ⟨request, he⟩
      · simp [hglobal] at h
      rw [SettingsCache.joined_of_entry hglobal he]
      have hentry : (s.facet uri).entry = some (s.cache.outcomes[request]?.join) := by
        simp only [facet, SettingsCache.status, he, Option.map_some]
      simp only [Facet.start, hscope, hglobal, hentry]
      -- an entry that has no outcome waits, whether its request is known or not
      cases ho : s.cache.outcomes[request]?.join with
      | some o =>
        have ho' : s.cache.outcomes[request]? = some (some o) := Option.join_eq_some_iff.mp ho
        rw [SettingsCache.track_of_answered ho']
        simp only [Lookup.request?, Lookup.outcome?, Option.toList_none, Option.toList_some,
          List.map_nil, List.append_nil, List.flatMap_singleton, map_unnumbered_conclude]
        rw [conclude_facet]
      | none =>
        have htrack : s.cache.track request = .waiting request := by
          unfold SettingsCache.track
          split
          · rename_i o ho'
            simp [ho'] at ho
          · rfl
        have hwaits : s.cache.status uri = some none := hentry.trans (congrArg some ho)
        rw [htrack]
        simp [Lookup.request?, Lookup.outcome?, facet, find?, List.countP_append, hwaits]
  · obtain ⟨hasked, he⟩ := SettingsCache.not_known_iff.mp hknown
    have hentry : (s.facet uri).entry = none := by
      simp only [facet, SettingsCache.status, he, Option.map_none]
    rw [startPass_of_not_known hopen hknown]
    simp only [Facet.start, hscope, hasked, hentry]
    have hkept : (s.cache.send uri).fixed = s.cache.fixed ∧
        (s.cache.send uri).shared = s.cache.shared := ⟨rfl, rfl⟩
    simp [facet, find?, status_send_self, List.countP_append, Effect.unnumbered, hkept]

/-- Among passes for several documents, the one for the document at hand is the only one that
matters to its facet. -/
theorem facet_startPasses {uris : List Uri} (hnodup : uris.Nodup)
    (hopen : ∀ uri ∈ uris, (s.find? uri).isSome) :
    ((s.startPasses uris).1.facet v, about v (s.markedPasses uris)) =
      if v ∈ uris then (s.facet v).start v else (s.facet v, []) := by
  induction uris generalizing s with
  | nil => rfl
  | cons uri rest ih =>
    obtain ⟨hnot, hnodup⟩ := List.nodup_cons.mp hnodup
    have hrest : ∀ other ∈ rest, ((s.startPass uri).1.find? other).isSome := fun other hmem => by
      rw [find?_startPass]
      exact hopen other (List.mem_cons_of_mem uri hmem)
    have hnext := ih hnodup hrest
    obtain ⟨hstate, hdone⟩ := Prod.ext_iff.mp hnext
    simp only at hstate hdone
    rw [startPasses_cons, markedPasses, about_append]
    simp only [hstate, hdone]
    by_cases hv : v = uri
    · subst hv
      rw [if_neg hnot, if_pos List.mem_cons_self, about_map_self, List.append_nil]
      exact facet_startPass_self (hopen v List.mem_cons_self)
    · rw [facet_startPass_of_ne hv, about_map_of_ne (by simpa using Ne.symm hv), List.nil_append]
      simp only [List.mem_cons, hv, false_or]

end Start

/-! Calls -/

section Call

variable {s : Server} {v : Uri}

private theorem facet_prepare (s : Server) (v : Uri) (c : Call) :
    (s.prepare c).facet v = (s.facet v).prepare v c := by
  rw [facet, find?_prepare]
  cases c with
  | opened uri text version =>
    simp only [prepare, Facet.prepare, facet, Call.revise]
    split_ifs <;> rfl
  | changed uri edits version =>
    simp only [prepare, Facet.prepare, facet, Call.revise]
    cases s.find? uri <;> split_ifs <;> rfl
  | closed uri =>
    simp only [prepare, Facet.prepare, facet, Call.revise, SettingsCache.status,
      SettingsCache.forget, SettingsCache.lookup_filter_ne, eq_comm (a := v)]
    split_ifs <;> rfl
  | configured payload =>
    have hscope : (s.facet v).scope = s.cache.scope := rfl
    simp only [prepare, Facet.prepare, hscope]
    cases s.cache.scope <;> rfl
  | _ => rfl

private theorem mem_starts_iff_facet (s : Server) (v : Uri) (c : Call) :
    v ∈ s.starts c ↔ (s.facet v).starts v c = true := by
  cases c with
  | opened uri text version => simp [starts, Facet.starts, eq_comm]
  | changed uri edits version =>
    simp only [starts, Facet.starts, facet]
    by_cases h : uri = v
    · subst h
      split_ifs with hopen <;> simp [hopen]
    · have hne : v ≠ uri := Ne.symm h
      split_ifs <;> simp [h, hne]
  | configured payload => exact isSome_find?_iff.symm
  | _ => simp [starts, Facet.starts]

/-- A call is a call on each facet. -/
theorem facet_call (h : s.openUris.Nodup) (v : Uri) (c : Call) :
    ((s.call c).1.facet v, about v (s.markedCall c)) = (s.facet v).call v c := by
  have hpasses := facet_startPasses (v := v) (nodup_starts h c)
    fun uri hmem => isSome_find?_of_mem_starts hmem
  rw [call_eq, markedCall, about_append, about_map_of_ne (by simp), List.nil_append, Facet.call,
    ← facet_prepare]
  simp only [← mem_starts_iff_facet]
  exact hpasses

end Call

/-! Answers -/

section Answer

variable {s : Server} {before after : List (Nat × Uri)} {request : Nat} {uri v : Uri}

private theorem status_answer_of_ne {c : SettingsCache} (h : c.entries.lookup v ≠ some request)
    (reply : Reply) : (c.answer request reply).status v = c.status v := by
  rw [SettingsCache.status, SettingsCache.status, SettingsCache.entries_answer]
  cases he : c.entries.lookup v with
  | none => rfl
  | some r =>
    have hr : r ≠ request := fun heq => h (heq ▸ he)
    rw [Option.map_some, Option.map_some, SettingsCache.outcomes_answer,
      if_neg fun hboth => hr hboth.1]

private theorem status_answer_self {c : SettingsCache} (he : c.entries.lookup uri = some request)
    (ho : c.outcomes[request]? = some none) (reply : Reply) :
    c.status uri = some none ∧ (c.answer request reply).status uri = some (some reply.outcome) := by
  rw [SettingsCache.status, SettingsCache.status, SettingsCache.entries_answer, he,
    Option.map_some, Option.map_some, SettingsCache.outcomes_answer, if_pos ⟨rfl, ho⟩, ho]
  exact ⟨rfl, rfl⟩

private theorem about_conclude_of_ne {passes : List Pass} (h : ∀ p ∈ passes, p.uri ≠ v)
    (o : Outcome) :
    about v (passes.flatMap fun p => (s.conclude p.uri o).map (some p.uri, ·)) = [] := by
  induction passes with
  | nil => rfl
  | cons p rest ih =>
    have hp : some p.uri ≠ some v := by simpa using h p List.mem_cons_self
    rw [List.flatMap_cons, about_append, about_map_of_ne hp,
      ih fun q hq => h q (List.mem_cons_of_mem p hq), List.append_nil]

private theorem about_conclude_self {passes : List Pass} (h : ∀ p ∈ passes, p.uri = v)
    (o : Outcome) : about v (passes.flatMap fun p => (s.conclude p.uri o).map (some p.uri, ·)) =
      (List.replicate passes.length (s.conclude v o)).flatten := by
  induction passes with
  | nil => rfl
  | cons p rest ih =>
    rw [List.flatMap_cons, about_append, h p List.mem_cons_self, about_map_self,
      map_unnumbered_conclude, ih fun q hq => h q (List.mem_cons_of_mem p hq), List.length_cons,
      List.replicate_succ, List.flatten_cons]

theorem facet_answer_of_ne (h : Awaits s.cache s.passes (before ++ (request, uri) :: after))
    (hne : v ≠ uri) (reply : Reply) :
    (s.markedAnswer request reply).1.facet v = s.facet v ∧
      about v (s.markedAnswer request reply).2 = [] := by
  have hends : ∀ p ∈ s.passes.filter (fun p => p.request = request), p.uri ≠ v := fun p hp =>
    uri_eq_of_awaits h p hp ▸ Ne.symm hne
  have hentry : s.cache.entries.lookup v ≠ some request := fun he => hne (h.uri_eq_of_serving he)
  have hcount : (s.passes.filter fun p => !decide (p.request = request)).countP
      (fun p => p.uri = v) = s.passes.countP fun p => p.uri = v := by
    rw [List.countP_filter]
    refine List.countP_congr fun p hp => ?_
    by_cases hr : p.request = request
    · have := hends p (List.mem_filter.mpr ⟨hp, by simpa using hr⟩)
      simp [hr, this]
    · simp [hr]
  refine ⟨?_, about_conclude_of_ne hends reply.outcome⟩
  rw [markedAnswer, answer_eq]
  simp only [facet, find?, hcount, status_answer_of_ne hentry, SettingsCache.fixed_answer,
    SettingsCache.shared_answer]

/-- An answer for a document ends passes of it, and its entry may take the outcome. -/
theorem progress_answer (h : Awaits s.cache s.passes (before ++ (request, uri) :: after))
    (reply : Reply) :
    (s.facet uri).Progress uri reply.outcome ((s.markedAnswer request reply).1.facet uri)
      (about uri (s.markedAnswer request reply).2) := by
  have hmem : (request, uri) ∈ before ++ (request, uri) :: after := by simp
  have hends := uri_eq_of_awaits h
  have hsplit := List.countP_eq_countP_filter_add s.passes (fun p => p.uri = uri)
    fun p => p.request = request
  have hall : (s.passes.filter fun p => p.request = request).countP (fun p => p.uri = uri) =
      (s.passes.filter fun p => p.request = request).length := by
    rw [List.countP_eq_length]
    intro p hp
    simpa using hends p hp
  refine ⟨(s.cache.answer request reply).status uri,
    (s.passes.filter fun p => p.request = request).length, ?_, ?_, ?_, ?_⟩
  · by_cases he : s.cache.entries.lookup uri = some request
    · exact .inr (status_answer_self he (h.unanswered _ hmem) reply)
    · exact .inl (status_answer_of_ne he reply)
  · simp only [facet]
    omega
  · rw [markedAnswer, answer_eq]
    simp only [facet, find?, SettingsCache.fixed_answer, SettingsCache.shared_answer,
      Facet.mk.injEq, true_and]
    omega
  · rw [markedAnswer, about_conclude_self hends, conclude_facet]

theorem settled_of_awaits {owed : List (Nat × Uri)} (h : Awaits s.cache s.passes owed)
    (hnone : ∀ w ∈ owed, w.2 ≠ uri) :
    (s.facet uri).waiting = 0 ∧ (s.facet uri).entry ≠ some none := by
  constructor
  · simp only [facet, List.countP_eq_zero]
    intro p hp
    simpa using hnone _ (h.waiting p hp)
  · intro hentry
    obtain ⟨request, he, hjoin⟩ := Option.map_eq_some_iff.mp hentry
    rcases h.serving uri request he with ⟨ho, -⟩ | ⟨o, ho⟩
    · exact hnone _ (h.mem_of_serving he ho) rfl
    · simp [ho] at hjoin

theorem awaits_markedAnswer (h : Awaits s.cache s.passes (before ++ (request, uri) :: after))
    (hfirst : ∀ w ∈ before, w.2 ≠ uri) (reply : Reply) :
    Awaits (s.markedAnswer request reply).1.cache (s.markedAnswer request reply).1.passes
      (before ++ after) := by
  rw [markedAnswer, answer_eq]
  exact h.answer hfirst reply

/-- The answer to the only awaited request of a document settles its facet. -/
theorem facet_answer_of_last (h : Awaits s.cache s.passes (before ++ (request, uri) :: after))
    (hlast : ∀ w ∈ before ++ after, w.2 ≠ uri) (reply : Reply) :
    ((s.markedAnswer request reply).1.facet uri, about uri (s.markedAnswer request reply).2) =
      (s.facet uri).settle uri reply.outcome := by
  have hfirst : ∀ w ∈ before, w.2 ≠ uri := fun w hw => hlast w (List.mem_append_left _ hw)
  obtain ⟨hwaiting, hentry⟩ := settled_of_awaits (awaits_markedAnswer h hfirst reply) hlast
  exact (progress_answer h reply).eq_settle hwaiting hentry

end Answer

end Server

end ClassPad
