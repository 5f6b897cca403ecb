import Mathlib.Data.List.Nodup
import ClassPad.Proofs.Settings.Cache
import ClassPad.Server

/-!
The requests that a server still awaits. They are answered, document by document, in the order in
which they were sent. So a document with an awaited request is served by one that is not answered
yet, and a pass waits for that one.
-/

set_option autoImplicit false
set_option relaxedAutoImplicit false

namespace ClassPad.Server

/-- How the cache and the passes stand to the requests that are still to be answered, oldest first.
-/
structure Awaits (c : SettingsCache) (passes : List Pass) (owed : List (Nat × Uri)) : Prop where
  ordered : owed.Pairwise fun v w => v.1 < w.1
  unanswered : ∀ w ∈ owed, c.outcomes[w.1]? = some none
  perResource : owed ≠ [] → c.scope = .perResource
  waiting : ∀ p ∈ passes, (p.request, p.uri) ∈ owed
  /-- An unanswered request that serves a document has a pass that waits for it. -/
  serving : ∀ uri request, c.entries.lookup uri = some request →
    c.outcomes[request]? = some none ∧ (∃ p ∈ passes, p.uri = uri ∧ p.request = request) ∨
      ∃ o, c.outcomes[request]? = some (some o)
  /-- No request is awaited for a document behind the one that serves it. -/
  newest : ∀ w ∈ owed, ∀ request, c.entries.lookup w.2 = some request →
    w.1 ≤ request ∧ c.outcomes[request]? = some none

namespace Awaits

variable {c : SettingsCache} {passes : List Pass} {owed : List (Nat × Uri)}

theorem eq_of_request (h : Awaits c passes owed) {v w : Nat × Uri} (hv : v ∈ owed) (hw : w ∈ owed)
    (hvw : v.1 = w.1) : v = w := by
  have hnodup : (owed.map Prod.fst).Nodup :=
    List.pairwise_map.mpr (h.ordered.imp fun hlt => Nat.ne_of_lt hlt)
  exact List.inj_on_of_nodup_map hnodup hv hw hvw

theorem exists_pass (h : Awaits c passes owed) {uri : Uri} {request : Nat}
    (he : c.entries.lookup uri = some request) (ho : c.outcomes[request]? = some none) :
    ∃ p ∈ passes, p.uri = uri ∧ p.request = request := by
  rcases h.serving uri request he with ⟨-, hpass⟩ | ⟨o, ho'⟩
  · exact hpass
  · simp [ho] at ho'

theorem mem_of_serving (h : Awaits c passes owed) {uri : Uri} {request : Nat}
    (he : c.entries.lookup uri = some request) (ho : c.outcomes[request]? = some none) :
    (request, uri) ∈ owed := by
  obtain ⟨p, hp, rfl, rfl⟩ := h.exists_pass he ho
  exact h.waiting p hp

theorem mem_of_joined (h : Awaits c passes owed) {uri : Uri} {request : Nat} (hknown : c.Known uri)
    (hjoined : c.joined uri = .waiting request) : (request, uri) ∈ owed := by
  cases hscope : c.scope with
  | global => simp [SettingsCache.joined_of_global hscope] at hjoined
  | perResource =>
    rcases hknown with hglobal | ⟨r, he⟩
    · simp [hscope] at hglobal
    rw [SettingsCache.joined_of_entry hscope he] at hjoined
    rcases h.serving uri r he with ⟨ho, -⟩ | ⟨o, ho⟩
    · rw [SettingsCache.track_of_unanswered ho] at hjoined
      obtain rfl := Lookup.waiting.inj hjoined
      exact h.mem_of_serving he ho
    · simp [SettingsCache.track_of_answered ho] at hjoined

theorem uri_ne_of_inForce (h : Awaits c passes owed) {uri : Uri} {settings : Settings}
    (hforce : c.InForce uri settings) : ∀ w ∈ owed, w.2 ≠ uri := by
  rintro w howed rfl
  have hscope := h.perResource (List.ne_nil_of_mem howed)
  obtain ⟨request, he, ho⟩ := (SettingsCache.inForce_iff_of_perResource hscope).mp hforce
  have hopen := (h.newest w howed request he).2
  simp [ho] at hopen

theorem setShared (h : Awaits c passes owed) (settings : Settings) :
    Awaits (c.setShared settings) passes owed :=
  ⟨h.ordered, h.unanswered, h.perResource, h.waiting, h.serving, h.newest⟩

theorem invalidateAll (h : Awaits c passes owed) : Awaits c.invalidateAll passes owed :=
  ⟨h.ordered, h.unanswered, h.perResource, h.waiting, fun _ _ he => (nomatch he),
    fun _ _ _ he => (nomatch he)⟩

theorem forget (h : Awaits c passes owed) (uri : Uri) : Awaits (c.forget uri) passes owed := by
  refine ⟨h.ordered, h.unanswered, h.perResource, h.waiting, fun other request he => ?_,
    fun w hw request he => ?_⟩
  · simp only [SettingsCache.forget, SettingsCache.lookup_filter_ne] at he
    split_ifs at he
    exact h.serving other request he
  · simp only [SettingsCache.forget, SettingsCache.lookup_filter_ne] at he
    split_ifs at he
    exact h.newest w hw request he

theorem wait (h : Awaits c passes owed) {p : Pass} (hp : (p.request, p.uri) ∈ owed) :
    Awaits c (passes ++ [p]) owed := by
  refine ⟨h.ordered, h.unanswered, h.perResource, fun q hq => ?_, fun uri request he => ?_,
    h.newest⟩
  · rcases List.mem_append.mp hq with hold | hnew
    · exact h.waiting q hold
    · rwa [List.mem_singleton.mp hnew]
  · rcases h.serving uri request he with ⟨ho, q, hq, hserved⟩ | hdone
    · exact .inl ⟨ho, q, List.mem_append_left _ hq, hserved⟩
    · exact .inr hdone

/-- A request that is sent is awaited behind all others, and it serves its document. -/
theorem send (h : Awaits c passes owed) (uri : Uri) (hscope : c.scope = .perResource) (call : Nat) :
    Awaits (c.send uri) (passes ++ [⟨uri, c.outcomes.length, call⟩])
      (owed ++ [(c.outcomes.length, uri)]) := by
  have hlt : ∀ w ∈ owed, w.1 < c.outcomes.length := fun w hw =>
    (List.getElem?_eq_some_iff.mp (h.unanswered w hw)).1
  have hkept : ∀ {r : Nat} {o : Option Outcome}, c.outcomes[r]? = some o →
      (c.send uri).outcomes[r]? = some o := fun {r o} ho => by
    rw [SettingsCache.send, List.getElem?_append_left (List.getElem?_eq_some_iff.mp ho).1, ho]
  have hnew : (c.send uri).outcomes[c.outcomes.length]? = some none := by
    simp [SettingsCache.send]
  refine ⟨?_, fun w hw => ?_, fun _ => hscope, fun p hp => ?_, fun other request he => ?_,
    fun w hw request he => ?_⟩
  · refine List.pairwise_append.mpr ⟨h.ordered, List.pairwise_singleton .., fun v hv w hw => ?_⟩
    rw [List.mem_singleton.mp hw]
    exact hlt v hv
  · rcases List.mem_append.mp hw with hold | hlast
    · exact hkept (h.unanswered w hold)
    · rwa [List.mem_singleton.mp hlast]
  · rcases List.mem_append.mp hp with hold | hlast
    · exact List.mem_append_left _ (h.waiting p hold)
    · rw [List.mem_singleton.mp hlast]
      exact List.mem_append_right _ (List.mem_singleton_self _)
  · rw [SettingsCache.lookup_entries_send] at he
    split_ifs at he with hother
    · obtain rfl := Option.some.inj he
      exact .inl ⟨hnew, _, List.mem_append_right _ (List.mem_singleton_self _), hother.symm, rfl⟩
    · rcases h.serving other request he with ⟨ho, p, hp, hserved⟩ | ⟨o, ho⟩
      · exact .inl ⟨hkept ho, p, List.mem_append_left _ hp, hserved⟩
      · exact .inr ⟨o, hkept ho⟩
  · rw [SettingsCache.lookup_entries_send] at he
    split_ifs at he with hother
    · obtain rfl := Option.some.inj he
      refine ⟨?_, hnew⟩
      rcases List.mem_append.mp hw with hold | hlast
      · exact Nat.le_of_lt (hlt w hold)
      · exact Nat.le_of_eq (congrArg Prod.fst (List.mem_singleton.mp hlast))
    · rcases List.mem_append.mp hw with hold | hlast
      · exact ⟨(h.newest w hold request he).1, hkept (h.newest w hold request he).2⟩
      · rw [List.mem_singleton.mp hlast] at hother
        exact absurd rfl hother

section Answer

variable {before after : List (Nat × Uri)} {request : Nat} {uri : Uri}

theorem uri_eq_of_serving (h : Awaits c passes (before ++ (request, uri) :: after)) {other : Uri}
    (he : c.entries.lookup other = some request) : other = uri := by
  have hmem : (request, uri) ∈ before ++ (request, uri) :: after := by simp
  have howed := h.mem_of_serving he (h.unanswered _ hmem)
  exact congrArg Prod.snd (h.eq_of_request howed hmem rfl)

private theorem ordered_around (h : Awaits c passes (before ++ (request, uri) :: after)) :
    (∀ w ∈ before, w.1 < request) ∧ ∀ w ∈ after, request < w.1 := by
  obtain ⟨-, hrest, hcross⟩ := List.pairwise_append.mp h.ordered
  exact ⟨fun w hw => hcross w hw _ List.mem_cons_self, (List.pairwise_cons.mp hrest).1⟩

/-- The oldest awaited request of a document may be answered. -/
theorem answer (h : Awaits c passes (before ++ (request, uri) :: after))
    (hfirst : ∀ w ∈ before, w.2 ≠ uri) (reply : Reply) :
    Awaits (c.answer request reply) (passes.filter fun p => !decide (p.request = request))
      (before ++ after) := by
  obtain ⟨hbefore, hafter⟩ := h.ordered_around
  have hmem : (request, uri) ∈ before ++ (request, uri) :: after := by simp
  have hne : ∀ w ∈ before ++ after, w.1 ≠ request := fun w hw => by
    rcases List.mem_append.mp hw with hold | hnew
    · exact Nat.ne_of_lt (hbefore w hold)
    · exact Nat.ne_of_gt (hafter w hnew)
  have howed : ∀ w ∈ before ++ after, w ∈ before ++ (request, uri) :: after := fun w hw => by
    rcases List.mem_append.mp hw with hold | hnew
    · exact List.mem_append_left _ hold
    · exact List.mem_append_right _ (List.mem_cons_of_mem _ hnew)
  have hkept : ∀ r ≠ request, (c.answer request reply).outcomes[r]? = c.outcomes[r]? :=
    fun r hr => by rw [SettingsCache.outcomes_answer, if_neg fun hboth => hr hboth.1]
  have hanswered : (c.answer request reply).outcomes[request]? = some (some reply.outcome) := by
    rw [SettingsCache.outcomes_answer, if_pos ⟨rfl, h.unanswered _ hmem⟩]
  refine ⟨?_, fun w hw => ?_, fun _ => ?_, fun p hp => ?_, fun other r he => ?_,
    fun w hw r he => ?_⟩
  · exact h.ordered.sublist ((List.sublist_cons_self _ after).append_left before)
  · rw [hkept w.1 (hne w hw)]
    exact h.unanswered w (howed w hw)
  · rw [SettingsCache.scope, SettingsCache.fixed_answer]
    exact h.perResource (List.ne_nil_of_mem hmem)
  · obtain ⟨hp, hr⟩ := List.mem_filter.mp hp
    have hr : p.request ≠ request := by simpa using hr
    have := h.waiting p hp
    simp only [List.mem_append, List.mem_cons, Prod.mk.injEq, hr, false_and, false_or] at this
    exact List.mem_append.mpr this
  · rw [SettingsCache.entries_answer] at he
    by_cases hr : r = request
    · exact .inr ⟨reply.outcome, hr ▸ hanswered⟩
    · rw [hkept r hr]
      rcases h.serving other r he with ⟨ho, p, hp, hserved⟩ | hdone
      · refine .inl ⟨ho, p, List.mem_filter.mpr ⟨hp, ?_⟩, hserved⟩
        simpa [hserved.2] using hr
      · exact .inr hdone
  · rw [SettingsCache.entries_answer] at he
    obtain ⟨hle, ho⟩ := h.newest w (howed w hw) r he
    -- the answered request would serve the document of `w`, which is then `uri`; but the other
    -- requests of that document are newer than the one that serves it
    have hr : r ≠ request := by
      rintro rfl
      have hw' : w.2 = uri := h.uri_eq_of_serving he
      rcases List.mem_append.mp hw with hold | hnew
      · exact hfirst w hold hw'
      · exact Nat.not_lt_of_ge hle (hafter w hnew)
    exact ⟨hle, (hkept r hr).trans ho⟩

end Answer

end Awaits

end ClassPad.Server
