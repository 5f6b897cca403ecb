import ClassPad.Proofs.Settings.State

/-!
The sharing law of the settings service. A request is sent at exactly the lookups that send one by
the history, and each lookup resolves once: at once to the shared value in global scope, and in
per-resource scope when the request that it joined is answered, whatever was dropped in between.
-/

set_option autoImplicit false
set_option relaxedAutoImplicit false

namespace ClassPad.SettingsService

namespace Event

def asked? : Event → Option (Nat × Uri)
  | .asked request uri => some (request, uri)
  | .resolved _ _ => none

def resolved? (n : Nat) : Event → Option Outcome
  | .asked _ _ => none
  | .resolved m outcome => if m = n then some outcome else none

end Event

section Readings

variable (inputs : List Input)

def askedAt (k : Nat) : List (Nat × Uri) := (eventsAt inputs k).filterMap Event.asked?

def resolvedAt (n k : Nat) : List Outcome := (eventsAt inputs k).filterMap (Event.resolved? n)

/-- The inputs at which a lookup resolves, each with what it resolves to. -/
def resolutions (n : Nat) : List (Nat × Outcome) :=
  (List.range inputs.length).flatMap fun m => (resolvedAt inputs n m).map fun o => (m, o)

end Readings

variable {inputs : List Input} {k : Nat}

private theorem eventsAt_of_input {i : Input} (hi : inputs[k]? = some i) :
    eventsAt inputs k = ((stateAt inputs k).step i).2 :=
  Run.doneAt_of_input step {} hi

private theorem follows_at {i : Input} (hi : inputs[k]? = some i) :
    Follows inputs k (stateAt inputs k) :=
  follows_stateAt (List.getElem?_eq_some_iff.mp hi).1.le

private theorem eventsAt_of_global {uri : Uri} (hi : inputs[k]? = some (.get uri))
    (hscope : scopeAt inputs k = .global) :
    eventsAt inputs k = [.resolved (lookupNumber inputs k) (.ok (sharedAt inputs k))] := by
  have h := follows_at hi
  rw [eventsAt_of_input hi, step_get_of_global (h.scope.trans hscope), h.lookups, h.shared]

/-- At a lookup in per-resource scope a request is sent, or the lookup resolves, or it waits. -/
theorem eventsAt_of_lookup {uri : Uri} (hk : lookup? inputs k = some uri) :
    (Sends inputs uri k ∧ eventsAt inputs k = [.asked (requestNumber inputs k) uri]) ∨
    (∃ j o, Joins inputs uri k j ∧ ¬Sends inputs uri k ∧ Answered inputs j k o ∧
      eventsAt inputs k = [.resolved (lookupNumber inputs k) o]) ∨
    (∃ j, Joins inputs uri k j ∧ ¬Sends inputs uri k ∧ Pending inputs j k ∧
      eventsAt inputs k = []) := by
  have hi := (lookup?_eq_some_iff.mp hk).1
  have h := follows_at hi
  rw [eventsAt_of_input hi, ← h.lookups]
  rcases h.get_cases hk with ⟨hs, hstep⟩ | ⟨j, o, hjoin, hnot, ho, hstep⟩ |
    ⟨j, hjoin, hnot, hp, hstep⟩
  · exact .inl ⟨hs, by rw [hstep]⟩
  · exact .inr (.inl ⟨j, o, hjoin, hnot, ho, by rw [hstep]⟩)
  · exact .inr (.inr ⟨j, hjoin, hnot, hp, by rw [hstep]⟩)

private theorem eventsAt_of_answer {r : Nat} {reply : Reply}
    (hi : inputs[k]? = some (.answer r reply)) :
    eventsAt inputs k = ((stateAt inputs k).waiting.filter fun w => w.2 = r).map
      fun w => .resolved w.1 reply.outcome := by
  rw [eventsAt_of_input hi, step_answer]

private theorem eventsAt_of_quiet {i : Input} (hi : inputs[k]? = some i) (hget : i.isGet = false)
    (hanswer : ∀ r reply, i ≠ .answer r reply) : eventsAt inputs k = [] := by
  rw [eventsAt_of_input hi]
  cases i with
  | get uri => simp [Input.isGet] at hget
  | answer r reply => exact absurd rfl (hanswer r reply)
  | setScope scope => rfl
  | setShared settings => rfl
  | invalidateAll => rfl
  | forget uri => rfl

/-! Requests -/

private theorem askedAt_of_sends {uri : Uri} (hs : Sends inputs uri k) :
    askedAt inputs k = [(requestNumber inputs k, uri)] := by
  rcases eventsAt_of_lookup hs.1 with ⟨-, he⟩ | ⟨j, o, -, hnot, -⟩ | ⟨j, -, hnot, -⟩
  · simp [askedAt, he, Event.asked?]
  · exact absurd hs hnot
  · exact absurd hs hnot

private theorem askedAt_of_not_sends (h : ∀ uri, ¬Sends inputs uri k) : askedAt inputs k = [] := by
  cases hi : inputs[k]? with
  | none =>
    have : eventsAt inputs k = [] :=
      Run.doneAt_of_length_le step {} (List.getElem?_eq_none_iff.mp hi)
    simp [askedAt, this]
  | some i =>
    cases i with
    | get uri =>
      cases hscope : scopeAt inputs k with
      | global => simp [askedAt, eventsAt_of_global hi hscope, Event.asked?]
      | perResource =>
        rcases eventsAt_of_lookup (lookup?_eq_some_iff.mpr ⟨hi, hscope⟩) with
          ⟨hs, -⟩ | ⟨j, o, -, -, -, he⟩ | ⟨j, -, -, -, he⟩
        · exact absurd hs (h uri)
        · simp [askedAt, he, Event.asked?]
        · simp [askedAt, he]
    | answer r reply =>
      simp [askedAt, eventsAt_of_answer hi, List.filterMap_eq_nil_iff, Event.asked?]
    | setScope scope => simp [askedAt, eventsAt_of_quiet hi rfl (by simp)]
    | setShared settings => simp [askedAt, eventsAt_of_quiet hi rfl (by simp)]
    | invalidateAll => simp [askedAt, eventsAt_of_quiet hi rfl (by simp)]
    | forget uri => simp [askedAt, eventsAt_of_quiet hi rfl (by simp)]

/-! Resolutions -/

private theorem filterMap_resolved? {waiting : List (Nat × Nat)}
    (once : (waiting.map Prod.fst).Nodup) (n r : Nat) (o : Outcome) :
    ((waiting.filter fun w => w.2 = r).map fun w => Event.resolved w.1 o).filterMap
      (Event.resolved? n) = if (n, r) ∈ waiting then [o] else [] := by
  induction waiting with
  | nil => simp
  | cons w rest ih =>
    obtain ⟨m, q⟩ := w
    rw [List.map_cons, List.nodup_cons] at once
    have hrest := ih once.2
    by_cases hq : q = r
    · subst hq
      rw [List.filter_cons_of_pos (by simp), List.map_cons, List.filterMap_cons, hrest]
      by_cases hm : m = n
      · subst hm
        have hnot : (m, q) ∉ rest := fun hmem => once.1 (List.mem_map.mpr ⟨_, hmem, rfl⟩)
        simp [Event.resolved?, hnot]
      · have hne : (n, q) ≠ (m, q) := fun he => hm (Prod.mk.inj he).1.symm
        simp [Event.resolved?, hm, hne]
    · have hne : (n, r) ≠ (m, q) := fun he => hq (Prod.mk.inj he).2.symm
      rw [List.filter_cons_of_neg (by simpa using hq), hrest]
      simp [hne]

private theorem resolvedAt_of_answer {n r : Nat} {reply : Reply}
    (hi : inputs[k]? = some (.answer r reply)) :
    resolvedAt inputs n k =
      if (n, r) ∈ (stateAt inputs k).waiting then [reply.outcome] else [] := by
  rw [resolvedAt, eventsAt_of_answer hi]
  exact filterMap_resolved? (follows_at hi).waiting.once n r _

/-- A lookup resolves only where it is made and where an answer finds it waiting. -/
theorem resolvedAt_eq_nil {n : Nat}
    (hget : ∀ uri, inputs[k]? = some (.get uri) → lookupNumber inputs k ≠ n)
    (hwait : ∀ r reply, inputs[k]? = some (.answer r reply) →
      (n, r) ∉ (stateAt inputs k).waiting) : resolvedAt inputs n k = [] := by
  cases hi : inputs[k]? with
  | none =>
    have : eventsAt inputs k = [] :=
      Run.doneAt_of_length_le step {} (List.getElem?_eq_none_iff.mp hi)
    simp [resolvedAt, this]
  | some i =>
    cases i with
    | get uri =>
      have hne := hget uri hi
      cases hscope : scopeAt inputs k with
      | global => simp [resolvedAt, eventsAt_of_global hi hscope, Event.resolved?, hne]
      | perResource =>
        rcases eventsAt_of_lookup (lookup?_eq_some_iff.mpr ⟨hi, hscope⟩) with
          ⟨-, he⟩ | ⟨j, o, -, -, -, he⟩ | ⟨j, -, -, -, he⟩
        · simp [resolvedAt, he, Event.resolved?]
        · simp [resolvedAt, he, Event.resolved?, hne]
        · simp [resolvedAt, he]
    | answer r reply => rw [resolvedAt_of_answer hi, if_neg (hwait r reply hi)]
    | setScope scope => simp [resolvedAt, eventsAt_of_quiet hi rfl (by simp)]
    | setShared settings => simp [resolvedAt, eventsAt_of_quiet hi rfl (by simp)]
    | invalidateAll => simp [resolvedAt, eventsAt_of_quiet hi rfl (by simp)]
    | forget uri => simp [resolvedAt, eventsAt_of_quiet hi rfl (by simp)]

/-- A lookup waits from where it is made until the request that it joined is answered. -/
theorem mem_waiting_iff {uri : Uri} {j m r : Nat} (hjoin : Joins inputs uri k j)
    (hm : m ≤ inputs.length) :
    (lookupNumber inputs k, r) ∈ (stateAt inputs m).waiting ↔
      k < m ∧ Pending inputs j m ∧ requestNumber inputs j = r := by
  have hget := (lookup?_eq_some_iff.mp hjoin.1).1
  rw [(follows_stateAt hm).waiting.mem]
  constructor
  · rintro ⟨other, i, j', hi, hjoin', hp, hn, hr⟩
    obtain rfl := eq_of_lookupNumber_eq (lookup?_eq_some_iff.mp hjoin'.1).1 hget hn
    obtain ⟨rfl, -⟩ := hjoin.unique hjoin'
    exact ⟨hi, hp, hr⟩
  · rintro ⟨hkm, hp, hr⟩
    exact ⟨uri, k, j, hkm, hjoin, hp, rfl, hr⟩

private theorem resolvedAt_self_of_pending {uri : Uri} {j : Nat} (hjoin : Joins inputs uri k j)
    (hp : Pending inputs j k) : resolvedAt inputs (lookupNumber inputs k) k = [] := by
  rcases eventsAt_of_lookup hjoin.1 with
    ⟨-, he⟩ | ⟨j', o, hjoin', -, ⟨a, ha, reply, hreply, -⟩, -⟩ | ⟨j', -, -, -, he⟩
  · simp [resolvedAt, he, Event.resolved?]
  · obtain ⟨rfl, -⟩ := hjoin.unique hjoin'
    exact absurd hreply (hp a ha reply)
  · simp [resolvedAt, he]

private theorem resolvedAt_self_of_answered {uri : Uri} {j a : Nat} {reply : Reply}
    (hjoin : Joins inputs uri k j) (ha : Answers inputs j a reply) (hak : a < k) :
    resolvedAt inputs (lookupNumber inputs k) k = [reply.outcome] := by
  rcases eventsAt_of_lookup hjoin.1 with
    ⟨hs, -⟩ | ⟨j', o, hjoin', -, ⟨b, -, other, hb, rfl⟩, he⟩ | ⟨j', hjoin', -, hp, -⟩
  · -- a lookup that sends its own request cannot find it answered
    have hja := ha.1
    exact absurd hs (hjoin.2.2.2 k le_rfl (by omega))
  · obtain ⟨rfl, -⟩ := hjoin.unique hjoin'
    obtain ⟨-, rfl⟩ := ha.unique hb
    simp [resolvedAt, he, Event.resolved?]
  · obtain ⟨rfl, -⟩ := hjoin.unique hjoin'
    exact absurd ha (hp a hak reply)

private theorem resolvedAt_other {uri : Uri} {j m : Nat} (hjoin : Joins inputs uri k j)
    (hne : m ≠ k) (hnot : k < m → ∀ reply, ¬Answers inputs j m reply) :
    resolvedAt inputs (lookupNumber inputs k) m = [] := by
  have hget := (lookup?_eq_some_iff.mp hjoin.1).1
  refine resolvedAt_eq_nil ?_ ?_
  · intro other hother heq
    exact hne (eq_of_lookupNumber_eq hother hget heq)
  · intro r reply hi hmem
    obtain ⟨hkm, hp, rfl⟩ :=
      (mem_waiting_iff hjoin (List.getElem?_eq_some_iff.mp hi).1.le).mp hmem
    exact hnot hkm reply (answers_iff.mpr ⟨hjoin.2.2.1.trans_lt hkm, hi, hp⟩)

private theorem resolutions_of_answers {uri : Uri} {j a : Nat} {reply : Reply}
    (hjoin : Joins inputs uri k j) (ha : Answers inputs j a reply) :
    resolutions inputs (lookupNumber inputs k) = [(max k a, reply.outcome)] := by
  have hk := (List.getElem?_eq_some_iff.mp (lookup?_eq_some_iff.mp hjoin.1).1).1
  have hlen := (List.getElem?_eq_some_iff.mp ha.2.1).1
  have hne : a ≠ k := by
    rintro rfl
    exact not_answers_of_get (lookup?_eq_some_iff.mp hjoin.1).1 ha
  have hat : resolvedAt inputs (lookupNumber inputs k) (max k a) = [reply.outcome] := by
    rcases Nat.lt_or_gt_of_ne hne with hak | hka
    · rw [Nat.max_eq_left hak.le]
      exact resolvedAt_self_of_answered hjoin ha hak
    · rw [Nat.max_eq_right hka.le, resolvedAt_of_answer ha.2.1, if_pos]
      exact (mem_waiting_iff hjoin hlen.le).mpr ⟨hka, (answers_iff.mp ha).2.2, rfl⟩
  have hothers : ∀ m, m ≠ max k a → resolvedAt inputs (lookupNumber inputs k) m = [] := by
    intro m hm
    by_cases hmk : m = k
    · subst hmk
      refine resolvedAt_self_of_pending hjoin fun b hb other hother => ?_
      obtain ⟨rfl, -⟩ := ha.unique hother
      omega
    · refine resolvedAt_other hjoin hmk fun hkm other hother => ?_
      obtain ⟨rfl, -⟩ := ha.unique hother
      omega
  rw [resolutions, Run.flatMap_range_of_single (m := max k a) (by omega)]
  · rw [hat, List.map_singleton]
  · intro m _ hm
    rw [hothers m hm, List.map_nil]

private theorem resolutions_of_not_answered {uri : Uri} {j : Nat} (hjoin : Joins inputs uri k j)
    (hnone : ∀ a reply, ¬Answers inputs j a reply) :
    resolutions inputs (lookupNumber inputs k) = [] := by
  refine List.flatMap_eq_nil_iff.mpr fun m _ => List.map_eq_nil_iff.mpr ?_
  by_cases hmk : m = k
  · subst hmk
    exact resolvedAt_self_of_pending hjoin fun a _ => hnone a
  · exact resolvedAt_other hjoin hmk fun _ => hnone m

private theorem resolutions_of_global {uri : Uri} (hk : inputs[k]? = some (.get uri))
    (hscope : scopeAt inputs k = .global) :
    resolutions inputs (lookupNumber inputs k) = [(k, .ok (sharedAt inputs k))] := by
  have hlen := (List.getElem?_eq_some_iff.mp hk).1
  rw [resolutions, Run.flatMap_range_of_single (m := k) hlen]
  · simp [resolvedAt, eventsAt_of_global hk hscope, Event.resolved?]
  · intro m hm hne
    refine List.map_eq_nil_iff.mpr (resolvedAt_eq_nil ?_ ?_)
    · intro other hother heq
      exact hne (eq_of_lookupNumber_eq hother hk heq)
    · intro r reply hi hmem
      obtain ⟨other, i, j, -, hjoin, -, hn, -⟩ :=
        ((follows_stateAt hm.le).waiting.mem _ r).mp hmem
      obtain ⟨hget, hper⟩ := lookup?_eq_some_iff.mp hjoin.1
      obtain rfl := eq_of_lookupNumber_eq hget hk hn
      simp [hscope] at hper

private theorem Joins.of_not_dropped {uri : Uri} {j l : Nat} (hjoin : Joins inputs uri k j)
    (hkl : k ≤ l) (hl : lookup? inputs l = some uri) (hdrop : ¬Dropped inputs uri k l) :
    Joins inputs uri l j := by
  refine joins_of_not_dropped hl hjoin.2.1 (hjoin.2.2.1.trans hkl) fun hd => ?_
  exact (hd.split hjoin.1).elim hjoin.not_dropped hdrop

/-- The sharing law. A request is sent exactly at the lookups of a document that find none sent
since its entry was dropped; every other lookup joins the latest one. A lookup in per-resource scope
resolves once, when the request that it joined is answered or at once if it is, to what the answer
holds; lookups with no drop between them resolve alike; and a lookup in global scope resolves at
once to the value last set. -/
theorem lookups_share_requests (inputs : List Input) :
    (∀ k uri, Sends inputs uri k → askedAt inputs k = [(requestNumber inputs k, uri)]) ∧
    (∀ k, (∀ uri, ¬Sends inputs uri k) → askedAt inputs k = []) ∧
    (∀ k uri, lookup? inputs k = some uri → ∃ j, Joins inputs uri k j ∧
      (∀ a reply, Answers inputs j a reply →
        resolutions inputs (lookupNumber inputs k) = [(max k a, reply.outcome)]) ∧
      ((∀ a reply, ¬Answers inputs j a reply) →
        resolutions inputs (lookupNumber inputs k) = [])) ∧
    (∀ k l uri, k ≤ l → lookup? inputs k = some uri → lookup? inputs l = some uri →
      ¬Dropped inputs uri k l →
        (resolutions inputs (lookupNumber inputs k)).map Prod.snd =
          (resolutions inputs (lookupNumber inputs l)).map Prod.snd) ∧
    (∀ k uri, inputs[k]? = some (.get uri) → scopeAt inputs k = .global →
      resolutions inputs (lookupNumber inputs k) = [(k, .ok (sharedAt inputs k))]) ∧
    (∀ reason, (Reply.failure reason).outcome = .error (.query reason.text)) ∧
    (Reply.values []).outcome = .error .missing ∧
    (∀ value rest, (Reply.values (value :: rest)).outcome = Settings.ofConfiguration value) := by
  refine ⟨fun k uri => askedAt_of_sends, fun k => askedAt_of_not_sends, ?_, ?_,
    fun k uri => resolutions_of_global, fun _ => rfl, rfl, fun _ _ => rfl⟩
  · intro k uri hk
    obtain ⟨j, hjoin, -⟩ := exists_joins hk
    exact ⟨j, hjoin, fun a reply => resolutions_of_answers hjoin,
      resolutions_of_not_answered hjoin⟩
  · intro k l uri hkl hk hl hdrop
    obtain ⟨j, hjoin, -⟩ := exists_joins hk
    have hjoin' := hjoin.of_not_dropped hkl hl hdrop
    by_cases h : ∃ a reply, Answers inputs j a reply
    · obtain ⟨a, reply, ha⟩ := h
      rw [resolutions_of_answers hjoin ha, resolutions_of_answers hjoin' ha]
      rfl
    · have hnone : ∀ a reply, ¬Answers inputs j a reply := fun a reply ha => h ⟨a, reply, ha⟩
      rw [resolutions_of_not_answered hjoin hnone, resolutions_of_not_answered hjoin' hnone]

end ClassPad.SettingsService
