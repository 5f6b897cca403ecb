import ClassPad.Proofs.Run
import ClassPad.Proofs.Settings.Cache
import ClassPad.Proofs.Settings.History

/-!
The state of the settings service after a history is what the history says. Its parts are followed
one by one: the entries, the outcomes of the requests and the lookups that wait. For each part there
is a lemma for every way in which an input can change it.
-/

set_option autoImplicit false
set_option relaxedAutoImplicit false

namespace ClassPad.SettingsService

variable {inputs : List Input} {k : Nat}

/-! Entries -/

/-- The entries before an input are the requests that were sent and not dropped since. -/
def EntriesFollow (inputs : List Input) (k : Nat) (entries : List (Uri × Nat)) : Prop :=
  ∀ uri r, entries.lookup uri = some r ↔
    ∃ j < k, Sends inputs uri j ∧ ¬Dropped inputs uri j k ∧ requestNumber inputs j = r

private theorem EntriesFollow.send {entries : List (Uri × Nat)} (h : EntriesFollow inputs k entries)
    {uri : Uri} (hs : Sends inputs uri k) :
    EntriesFollow inputs (k + 1) ((uri, requestNumber inputs k) :: entries) := by
  have hkeep : ∀ other, inputs[k]?.any (Input.drops other) = false := by
    intro other
    rw [(lookup?_eq_some_iff.mp hs.1).1]
    rfl
  intro other r
  rw [SettingsCache.lookup_cons]
  split_ifs with heq
  · subst heq
    constructor
    · intro hr
      exact ⟨k, Nat.lt_succ_self k, hs, not_dropped_self_succ _ _ _, Option.some.inj hr⟩
    · rintro ⟨j, hj, hsj, hdrop, rfl⟩
      rcases Nat.lt_succ_iff_lt_or_eq.mp hj with hlt | rfl
      · exact absurd ((hs.2 j hlt hsj.1).mono le_rfl (Nat.le_succ k)) hdrop
      · rfl
  · rw [h other r]
    constructor
    · rintro ⟨j, hj, hsj, hdrop, hr⟩
      refine ⟨j, Nat.lt_succ_of_lt hj, hsj, ?_, hr⟩
      rw [dropped_succ_iff hj, hkeep other]
      simpa using hdrop
    · rintro ⟨j, hj, hsj, hdrop, hr⟩
      rcases Nat.lt_succ_iff_lt_or_eq.mp hj with hlt | rfl
      · exact ⟨j, hlt, hsj, fun hd => hdrop (hd.mono le_rfl (Nat.le_succ k)), hr⟩
      · exact absurd (hsj.uri_eq hs) heq

private theorem EntriesFollow.drop {entries next : List (Uri × Nat)}
    (h : EntriesFollow inputs k entries) (hs : ∀ uri, ¬Sends inputs uri k)
    (hnext : ∀ uri, next.lookup uri =
      if inputs[k]?.any (Input.drops uri) then none else entries.lookup uri) :
    EntriesFollow inputs (k + 1) next := by
  intro uri r
  rw [hnext]
  split_ifs with hdrop
  · constructor
    · intro hr
      cases hr
    · rintro ⟨j, hj, hsj, hnot, -⟩
      rcases Nat.lt_succ_iff_lt_or_eq.mp hj with hlt | rfl
      · exact absurd ((dropped_succ_iff hlt).mpr (.inr hdrop)) hnot
      · exact absurd hsj (hs uri)
  · rw [h uri r]
    constructor
    · rintro ⟨j, hj, hsj, hnot, hr⟩
      refine ⟨j, Nat.lt_succ_of_lt hj, hsj, ?_, hr⟩
      rw [dropped_succ_iff hj]
      exact fun hd => hd.elim hnot hdrop
    · rintro ⟨j, hj, hsj, hnot, hr⟩
      rcases Nat.lt_succ_iff_lt_or_eq.mp hj with hlt | rfl
      · exact ⟨j, hlt, hsj, fun hd => hnot (hd.mono le_rfl (Nat.le_succ k)), hr⟩
      · exact absurd hsj (hs uri)

private theorem EntriesFollow.keep {entries : List (Uri × Nat)} (h : EntriesFollow inputs k entries)
    (hs : ∀ uri, ¬Sends inputs uri k)
    (hkeep : ∀ uri, inputs[k]?.any (Input.drops uri) = false) :
    EntriesFollow inputs (k + 1) entries :=
  h.drop hs fun uri => by simp [hkeep uri]

/-! Outcomes -/

/-- The outcomes before an input are those of the requests sent so far. -/
structure OutcomesFollow (inputs : List Input) (k : Nat) (outcomes : List (Option Outcome)) :
    Prop where
  length : outcomes.length = requestNumber inputs k
  pending : ∀ uri j, j < k → Sends inputs uri j → Pending inputs j k →
    outcomes[requestNumber inputs j]? = some none
  answered : ∀ uri j o, j < k → Sends inputs uri j → Answered inputs j k o →
    outcomes[requestNumber inputs j]? = some (some o)

private theorem OutcomesFollow.keep {outcomes : List (Option Outcome)}
    (h : OutcomesFollow inputs k outcomes) (hs : ∀ uri, ¬Sends inputs uri k)
    (ha : ∀ j reply, ¬Answers inputs j k reply) : OutcomesFollow inputs (k + 1) outcomes where
  length := h.length.trans (requestNumber_succ_of_not_sends hs).symm
  pending uri j hj hsj hp := by
    rcases Nat.lt_succ_iff_lt_or_eq.mp hj with hlt | rfl
    · exact h.pending uri j hlt hsj (pending_succ_iff.mp hp).1
    · exact absurd hsj (hs uri)
  answered uri j o hj hsj ho := by
    rcases Nat.lt_succ_iff_lt_or_eq.mp hj with hlt | rfl
    · rcases answered_succ_iff.mp ho with hbefore | ⟨reply, hreply, -⟩
      · exact h.answered uri j o hlt hsj hbefore
      · exact absurd hreply (ha j reply)
    · exact absurd hsj (hs uri)

private theorem OutcomesFollow.send {outcomes : List (Option Outcome)}
    (h : OutcomesFollow inputs k outcomes) {uri : Uri} (hs : Sends inputs uri k) :
    OutcomesFollow inputs (k + 1) (outcomes ++ [none]) where
  length := by
    rw [List.length_append, h.length, requestNumber_succ_of_sends hs]
    rfl
  pending other j hj hsj hp := by
    rcases Nat.lt_succ_iff_lt_or_eq.mp hj with hlt | rfl
    · rw [List.getElem?_append_left (by rw [h.length]; exact hsj.requestNumber_lt hlt)]
      exact h.pending other j hlt hsj (pending_succ_iff.mp hp).1
    · rw [← h.length, List.getElem?_append_right le_rfl]
      simp
  answered other j o hj hsj ho := by
    have hget := (lookup?_eq_some_iff.mp hs.1).1
    rcases Nat.lt_succ_iff_lt_or_eq.mp hj with hlt | rfl
    · rw [List.getElem?_append_left (by rw [h.length]; exact hsj.requestNumber_lt hlt)]
      rcases answered_succ_iff.mp ho with hbefore | ⟨reply, hreply, -⟩
      · exact h.answered other j o hlt hsj hbefore
      · exact absurd hreply (not_answers_of_get hget)
    · obtain ⟨a, ha, reply, hreply, -⟩ := ho
      exact absurd hreply (pending_self_succ inputs j a ha reply)

private theorem OutcomesFollow.answer {c : SettingsCache} (h : OutcomesFollow inputs k c.outcomes)
    {r : Nat} {reply : Reply} (hk : inputs[k]? = some (.answer r reply)) :
    OutcomesFollow inputs (k + 1) (c.answer r reply).outcomes where
  length := by
    rw [SettingsCache.length_outcomes_answer, h.length,
      requestNumber_succ_of_not_sends (not_sends_of_not_get hk rfl)]
  pending uri j hj hsj hp := by
    rcases Nat.lt_succ_iff_lt_or_eq.mp hj with hlt | rfl
    · obtain ⟨hbefore, hnow⟩ := pending_succ_iff.mp hp
      have hne : requestNumber inputs j ≠ r := by
        rintro rfl
        exact hnow reply (answers_iff.mpr ⟨hlt, hk, hbefore⟩)
      rw [SettingsCache.outcomes_answer, if_neg fun hc => hne hc.1]
      exact h.pending uri j hlt hsj hbefore
    · exact absurd hsj (not_sends_of_not_get hk rfl uri)
  answered uri j o hj hsj ho := by
    rcases Nat.lt_succ_iff_lt_or_eq.mp hj with hlt | rfl
    · rw [SettingsCache.outcomes_answer]
      rcases answered_succ_iff.mp ho with hbefore | ⟨now, hnow, rfl⟩
      · have := h.answered uri j o hlt hsj hbefore
        rw [if_neg fun hc => by simp [this] at hc, this]
      · obtain ⟨-, hk', hpending⟩ := answers_iff.mp hnow
        have heq : requestNumber inputs j = r ∧ now = reply := by
          have := hk'.symm.trans hk
          simpa using this
        rw [if_pos ⟨heq.1, h.pending uri j hlt hsj hpending⟩, heq.2]
    · exact absurd hsj (not_sends_of_not_get hk rfl uri)

/-! Waiting lookups -/

/-- The lookups that wait before an input are those that joined a request without an answer. -/
structure WaitingFollows (inputs : List Input) (k : Nat) (waiting : List (Nat × Nat)) : Prop where
  mem : ∀ n r, (n, r) ∈ waiting ↔
    ∃ uri i j, i < k ∧ Joins inputs uri i j ∧ Pending inputs j k ∧
      lookupNumber inputs i = n ∧ requestNumber inputs j = r
  once : (waiting.map Prod.fst).Nodup

private theorem WaitingFollows.keep {waiting : List (Nat × Nat)}
    (h : WaitingFollows inputs k waiting)
    (hj : ∀ uri j, Joins inputs uri k j → ¬Pending inputs j (k + 1))
    (ha : ∀ j reply, ¬Answers inputs j k reply) : WaitingFollows inputs (k + 1) waiting where
  mem n r := by
    rw [h.mem]
    constructor
    · rintro ⟨uri, i, j, hi, hjoin, hp, hn, hr⟩
      exact ⟨uri, i, j, Nat.lt_succ_of_lt hi, hjoin, pending_succ_iff.mpr ⟨hp, ha j⟩, hn, hr⟩
    · rintro ⟨uri, i, j, hi, hjoin, hp, hn, hr⟩
      rcases Nat.lt_succ_iff_lt_or_eq.mp hi with hlt | rfl
      · exact ⟨uri, i, j, hlt, hjoin, (pending_succ_iff.mp hp).1, hn, hr⟩
      · exact absurd hp (hj uri j hjoin)
  once := h.once

private theorem WaitingFollows.join {waiting : List (Nat × Nat)}
    (h : WaitingFollows inputs k waiting)
    {uri : Uri} {j : Nat} (hjoin : Joins inputs uri k j) (hp : Pending inputs j (k + 1)) :
    WaitingFollows inputs (k + 1)
      (waiting ++ [(lookupNumber inputs k, requestNumber inputs j)]) where
  mem n r := by
    have hget := (lookup?_eq_some_iff.mp hjoin.1).1
    rw [List.mem_append, h.mem, List.mem_singleton, Prod.mk.injEq]
    constructor
    · rintro (⟨other, i, j', hi, hjoin', hp', hn, hr⟩ | ⟨rfl, rfl⟩)
      · exact ⟨other, i, j', Nat.lt_succ_of_lt hi, hjoin',
          pending_succ_iff.mpr ⟨hp', fun _ => not_answers_of_get hget⟩, hn, hr⟩
      · exact ⟨uri, k, j, Nat.lt_succ_self k, hjoin, hp, rfl, rfl⟩
    · rintro ⟨other, i, j', hi, hjoin', hp', rfl, rfl⟩
      rcases Nat.lt_succ_iff_lt_or_eq.mp hi with hlt | rfl
      · exact .inl ⟨other, i, j', hlt, hjoin', (pending_succ_iff.mp hp').1, rfl, rfl⟩
      · obtain ⟨rfl, -⟩ := hjoin.unique hjoin'
        exact .inr ⟨rfl, rfl⟩
  once := by
    rw [List.map_append, List.map_singleton, List.nodup_append]
    refine ⟨h.once, List.nodup_singleton _, ?_⟩
    intro n hn m hm heq
    obtain ⟨⟨n', r⟩, hmem, rfl⟩ := List.mem_map.mp hn
    obtain ⟨other, i, j', hi, hjoin', -, hn', -⟩ := (h.mem n' r).mp hmem
    have hlt := lookupNumber_lt (lookup?_eq_some_iff.mp hjoin'.1).1 hi
    rw [List.mem_singleton] at hm
    omega

private theorem WaitingFollows.answer {waiting : List (Nat × Nat)}
    (h : WaitingFollows inputs k waiting)
    {r : Nat} {reply : Reply} (hk : inputs[k]? = some (.answer r reply)) :
    WaitingFollows inputs (k + 1) (waiting.filter fun w => !decide (w.2 = r)) where
  mem n r' := by
    rw [List.mem_filter, h.mem]
    constructor
    · rintro ⟨⟨uri, i, j, hi, hjoin, hp, hn, rfl⟩, hne⟩
      have hne' : requestNumber inputs j ≠ r := by simpa using hne
      refine ⟨uri, i, j, Nat.lt_succ_of_lt hi, hjoin, pending_succ_iff.mpr ⟨hp, ?_⟩, hn, rfl⟩
      rintro other ⟨-, hk', -⟩
      have := hk'.symm.trans hk
      simp only [Option.some.injEq, Input.answer.injEq] at this
      exact hne' this.1
    · rintro ⟨uri, i, j, hi, hjoin, hp, hn, rfl⟩
      obtain ⟨hbefore, hnow⟩ := pending_succ_iff.mp hp
      have hlt : i < k := by
        rcases Nat.lt_succ_iff_lt_or_eq.mp hi with hlt | rfl
        · exact hlt
        · have := (lookup?_eq_some_iff.mp hjoin.1).1
          simp [hk] at this
      refine ⟨⟨uri, i, j, hlt, hjoin, hbefore, hn, rfl⟩, ?_⟩
      have hne : requestNumber inputs j ≠ r := by
        rintro rfl
        exact hnow reply (answers_iff.mpr ⟨hjoin.2.2.1.trans_lt hlt, hk, hbefore⟩)
      simpa using hne
  once := h.once.sublist (List.filter_sublist.map Prod.fst)

/-! The state -/

/-- The state before an input is what the history says. -/
structure Follows (inputs : List Input) (k : Nat) (s : SettingsService) : Prop where
  fixed : s.cache.fixed = (inputs.take k).findSome? Input.scope?
  shared : s.cache.shared = sharedAt inputs k
  lookups : s.lookups = lookupNumber inputs k
  entries : EntriesFollow inputs k s.cache.entries
  outcomes : OutcomesFollow inputs k s.cache.outcomes
  waiting : WaitingFollows inputs k s.waiting

theorem Follows.scope {s : SettingsService} (h : Follows inputs k s) :
    s.cache.scope = scopeAt inputs k := by
  rw [SettingsCache.scope, h.fixed, scopeAt]

theorem step_get_of_global {s : SettingsService} {uri : Uri} (h : s.cache.scope = .global) :
    s.step (.get uri) =
      ({ s with lookups := s.lookups + 1 }, [.resolved s.lookups (.ok s.cache.shared)]) := by
  simp only [step, SettingsCache.get_of_global h]
  rfl

theorem step_answer (s : SettingsService) (r : Nat) (reply : Reply) :
    s.step (.answer r reply) =
      ({ s with
          cache := s.cache.answer r reply
          waiting := s.waiting.filter fun w => !decide (w.2 = r) },
        (s.waiting.filter fun w => w.2 = r).map fun w => .resolved w.1 reply.outcome) := by
  simp only [step, List.partition_eq_filter_filter]
  rfl

/-- A lookup in per-resource scope sends a request, or joins an earlier one, which is answered or
not. -/
theorem Follows.get_cases {s : SettingsService} (h : Follows inputs k s) {uri : Uri}
    (hk : lookup? inputs k = some uri) :
    (Sends inputs uri k ∧ s.step (.get uri) =
      ({ cache := { s.cache with
            entries := (uri, requestNumber inputs k) :: s.cache.entries
            outcomes := s.cache.outcomes ++ [none] }
         waiting := s.waiting ++ [(s.lookups, requestNumber inputs k)]
         lookups := s.lookups + 1 }, [.asked (requestNumber inputs k) uri])) ∨
    (∃ j o, Joins inputs uri k j ∧ ¬Sends inputs uri k ∧ Answered inputs j k o ∧
      s.step (.get uri) = ({ s with lookups := s.lookups + 1 }, [.resolved s.lookups o])) ∨
    (∃ j, Joins inputs uri k j ∧ ¬Sends inputs uri k ∧ Pending inputs j k ∧
      s.step (.get uri) =
        ({ s with
            waiting := s.waiting ++ [(s.lookups, requestNumber inputs j)]
            lookups := s.lookups + 1 }, [])) := by
  have hscope : s.cache.scope = .perResource := h.scope.trans (lookup?_eq_some_iff.mp hk).2
  cases he : s.cache.entries.lookup uri with
  | none =>
    obtain ⟨j, hjoin, hdrop⟩ := exists_joins hk
    -- a request sent before and not dropped would have left an entry
    have hjk : j = k := by
      by_contra hne
      have hlt : j < k := Nat.lt_of_le_of_ne hjoin.2.2.1 hne
      have := (h.entries uri _).mpr ⟨j, hlt, hjoin.2.1, hdrop, rfl⟩
      simp [he] at this
    subst hjk
    refine .inl ⟨hjoin.2.1, ?_⟩
    simp only [step, SettingsCache.get_of_no_entry hscope he, h.outcomes.length]
    rfl
  | some r =>
    obtain ⟨j, hj, hsj, hdrop, rfl⟩ := (h.entries uri r).mp he
    have hjoin := joins_of_not_dropped hk hsj hj.le hdrop
    have hnot : ¬Sends inputs uri k := hjoin.2.2.2 k le_rfl hj
    rcases pending_or_answered inputs j k with hp | ⟨o, ho⟩
    · refine .inr (.inr ⟨j, hjoin, hnot, hp, ?_⟩)
      simp only [step, SettingsCache.get_of_entry hscope he,
        SettingsCache.track_of_unanswered (h.outcomes.pending uri j hj hsj hp)]
      rfl
    · refine .inr (.inl ⟨j, o, hjoin, hnot, ho, ?_⟩)
      simp only [step, SettingsCache.get_of_entry hscope he,
        SettingsCache.track_of_answered (h.outcomes.answered uri j o hj hsj ho)]
      rfl

private theorem follows_zero (inputs : List Input) : Follows inputs 0 {} where
  fixed := rfl
  shared := rfl
  lookups := rfl
  entries uri r := by simp
  outcomes := ⟨rfl, by simp, by simp⟩
  waiting := ⟨by simp, List.nodup_nil⟩

private theorem findSome?_scope?_succ {i : Input} (hi : inputs[k]? = some i) :
    (inputs.take (k + 1)).findSome? Input.scope? =
      ((inputs.take k).findSome? Input.scope?).or i.scope? := by
  rw [List.take_add_one, hi, Option.toList_some, List.findSome?_append, List.findSome?_singleton]

private theorem sharedAt_succ {i : Input} (hi : inputs[k]? = some i) :
    sharedAt inputs (k + 1) = i.shared?.getD (sharedAt inputs k) := by
  simp only [sharedAt, List.take_add_one, hi, Option.toList_some, List.filterMap_append]
  cases h : i.shared? <;> simp [h]

private theorem Follows.quiet {s : SettingsService} {c : SettingsCache} (h : Follows inputs k s)
    {i : Input} (hi : inputs[k]? = some i) (hget : i.isGet = false)
    (hanswer : ∀ r reply, i ≠ .answer r reply)
    (hfixed : c.fixed = s.cache.fixed.or i.scope?)
    (hshared : c.shared = i.shared?.getD s.cache.shared)
    (hentries : ∀ uri, c.entries.lookup uri =
      if i.drops uri then none else s.cache.entries.lookup uri)
    (houtcomes : c.outcomes = s.cache.outcomes) :
    Follows inputs (k + 1) { s with cache := c } := by
  have hsends := not_sends_of_not_get hi hget
  have hno : ∀ j reply, ¬Answers inputs j k reply := by
    rintro j reply ⟨-, hk, -⟩
    exact hanswer _ _ (Option.some.inj (hi.symm.trans hk))
  exact
    { fixed := by rw [findSome?_scope?_succ hi, ← h.fixed]; exact hfixed
      shared := by rw [sharedAt_succ hi, ← h.shared]; exact hshared
      lookups := by rw [lookupNumber_succ hi, hget]; exact h.lookups
      entries := h.entries.drop hsends fun uri => by rw [hi]; exact hentries uri
      outcomes := by
        have := h.outcomes.keep hsends hno
        rwa [← houtcomes] at this
      waiting := by
        refine h.waiting.keep (fun uri j hjoin => ?_) hno
        have := (lookup?_eq_some_iff.mp hjoin.1).1
        obtain rfl := Option.some.inj (hi.symm.trans this)
        simp [Input.isGet] at hget }

private theorem Follows.lookup {s : SettingsService} {c : SettingsCache} (h : Follows inputs k s)
    {uri : Uri} (hi : inputs[k]? = some (.get uri)) (hfixed : c.fixed = s.cache.fixed)
    (hshared : c.shared = s.cache.shared) (hentries : EntriesFollow inputs (k + 1) c.entries)
    (houtcomes : OutcomesFollow inputs (k + 1) c.outcomes) {waiting : List (Nat × Nat)}
    (hwaiting : WaitingFollows inputs (k + 1) waiting) :
    Follows inputs (k + 1) { cache := c, waiting := waiting, lookups := s.lookups + 1 } where
  fixed := by
    rw [findSome?_scope?_succ hi, ← h.fixed]
    simpa [Input.scope?] using hfixed
  shared := by
    rw [sharedAt_succ hi, ← h.shared]
    exact hshared
  lookups := by
    rw [lookupNumber_succ hi, ← h.lookups]
    rfl
  entries := hentries
  outcomes := houtcomes
  waiting := hwaiting

/-- What the history says of the state holds after every input. -/
theorem Follows.step {s : SettingsService} (h : Follows inputs k s) {i : Input}
    (hi : inputs[k]? = some i) : Follows inputs (k + 1) (s.step i).1 := by
  cases i with
  | get uri =>
    have hkeep : ∀ other, inputs[k]?.any (Input.drops other) = false := fun _ => by rw [hi]; rfl
    have hno : ∀ j reply, ¬Answers inputs j k reply := fun _ _ => not_answers_of_get hi
    cases hscope : scopeAt inputs k with
    | global =>
      have hlook : lookup? inputs k = none := by simp [lookup?, hscope]
      have hsends : ∀ other, ¬Sends inputs other k := fun other hs =>
        absurd (hlook.symm.trans hs.1) (by simp)
      rw [step_get_of_global (h.scope.trans hscope)]
      refine h.lookup hi rfl rfl (h.entries.keep hsends hkeep) (h.outcomes.keep hsends hno) ?_
      exact h.waiting.keep (fun other j hjoin => absurd (hlook.symm.trans hjoin.1) (by simp)) hno
    | perResource =>
      have hlook : lookup? inputs k = some uri := lookup?_eq_some_iff.mpr ⟨hi, hscope⟩
      have hother : ¬Sends inputs uri k → ∀ other, ¬Sends inputs other k := by
        intro hnot other hs
        obtain rfl : other = uri := Option.some.inj (hs.1.symm.trans hlook)
        exact hnot hs
      -- the lookup sends a request, joins an answered one or joins one without an answer
      rcases h.get_cases hlook with ⟨hs, hstep⟩ | ⟨j, o, hjoin, hnot, ho, hstep⟩ |
        ⟨j, hjoin, hnot, hp, hstep⟩
      · have hjoin := joins_of_not_dropped hlook hs le_rfl
          fun hd => not_dropped_self_succ _ _ _ (hd.mono le_rfl (Nat.le_succ k))
        have hwaiting := h.waiting.join hjoin (pending_self_succ inputs k)
        rw [← h.lookups] at hwaiting
        rw [hstep]
        exact h.lookup (c := { s.cache with
            entries := (uri, requestNumber inputs k) :: s.cache.entries
            outcomes := s.cache.outcomes ++ [none] })
          hi rfl rfl (h.entries.send hs) (h.outcomes.send hs) hwaiting
      · have hsends := hother hnot
        rw [hstep]
        refine h.lookup hi rfl rfl (h.entries.keep hsends hkeep) (h.outcomes.keep hsends hno) ?_
        refine h.waiting.keep (fun other j' hjoin' hp => ?_) hno
        obtain ⟨rfl, -⟩ := hjoin.unique hjoin'
        obtain ⟨a, ha, reply, hreply, -⟩ := ho
        exact hp a (Nat.lt_succ_of_lt ha) reply hreply
      · have hsends := hother hnot
        rw [hstep]
        refine h.lookup hi rfl rfl (h.entries.keep hsends hkeep) (h.outcomes.keep hsends hno) ?_
        rw [h.lookups]
        exact h.waiting.join hjoin (pending_succ_iff.mpr ⟨hp, hno j⟩)
  | setScope scope =>
    refine h.quiet hi rfl (by simp) ?_ rfl (by simp [Input.drops, SettingsCache.setScope]) rfl
    cases hfixed : s.cache.fixed <;> simp [SettingsCache.setScope, Input.scope?, hfixed]
  | setShared settings =>
    exact h.quiet hi rfl (by simp) (by simp [SettingsCache.setShared, Input.scope?]) rfl
      (by simp [Input.drops, SettingsCache.setShared]) rfl
  | invalidateAll =>
    exact h.quiet hi rfl (by simp) (by simp [SettingsCache.invalidateAll, Input.scope?]) rfl
      (by simp [Input.drops, SettingsCache.invalidateAll]) rfl
  | forget uri =>
    refine h.quiet hi rfl (by simp) (by simp [SettingsCache.forget, Input.scope?]) rfl ?_ rfl
    intro other
    rw [SettingsCache.forget, SettingsCache.lookup_filter_ne]
    simp only [Input.drops, decide_eq_true_eq, eq_comm (a := uri)]
  | answer r reply =>
    rw [step_answer]
    exact
      { fixed := by
          rw [findSome?_scope?_succ hi, ← h.fixed]
          simp [Input.scope?]
        shared := by
          rw [sharedAt_succ hi, ← h.shared]
          simp [Input.shared?]
        lookups := by
          rw [lookupNumber_succ hi]
          exact h.lookups
        entries := by
          simp only [SettingsCache.entries_answer]
          exact h.entries.keep (not_sends_of_not_get hi rfl) fun _ => by rw [hi]; rfl
        outcomes := h.outcomes.answer hi
        waiting := h.waiting.answer hi }

def stateAt (inputs : List Input) (k : Nat) : SettingsService := Run.stateAt step {} inputs k

def eventsAt (inputs : List Input) (k : Nat) : List Event := Run.doneAt step {} inputs k

theorem follows_stateAt (hk : k ≤ inputs.length) : Follows inputs k (stateAt inputs k) :=
  Run.stateAt_induction step {} (follows_zero inputs) (fun _ _ hi h => h.step hi) hk

end ClassPad.SettingsService
