import ClassPad.Proofs.Server.Lookups

/-!
The life of validation passes over a run of the server, in which calls and answers come in any
order. A pass is known by the input that starts it and its document. It joins the lookup that the
history gives it, and ends when that lookup is settled: with diagnostics of the text stored then,
with a warning, or with nothing if the document is closed. Between the two it waits, and nothing
else publishes or warns.
-/

set_option autoImplicit false
set_option relaxedAutoImplicit false

namespace ClassPad.Server

section Readings

variable (catalog : Catalog) (inputs : List Input)

/-- The request that the pass started at `k` still waits for before `m`. -/
def waitsAt (k : Nat) (uri : Uri) (m : Nat) : Option Nat :=
  ((joinedAt catalog inputs k uri).bind Lookup.request?).filter
    fun r => (answeredWith inputs r k m).isNone

/-- What the lookup joined by the pass started at `k` is settled to at `m`: a lookup that was
settled from the start is so at `k`, and another one where its request is answered. -/
def settledAt (k : Nat) (uri : Uri) (m : Nat) : Option Outcome :=
  if m = k then (joinedAt catalog inputs k uri).bind Lookup.outcome?
  else if k < m then
    (waitsAt catalog inputs k uri m).bind fun r => inputs[m]?.bind (Input.outcome? r)
  else none

/-- The passes that wait before an input, oldest first, each with its request. -/
def unsettled (m : Nat) : List (Uri × Nat) :=
  (List.range m).flatMap fun k => (startedAt catalog inputs k).flatMap fun uri =>
    (waitsAt catalog inputs k uri m).toList.map fun r => (uri, r)

/-- The passes whose lookups are settled at an input, oldest first, each with its outcome. -/
def settling (m : Nat) : List (Uri × Outcome) :=
  (List.range (m + 1)).flatMap fun k => (startedAt catalog inputs k).flatMap fun uri =>
    (settledAt catalog inputs k uri m).toList.map fun o => (uri, o)

end Readings

variable {catalog : Catalog} {inputs : List Input} {k : Nat}

/-! Waiting passes -/

private theorem waitsAt_self_succ (catalog : Catalog) (inputs : List Input) (k : Nat) (uri : Uri) :
    waitsAt catalog inputs k uri (k + 1) =
      (joinedAt catalog inputs k uri).bind Lookup.request? := by
  have hnone : ∀ r, answeredWith inputs r k (k + 1) = none :=
    fun r => answeredWith_of_le (Nat.le_refl _)
  cases h : (joinedAt catalog inputs k uri).bind Lookup.request? with
  | none => simp [waitsAt, h]
  | some r => simp [waitsAt, h, Option.filter_some, hnone r]

private theorem waitsAt_succ_of_call {c : Call} (hi : inputs[k]? = some (.call c)) (j : Nat)
    (uri : Uri) : waitsAt catalog inputs j uri (k + 1) = waitsAt catalog inputs j uri k := by
  simp only [waitsAt, answeredWith_succ_of_call hi]

private theorem waitsAt_succ_of_answer {request : Nat} {reply : Reply}
    (hi : inputs[k]? = some (.answer request reply)) {j : Nat} (hjk : j < k) (uri : Uri) :
    waitsAt catalog inputs j uri (k + 1) =
      (waitsAt catalog inputs j uri k).filter fun r => !decide (r = request) := by
  cases hjoined : (joinedAt catalog inputs j uri).bind Lookup.request? with
  | none => simp [waitsAt, hjoined]
  | some r =>
    simp only [waitsAt, hjoined, Option.filter_some, answeredWith_succ hjk, hi, Option.bind_some,
      Input.outcome?]
    cases answeredWith inputs r j k with
    | some o => rfl
    | none =>
      by_cases hr : request = r
      · simp [hr, Option.filter_some]
      · simp [hr, Ne.symm hr, Option.filter_some]

private theorem unsettled_succ_of_call {c : Call} (hi : inputs[k]? = some (.call c)) :
    unsettled catalog inputs (k + 1) =
      unsettled catalog inputs k ++ ((stateAt catalog inputs k).starts c).flatMap fun uri =>
        ((joinedAt catalog inputs k uri).bind Lookup.request?).toList.map fun r => (uri, r) := by
  rw [unsettled, List.range_succ, List.flatMap_append, List.flatMap_singleton,
    startedAt_of_call hi]
  congr 1
  · refine List.flatMap_congr fun j _ => List.flatMap_congr fun uri _ => ?_
    rw [waitsAt_succ_of_call hi]
  · refine List.flatMap_congr fun uri _ => ?_
    rw [waitsAt_self_succ]

private theorem unsettled_succ_of_answer {request : Nat} {reply : Reply}
    (hi : inputs[k]? = some (.answer request reply)) :
    unsettled catalog inputs (k + 1) =
      (unsettled catalog inputs k).filter fun w => !decide (w.2 = request) := by
  rw [unsettled, List.range_succ, List.flatMap_append, List.flatMap_singleton,
    startedAt_of_answer hi, List.flatMap_nil, List.append_nil, unsettled, List.filter_flatMap]
  refine List.flatMap_congr fun j hj => ?_
  rw [List.filter_flatMap]
  refine List.flatMap_congr fun uri _ => ?_
  rw [waitsAt_succ_of_answer hi (List.mem_range.mp hj)]
  cases waitsAt catalog inputs j uri k with
  | none => rfl
  | some r =>
    by_cases hr : r = request
    · simp [hr]
    · simp [hr]

private theorem passes_prepare (s : Server) (c : Call) : (s.prepare c).passes = s.passes := by
  cases c with
  | changed uri edits version =>
    simp only [prepare]
    cases s.find? uri <;> rfl
  | _ => rfl

private theorem joinedAt_of_call {c : Call} (hi : inputs[k]? = some (.call c)) {uri : Uri}
    (hmem : uri ∈ (stateAt catalog inputs k).starts c) :
    joinedAt catalog inputs k uri =
      some ((((stateAt catalog inputs k).prepare c).startPasses
        ((stateAt catalog inputs k).starts c)).1.cache.joined uri) := by
  have hk : k < inputs.length := (List.getElem?_eq_some_iff.mp hi).1
  have hstarts : Starts inputs uri k := by
    rwa [← mem_startedAt_iff catalog hk, startedAt_of_call hi]
  rw [joinedAt_eq catalog hstarts, cache_stateAt_of_call hi]

private theorem passes_stateAt (catalog : Catalog) (hk : k ≤ inputs.length) :
    (stateAt catalog inputs k).passes.map (fun p => (p.uri, p.request)) =
      unsettled catalog inputs k := by
  induction k with
  | zero => rfl
  | succ k ih =>
    have hi : inputs[k]? = some inputs[k] := List.getElem?_eq_getElem hk
    have hbefore := ih (Nat.le_of_succ_le hk)
    generalize inputs[k] = i at hi
    cases i with
    | call c =>
      have hopen : ∀ uri ∈ (stateAt catalog inputs k).starts c,
          (((stateAt catalog inputs k).prepare c).find? uri).isSome :=
        fun _ hmem => isSome_find?_of_mem_starts hmem
      rw [unsettled_succ_of_call hi, ← hbefore, stateAt_succ catalog hi, react_call]
      dsimp only
      rw [passes_startPasses hopen, List.map_append, passes_prepare, List.map_flatMap]
      congr 1
      refine List.flatMap_congr fun uri hmem => ?_
      rw [joinedAt_of_call hi hmem, Option.bind_some, List.map_map]
      rfl
    | answer request reply =>
      rw [unsettled_succ_of_answer hi, ← hbefore, stateAt_succ catalog hi, react, answer_eq,
        List.filter_map]
      rfl

/-! Ends of passes -/

private theorem settledAt_self (catalog : Catalog) (inputs : List Input) (k : Nat) (uri : Uri) :
    settledAt catalog inputs k uri k =
      (joinedAt catalog inputs k uri).bind Lookup.outcome? := by
  rw [settledAt, if_pos rfl]

private theorem settledAt_of_call {c : Call} (hi : inputs[k]? = some (.call c)) {j : Nat}
    (hjk : j < k) (uri : Uri) : settledAt catalog inputs j uri k = none := by
  rw [settledAt, if_neg (Nat.ne_of_gt hjk), if_pos hjk, hi]
  simp [Input.outcome?]

private theorem settledAt_of_answer {request : Nat} {reply : Reply}
    (hi : inputs[k]? = some (.answer request reply)) {j : Nat} (hjk : j < k) (uri : Uri) :
    settledAt catalog inputs j uri k =
      ((waitsAt catalog inputs j uri k).filter fun r => r = request).map
        fun _ => reply.outcome := by
  rw [settledAt, if_neg (Nat.ne_of_gt hjk), if_pos hjk, hi]
  cases waitsAt catalog inputs j uri k with
  | none => rfl
  | some r =>
    by_cases hr : r = request
    · simp [Input.outcome?, hr, Option.filter_some]
    · simp [Input.outcome?, hr, Ne.symm hr, Option.filter_some]

private theorem settling_of_call {c : Call} (hi : inputs[k]? = some (.call c)) :
    settling catalog inputs k =
      ((stateAt catalog inputs k).starts c).flatMap fun uri =>
        ((joinedAt catalog inputs k uri).bind Lookup.outcome?).toList.map fun o => (uri, o) := by
  have hbefore : ((List.range k).flatMap fun j => (startedAt catalog inputs j).flatMap fun uri =>
      (settledAt catalog inputs j uri k).toList.map fun o => (uri, o)) = [] := by
    refine List.flatMap_eq_nil_iff.mpr fun j hj => List.flatMap_eq_nil_iff.mpr fun uri _ => ?_
    rw [settledAt_of_call hi (List.mem_range.mp hj)]
    rfl
  rw [settling, List.range_succ, List.flatMap_append, hbefore, List.nil_append,
    List.flatMap_singleton, startedAt_of_call hi]
  simp only [settledAt_self]

private theorem settling_of_answer {request : Nat} {reply : Reply}
    (hi : inputs[k]? = some (.answer request reply)) :
    settling catalog inputs k =
      ((unsettled catalog inputs k).filter fun w => w.2 = request).map
        fun w => (w.1, reply.outcome) := by
  rw [settling, List.range_succ, List.flatMap_append, List.flatMap_singleton,
    startedAt_of_answer hi, List.flatMap_nil, List.append_nil, unsettled, List.filter_flatMap,
    List.map_flatMap]
  refine List.flatMap_congr fun j hj => ?_
  rw [List.filter_flatMap, List.map_flatMap]
  refine List.flatMap_congr fun uri _ => ?_
  rw [settledAt_of_answer hi (List.mem_range.mp hj)]
  cases waitsAt catalog inputs j uri k with
  | none => rfl
  | some r =>
    by_cases hr : r = request
    · simp [hr]
    · simp [hr]

/-- The verdicts at an input are those of the passes whose lookups are settled at it. -/
theorem verdicts_effectsAt (catalog : Catalog) (hk : k < inputs.length) :
    verdicts (effectsAt catalog inputs k) =
      (settling catalog inputs k).flatMap
        fun w => (stateAt catalog inputs (k + 1)).conclude w.1 w.2 := by
  have hi : inputs[k]? = some inputs[k] := List.getElem?_eq_getElem hk
  have hpasses := passes_stateAt catalog (Nat.le_of_lt hk)
  generalize inputs[k] = i at hi
  have hnext := stateAt_succ catalog hi
  rw [effectsAt_of_input catalog hi]
  cases i with
  | call c =>
    have hopen : ∀ uri ∈ (stateAt catalog inputs k).starts c,
        (((stateAt catalog inputs k).prepare c).find? uri).isSome :=
      fun _ hmem => isSome_find?_of_mem_starts hmem
    have hconclude : (stateAt catalog inputs (k + 1)).conclude =
        ((stateAt catalog inputs k).prepare c).conclude := by
      funext uri o
      rw [hnext, react_call]
      exact conclude_congr (documents_startPasses _ _) (negotiated_startPasses _ _) uri o
    rw [settling_of_call hi, hconclude, react_call, verdicts_append, verdicts_notices,
      List.nil_append, verdicts_startPasses hopen, List.flatMap_assoc]
    refine List.flatMap_congr fun uri hmem => ?_
    rw [joinedAt_of_call hi hmem, Option.bind_some, List.flatMap_map]
  | answer request reply =>
    have hconclude : (stateAt catalog inputs (k + 1)).conclude =
        (stateAt catalog inputs k).conclude := by
      funext uri o
      rw [hnext, react, answer_eq]
      exact conclude_congr rfl rfl uri o
    rw [settling_of_answer hi, hconclude, ← hpasses, react, answer_eq, List.filter_map,
      List.map_map, List.flatMap_map]
    refine (List.filter_flatMap ..).trans (List.flatMap_congr fun p _ => ?_)
    exact verdicts_conclude _ p.uri reply.outcome

private theorem settledAt_of_lt {uri : Uri} {m : Nat} (hmk : m < k) :
    settledAt catalog inputs k uri m = none := by
  rw [settledAt, if_neg (Nat.ne_of_lt hmk), if_neg (Nat.not_lt_of_gt hmk)]

private theorem waitsAt_succ_eq_none_iff {uri : Uri} {m : Nat} (hkm : k < m) :
    waitsAt catalog inputs k uri (m + 1) = none ↔
      waitsAt catalog inputs k uri m = none ∨ (settledAt catalog inputs k uri m).isSome := by
  rw [settledAt, if_neg (Nat.ne_of_gt hkm), if_pos hkm]
  cases hjoined : (joinedAt catalog inputs k uri).bind Lookup.request? with
  | none => simp [waitsAt, hjoined]
  | some r =>
    simp only [waitsAt, hjoined, Option.filter_some, answeredWith_succ hkm]
    cases answeredWith inputs r k m with
    | some o => simp
    | none => cases hnow : inputs[m]?.bind (Input.outcome? r) <;> simp [hnow]

private theorem isSome_joinedAt_of_settledAt {uri : Uri} {m : Nat}
    (h : (settledAt catalog inputs k uri m).isSome) : (joinedAt catalog inputs k uri).isSome := by
  cases hjoined : joinedAt catalog inputs k uri with
  | none => simp [settledAt, waitsAt, hjoined] at h
  | some lookup => rfl

/-- A pass that has joined a lookup waits until that is settled. -/
theorem waitsAt_eq_none_iff {uri : Uri} (hjoined : (joinedAt catalog inputs k uri).isSome)
    {n : Nat} (hkn : k < n) :
    waitsAt catalog inputs k uri n = none ↔
      ∃ m < n, (settledAt catalog inputs k uri m).isSome := by
  induction hkn with
  | refl =>
    obtain ⟨lookup, hlookup⟩ := Option.isSome_iff_exists.mp hjoined
    have hself : waitsAt catalog inputs k uri (k + 1) = none ↔
        (settledAt catalog inputs k uri k).isSome := by
      rw [waitsAt_self_succ, settledAt_self, hlookup]
      exact Lookup.request?_eq_none_iff
    rw [hself]
    constructor
    · exact fun h => ⟨k, Nat.lt_succ_self k, h⟩
    · rintro ⟨m, hm, h⟩
      rcases Nat.lt_succ_iff_lt_or_eq.mp hm with hlt | rfl
      · simp [settledAt_of_lt hlt] at h
      · exact h
  | @step n hkn ih =>
    rw [waitsAt_succ_eq_none_iff hkn, ih]
    constructor
    · rintro (⟨m, hm, h⟩ | h)
      · exact ⟨m, Nat.lt_succ_of_lt hm, h⟩
      · exact ⟨n, Nat.lt_succ_self n, h⟩
    · rintro ⟨m, hm, h⟩
      rcases Nat.lt_succ_iff_lt_or_eq.mp hm with hlt | rfl
      · exact .inl ⟨m, hlt, h⟩
      · exact .inr h

private theorem settledAt_eq_none_of_settled {uri : Uri} {m n : Nat}
    (hm : (settledAt catalog inputs k uri m).isSome) (hmn : m < n) :
    settledAt catalog inputs k uri n = none := by
  have hkm : k ≤ m := by
    by_contra hmk
    simp [settledAt_of_lt (Nat.lt_of_not_ge hmk)] at hm
  have hkn : k < n := Nat.lt_of_le_of_lt hkm hmn
  have hdone : waitsAt catalog inputs k uri n = none :=
    (waitsAt_eq_none_iff (isSome_joinedAt_of_settledAt hm) hkn).mpr ⟨m, hmn, hm⟩
  rw [settledAt, if_neg (Nat.ne_of_gt hkn), if_pos hkn, hdone]
  rfl

private theorem settledAt_unique {uri : Uri} {m n : Nat}
    (hm : (settledAt catalog inputs k uri m).isSome)
    (hn : (settledAt catalog inputs k uri n).isSome) : m = n := by
  rcases Nat.lt_trichotomy m n with hlt | heq | hgt
  · simp [settledAt_eq_none_of_settled hm hlt] at hn
  · exact heq
  · simp [settledAt_eq_none_of_settled hn hgt] at hm

/-! Where a lookup is settled -/

private theorem settledAt_of_joined_settled {uri : Uri} {o o' : Outcome} {m : Nat}
    (hjoined : joinedAt catalog inputs k uri = some (.settled o')) :
    settledAt catalog inputs k uri m = some o ↔ m = k ∧ o = o' := by
  by_cases hm : m = k
  · simp [settledAt, hjoined, hm, Lookup.outcome?, eq_comm]
  · simp [settledAt, waitsAt, hjoined, hm, Lookup.request?]

private theorem settledAt_of_joined_waiting {uri : Uri} {request m : Nat} {o : Outcome}
    (hjoined : joinedAt catalog inputs k uri = some (.waiting request)) :
    settledAt catalog inputs k uri m = some o ↔ Answers inputs request k m o := by
  rw [Answers, ← answeredWith_eq_none_iff]
  by_cases hm : m = k
  · simp [settledAt, hjoined, hm, Lookup.outcome?]
  · by_cases hkm : k < m
    · cases hbefore : answeredWith inputs request k m <;>
        simp [settledAt, waitsAt, hjoined, hm, hkm, Lookup.request?, Option.filter_some, hbefore]
    · simp [settledAt, hm, hkm]

private theorem settledAt_of_global {uri : Uri} (hscope : scopeAt inputs (k + 1) = .global)
    {m : Nat} {o : Outcome} :
    settledAt catalog inputs k uri m = some o ↔
      m = k ∧ o = .ok (sharedAt inputs (k + 1)) := by
  have hjoined : joinedAt catalog inputs k uri =
      some (.settled (.ok (sharedAt inputs (k + 1)))) := by
    simp only [joinedAt, hscope]
  exact settledAt_of_joined_settled hjoined

/-- A pass whose request was answered before is settled at once with that answer, and another one
where its request is answered. -/
theorem settledAt_of_latestRequest {uri : Uri} {c : Call} {j request : Nat}
    (hi : inputs[k]? = some (.call c)) (hscope : scopeAt inputs (k + 1) = .perResource)
    (hlatest : latestRequest catalog inputs uri (k + 1) = some (j, request)) {m : Nat}
    {o : Outcome} :
    settledAt catalog inputs k uri m = some o ↔
      ∃ a, Answers inputs request j a o ∧ m = max k a := by
  have hjk : j ≤ k := Nat.le_of_lt_succ (latestRequest_eq_some hlatest).1
  have hjoined : joinedAt catalog inputs k uri =
      some (((answeredWith inputs request j k).map Lookup.settled).getD (.waiting request)) := by
    simp only [joinedAt, hscope, hlatest, Option.map_some]
  cases hanswer : answeredWith inputs request j k with
  | some o' =>
    obtain ⟨a, hak, hanswers⟩ := answeredWith_eq_some_iff.mp hanswer
    rw [hanswer, Option.map_some, Option.getD_some] at hjoined
    rw [settledAt_of_joined_settled hjoined]
    constructor
    · rintro ⟨rfl, rfl⟩
      exact ⟨a, hanswers, by omega⟩
    · rintro ⟨b, hanswers', rfl⟩
      obtain ⟨rfl, rfl⟩ := hanswers.unique hanswers'
      exact ⟨by omega, rfl⟩
  | none =>
    have hopen : answeredWith inputs request j (k + 1) = none := by
      rw [answeredWith_succ_of_call hi, hanswer]
    rw [hanswer, Option.map_none, Option.getD_none] at hjoined
    rw [settledAt_of_joined_waiting hjoined]
    constructor
    · intro hanswers
      have hkm := hanswers.1
      exact ⟨m, (answers_iff_of_unanswered hjk hopen).mpr hanswers, by omega⟩
    · rintro ⟨a, hanswers, rfl⟩
      rw [answers_iff_of_unanswered hjk hopen] at hanswers
      have hka := hanswers.1
      rwa [Nat.max_eq_right (Nat.le_of_lt hka)]

private theorem exists_request_of_looks (catalog : Catalog) {uri : Uri} (h : Looks inputs uri k) :
    ∃ j ≤ k, ∃ request, Asks inputs uri j ∧ (∀ i ≤ k, j < i → ¬Asks inputs uri i) ∧
      (request, uri) ∈ requested (effectsAt catalog inputs j) ∧
      ∀ m o, settledAt catalog inputs k uri m = some o ↔
        ∃ a, Answers inputs request j a o ∧ m = max k a := by
  obtain ⟨c, hi⟩ := exists_call_of_starts h.1
  have hk : k < inputs.length := (List.getElem?_eq_some_iff.mp hi).1
  obtain ⟨j, request, hlatest, -⟩ := exists_latestRequest catalog h
  obtain ⟨hjk, hsent, hlater⟩ := latestRequest_eq_some hlatest
  have hasks : ∀ i ≤ k, Asks inputs uri i ↔
      ∃ n, (n, uri) ∈ requested (effectsAt catalog inputs i) := fun i hik => by
    rw [← mem_filter_asks_iff catalog (by omega : i < inputs.length),
      ← uris_requested_effectsAt catalog (by omega)]
    simp
  refine ⟨j, Nat.le_of_lt_succ hjk, request, (hasks j (by omega)).mpr ⟨request, hsent⟩, ?_, hsent,
    fun m o => settledAt_of_latestRequest hi h.2 hlatest⟩
  intro i hik hji hasks'
  obtain ⟨n, hn⟩ := (hasks i hik).mp hasks'
  exact hlater i (by omega) hji n hn

/-! Publications -/

theorem exists_settling_of_publish {uri : Uri} {diagnostics : List Diagnostic}
    (h : Effect.publish uri diagnostics ∈ effectsAt catalog inputs k) :
    ∃ d settings, (uri, .ok settings) ∈ settling catalog inputs k ∧
      (stateAt catalog inputs (k + 1)).find? uri = some d ∧
      diagnostics =
        d.validate settings (stateAt catalog inputs (k + 1)).flags.relatedInformation := by
  have hverdict : Effect.publish uri diagnostics ∈ verdicts (effectsAt catalog inputs k) :=
    List.mem_filter.mpr ⟨h, rfl⟩
  rw [verdicts_effectsAt catalog (lt_length_of_mem_effectsAt h), List.mem_flatMap] at hverdict
  obtain ⟨⟨other, o⟩, hsettling, hmem⟩ := hverdict
  obtain ⟨rfl, d, settings, rfl, hfind, hvalidate⟩ := exists_of_publish hmem
  exact ⟨d, settings, hsettling, hfind, hvalidate⟩

private theorem openAt_of_publish {uri : Uri} {diagnostics : List Diagnostic}
    (h : Effect.publish uri diagnostics ∈ effectsAt catalog inputs k) :
    OpenAt inputs uri (k + 1) := by
  obtain ⟨d, -, -, hfind, -⟩ := exists_settling_of_publish h
  rw [← isSome_find?_stateAt catalog (lt_length_of_mem_effectsAt h), hfind]
  rfl

/-- Every pass ends exactly once, in every run. An input starts one pass for each document that it
opens, or that is open when it changes the document or the configuration. What is published or
warned at an input comes from the passes whose lookups are settled at it, each by its outcome and by
what the inputs have made of the document; so nothing is published for a document that is not open.

While the settings are shared, a pass is settled at once by the value that came in last. Otherwise a
pass sends a request if the settings of its document were dropped since the passes before it, and it
joins the request of the latest pass of its document that did so. If the first answer after that
request came before the pass was started, the pass is settled at once by it, and else where it
comes; until then it waits. -/
theorem every_pass_ends_once (catalog : Catalog) (inputs : List Input) :
    (∀ k < inputs.length, (startedAt catalog inputs k).Nodup ∧
      ∀ uri, uri ∈ startedAt catalog inputs k ↔ Starts inputs uri k) ∧
    (∀ k < inputs.length, verdicts (effectsAt catalog inputs k) =
      (settling catalog inputs k).flatMap fun (uri, outcome) =>
        match outcome with
        | .error e => [.log .warning ("Skipping validation of " ++ uri.text ++ ": " ++ e.message)]
        | .ok settings => (documentAt inputs uri (k + 1)).toList.map fun d =>
            .publish uri (d.validate settings (flagsAt inputs (k + 1)).relatedInformation)) ∧
    (∀ k ≤ inputs.length, (∀ uri, (stateAt catalog inputs k).find? uri = documentAt inputs uri k ∧
        ((documentAt inputs uri k).isSome ↔ OpenAt inputs uri k)) ∧
      (stateAt catalog inputs k).passes.map (fun p => (p.uri, p.request)) =
        unsettled catalog inputs k) ∧
    (∀ k uri diagnostics, Effect.publish uri diagnostics ∈ effectsAt catalog inputs k →
      OpenAt inputs uri (k + 1)) ∧
    (∀ k < inputs.length, (requested (effectsAt catalog inputs k)).map Prod.snd =
        (startedAt catalog inputs k).filter fun uri => Asks inputs uri k) ∧
    (∀ k ≤ inputs.length, (sentBefore catalog inputs k).map (fun w => w.2.1) =
        List.range (sentBefore catalog inputs k).length) ∧
    (∀ k uri, Starts inputs uri k →
      (scopeAt inputs (k + 1) = .global → ∀ m o, settledAt catalog inputs k uri m = some o ↔
        m = k ∧ o = .ok (sharedAt inputs (k + 1))) ∧
      (scopeAt inputs (k + 1) = .perResource →
        ∃ j ≤ k, ∃ request, Asks inputs uri j ∧ (∀ i ≤ k, j < i → ¬Asks inputs uri i) ∧
          (request, uri) ∈ requested (effectsAt catalog inputs j) ∧
          ∀ m o, settledAt catalog inputs k uri m = some o ↔
            ∃ a, Answers inputs request j a o ∧ m = max k a) ∧
      ∀ n, k < n → (waitsAt catalog inputs k uri n = none ↔
        ∃ m < n, (settledAt catalog inputs k uri m).isSome)) ∧
    ∀ k uri m n, (settledAt catalog inputs k uri m).isSome →
      (settledAt catalog inputs k uri n).isSome → m = n := by
  refine ⟨fun k hk => ⟨nodup_startedAt catalog inputs k, fun uri => mem_startedAt_iff catalog hk⟩,
    fun k hk => ?_, fun k hk => ⟨fun uri => ⟨find?_stateAt catalog hk uri,
      isSome_documentAt uri hk⟩, passes_stateAt catalog hk⟩,
    fun k uri diagnostics => openAt_of_publish, fun k hk => uris_requested_effectsAt catalog hk,
    fun k hk => numbers_sentBefore catalog hk, fun k uri hstarts => ⟨?_, ?_, fun n hkn => ?_⟩,
    fun k uri m n => settledAt_unique⟩
  · rw [verdicts_effectsAt catalog hk]
    refine List.flatMap_congr fun w _ => ?_
    rcases w with ⟨uri, e | settings⟩
    · rfl
    · simp only [conclude, find?_stateAt catalog hk, flags_stateAt catalog hk]
      cases documentAt inputs uri (k + 1) <;> rfl
  · exact fun hscope m o => settledAt_of_global hscope
  · exact fun hscope => exists_request_of_looks catalog ⟨hstarts, hscope⟩
  · exact waitsAt_eq_none_iff (by rw [joinedAt_eq catalog hstarts]; rfl) hkn

/-- A document is changed after the answer to its request has come: the pass for the change asks for
nothing, joins the answered request and ends at once. -/
theorem every_pass_ends_once_joining_answered :
    let uri : Uri := ⟨"file:///a"⟩
    let inputs : List Input :=
      [.call (.negotiate { workspace := some { configuration := some true } }),
        .call (.opened uri ['A', 'B'] 1), .answer 0 (.values [.null]),
        .call (.changed uri [.replaceAll ['C', 'D']] 2)]
    Starts inputs uri 3 ∧ ¬Asks inputs uri 3 ∧
      settledAt ⟨[]⟩ inputs 3 uri 3 = some (.ok .standard) ∧
      verdicts (effectsAt ⟨[]⟩ inputs 3) =
        [.publish uri (Document.validate ⟨uri, ['C', 'D'], 2⟩ .standard false)] := by
  intro uri inputs
  have hstarts : Starts inputs uri 3 := by decide
  have hnot : ¬Asks inputs uri 3 := by decide
  obtain ⟨-, hverdicts, -, -, -, -, hjoined, -⟩ := every_pass_ends_once ⟨[]⟩ inputs
  obtain ⟨j, hj, request, hasks, -, hsent, hsettled⟩ := (hjoined 3 uri hstarts).2.1 rfl
  have hone : ∀ j ≤ 3, Asks inputs uri j → j = 1 := by decide
  obtain rfl := hone j hj hasks
  have hsent' : requested (effectsAt ⟨[]⟩ inputs 1) = [(0, uri)] := rfl
  rw [hsent', List.mem_singleton, Prod.mk.injEq] at hsent
  obtain ⟨rfl, -⟩ := hsent
  have hanswers : Answers inputs 0 1 2 (.ok .standard) :=
    ⟨by decide, rfl, fun i hi hji => by omega⟩
  have hsettling : settling ⟨[]⟩ inputs 3 = [(uri, .ok .standard)] := by
    simp only [uri, inputs]
    rfl
  have hdocument : documentAt inputs uri (3 + 1) = some ⟨uri, ['C', 'D'], 2⟩ := rfl
  refine ⟨hstarts, hnot, (hsettled 3 _).mpr ⟨2, hanswers, rfl⟩, ?_⟩
  rw [hverdicts 3 (by decide), hsettling, List.flatMap_singleton]
  simp only [hdocument]
  rfl

end ClassPad.Server
