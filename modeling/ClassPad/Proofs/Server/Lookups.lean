import ClassPad.Proofs.Server.History

/-!
Which lookup a pass joins, by the inputs and by the requests that were sent. While settings are
asked for document by document, a pass sends a request unless an earlier pass of its document did
and the settings were not dropped since. It joins the latest request for its document, and the first
answer after that was sent is the answer. The cache holds nothing else.
-/

set_option autoImplicit false
set_option relaxedAutoImplicit false

namespace ClassPad.Server

def Input.drops (uri : Uri) (i : Input) : Bool := i.closes uri || i.configures

section History

variable (inputs : List Input)

/-- The settings of a document are dropped by an input between two others. -/
def Dropped (uri : Uri) (j k : Nat) : Prop := ∃ m < k, j < m ∧ inputs[m]?.any (Input.drops uri)

instance (uri : Uri) (j k : Nat) : Decidable (Dropped inputs uri j k) :=
  inferInstanceAs (Decidable (∃ m < k, j < m ∧ inputs[m]?.any (Input.drops uri)))

/-- An input starts a pass for a document, and settings are asked for document by document. -/
def Looks (uri : Uri) (k : Nat) : Prop :=
  Starts inputs uri k ∧ scopeAt inputs (k + 1) = .perResource

instance (uri : Uri) (k : Nat) : Decidable (Looks inputs uri k) :=
  inferInstanceAs (Decidable (Starts inputs uri k ∧ scopeAt inputs (k + 1) = .perResource))

/-- The pass that an input starts for a document has to ask for settings: for each earlier pass of
the document they were dropped since, at the latest by the input itself. -/
def Asks (uri : Uri) (k : Nat) : Prop :=
  Looks inputs uri k ∧ ∀ j < k, Looks inputs uri j → Dropped inputs uri j (k + 1)

instance (uri : Uri) (k : Nat) : Decidable (Asks inputs uri k) :=
  inferInstanceAs (Decidable (Looks inputs uri k ∧
    ∀ j < k, Looks inputs uri j → Dropped inputs uri j (k + 1)))

/-- Before an input there was a pass for a document whose settings were not dropped since. -/
def Served (uri : Uri) (k : Nat) : Prop :=
  ∃ j < k, Looks inputs uri j ∧ ¬Dropped inputs uri j k

/-- The first outcome that an input after `j` and before `k` gives to a request. -/
def answeredWith (request j : Nat) : Nat → Option Outcome
  | 0 => none
  | k + 1 => (answeredWith request j k).or
      (if j < k then inputs[k]?.bind (Input.outcome? request) else none)

/-- An input gives an outcome to a request that was sent at `j`: it is the first one after `j` that
answers the request. -/
def Answers (request j a : Nat) (o : Outcome) : Prop :=
  j < a ∧ inputs[a]?.bind (Input.outcome? request) = some o ∧
    ∀ i < a, j < i → inputs[i]?.bind (Input.outcome? request) = none

end History

section Readings

variable (catalog : Catalog) (inputs : List Input)

/-- The requests that are sent before an input, in order, each behind the input that sends it. -/
def sentBefore (k : Nat) : List (Nat × Nat × Uri) :=
  (List.range k).flatMap fun j => (requested (effectsAt catalog inputs j)).map (Prod.mk j)

/-- The latest request for a document before an input: what sends it, and its number. -/
def latestRequest (uri : Uri) (k : Nat) : Option (Nat × Nat) :=
  ((sentBefore catalog inputs k).reverse.find? fun w => w.2.2 = uri).map fun w => (w.1, w.2.1)

/-- The lookup that the pass started at `k` joins. -/
def joinedAt (k : Nat) (uri : Uri) : Option Lookup :=
  match scopeAt inputs (k + 1) with
  | .global => some (.settled (.ok (sharedAt inputs (k + 1))))
  | .perResource => (latestRequest catalog inputs uri (k + 1)).map fun (j, request) =>
      ((answeredWith inputs request j k).map Lookup.settled).getD (.waiting request)

end Readings

/-! What the inputs say -/

section Inputs

variable {inputs : List Input} {uri : Uri} {request j k : Nat}

private theorem dropped_succ_iff (hjk : j < k) :
    Dropped inputs uri j (k + 1) ↔
      Dropped inputs uri j k ∨ inputs[k]?.any (Input.drops uri) = true := by
  constructor
  · rintro ⟨m, hm, hjm, hdrop⟩
    rcases Nat.lt_succ_iff_lt_or_eq.mp hm with hlt | rfl
    · exact .inl ⟨m, hlt, hjm, hdrop⟩
    · exact .inr hdrop
  · rintro (⟨m, hm, hjm, hdrop⟩ | hdrop)
    · exact ⟨m, Nat.lt_succ_of_lt hm, hjm, hdrop⟩
    · exact ⟨k, Nat.lt_succ_self k, hjk, hdrop⟩

private theorem not_dropped_self : ¬Dropped inputs uri k (k + 1) := by
  rintro ⟨m, hm, hkm, -⟩
  omega

private theorem served_succ_iff :
    Served inputs uri (k + 1) ↔
      Looks inputs uri k ∨
        Served inputs uri k ∧ ¬inputs[k]?.any (Input.drops uri) = true := by
  constructor
  · rintro ⟨j, hj, hlooks, hkept⟩
    rcases Nat.lt_succ_iff_lt_or_eq.mp hj with hlt | rfl
    · rw [dropped_succ_iff hlt, not_or] at hkept
      exact .inr ⟨⟨j, hlt, hlooks, hkept.1⟩, hkept.2⟩
    · exact .inl hlooks
  · rintro (hlooks | ⟨⟨j, hj, hlooks, hkept⟩, hnow⟩)
    · exact ⟨k, Nat.lt_succ_self k, hlooks, not_dropped_self⟩
    · refine ⟨j, Nat.lt_succ_of_lt hj, hlooks, ?_⟩
      rw [dropped_succ_iff hj, not_or]
      exact ⟨hkept, hnow⟩

private theorem asks_iff :
    Asks inputs uri k ↔
      Looks inputs uri k ∧
        ¬(Served inputs uri k ∧ ¬inputs[k]?.any (Input.drops uri) = true) := by
  refine and_congr_right fun _ => ?_
  constructor
  · rintro hall ⟨⟨j, hj, hlooks, hkept⟩, hnow⟩
    rcases (dropped_succ_iff hj).mp (hall j hj hlooks) with hdrop | hdrop
    · exact hkept hdrop
    · exact hnow hdrop
  · intro hnot j hj hlooks
    by_contra hkept
    rw [dropped_succ_iff hj, not_or] at hkept
    exact hnot ⟨⟨j, hj, hlooks, hkept.1⟩, hkept.2⟩

private theorem scopeAt_of_le (hscope : scopeAt inputs k = .global) (hjk : j ≤ k) :
    scopeAt inputs j = .global := by
  induction hjk with
  | refl => exact hscope
  | step hjk ih => exact ih (scopeAt_of_succ hscope)

private theorem not_served_of_global (hscope : scopeAt inputs k = .global) :
    ¬Served inputs uri k := by
  rintro ⟨j, hj, hlooks, -⟩
  have hglobal := scopeAt_of_le hscope (Nat.succ_le_of_lt hj)
  simp [hlooks.2] at hglobal

theorem answeredWith_succ (hjk : j < k) :
    answeredWith inputs request j (k + 1) =
      (answeredWith inputs request j k).or (inputs[k]?.bind (Input.outcome? request)) := by
  rw [answeredWith, if_pos hjk]

theorem answeredWith_of_le (h : k ≤ j + 1) : answeredWith inputs request j k = none := by
  induction k with
  | zero => rfl
  | succ k ih =>
    rw [answeredWith, ih (Nat.le_of_succ_le h), if_neg (by omega)]
    rfl

theorem answeredWith_eq_none_iff :
    answeredWith inputs request j k = none ↔
      ∀ i < k, j < i → inputs[i]?.bind (Input.outcome? request) = none := by
  induction k with
  | zero => simp [answeredWith]
  | succ k ih =>
    rw [answeredWith, Option.or_eq_none_iff, ih]
    constructor
    · rintro ⟨hbefore, hnow⟩ i hi hji
      rcases Nat.lt_succ_iff_lt_or_eq.mp hi with hlt | rfl
      · exact hbefore i hlt hji
      · rwa [if_pos hji] at hnow
    · intro hall
      refine ⟨fun i hi => hall i (Nat.lt_succ_of_lt hi), ?_⟩
      split_ifs with hjk
      · exact hall k (Nat.lt_succ_self k) hjk
      · rfl

theorem answeredWith_eq_some_iff {o : Outcome} :
    answeredWith inputs request j k = some o ↔ ∃ a < k, Answers inputs request j a o := by
  induction k with
  | zero => simp [answeredWith]
  | succ k ih =>
    have hlast : answeredWith inputs request j k = none ∧
        (if j < k then inputs[k]?.bind (Input.outcome? request) else none) = some o ↔
          Answers inputs request j k o := by
      rw [answeredWith_eq_none_iff, Answers]
      split_ifs with hjk
      · simp only [hjk, true_and, and_comm]
      · simp [hjk]
    rw [answeredWith, Option.or_eq_some_iff, ih, hlast]
    constructor
    · rintro (⟨a, ha, hanswers⟩ | hanswers)
      · exact ⟨a, Nat.lt_succ_of_lt ha, hanswers⟩
      · exact ⟨k, Nat.lt_succ_self k, hanswers⟩
    · rintro ⟨a, ha, hanswers⟩
      rcases Nat.lt_succ_iff_lt_or_eq.mp ha with hlt | rfl
      · exact .inl ⟨a, hlt, hanswers⟩
      · exact .inr hanswers

theorem Answers.unique {a b : Nat} {o o' : Outcome} (ha : Answers inputs request j a o)
    (hb : Answers inputs request j b o') : a = b ∧ o = o' := by
  obtain ⟨hja, hnow, hbefore⟩ := ha
  obtain ⟨hjb, hnow', hbefore'⟩ := hb
  obtain rfl : a = b := by
    rcases Nat.lt_trichotomy a b with hlt | heq | hgt
    · simp [hbefore' a hlt hja] at hnow
    · exact heq
    · simp [hbefore b hgt hjb] at hnow'
  exact ⟨rfl, Option.some.inj (hnow.symm.trans hnow')⟩

theorem answers_iff_of_unanswered (hjk : j ≤ k)
    (h : answeredWith inputs request j (k + 1) = none) {a : Nat} {o : Outcome} :
    Answers inputs request j a o ↔ Answers inputs request k a o := by
  rw [answeredWith_eq_none_iff] at h
  constructor
  · rintro ⟨hja, hnow, hbefore⟩
    have hka : k < a := by
      by_contra hle
      simp [h a (by omega) hja] at hnow
    exact ⟨hka, hnow, fun i hi hki => hbefore i hi (by omega)⟩
  · rintro ⟨hka, hnow, hbefore⟩
    refine ⟨by omega, hnow, fun i hi hji => ?_⟩
    rcases Nat.lt_or_ge k i with hki | hik
    · exact hbefore i hi hki
    · exact h i (by omega) hji

theorem answeredWith_succ_of_call {c : Call} (hi : inputs[k]? = some (.call c)) :
    answeredWith inputs request j (k + 1) = answeredWith inputs request j k := by
  rw [answeredWith, hi]
  split_ifs <;> exact Option.or_none ..

end Inputs

/-! What a call does to the cache -/

private theorem outcomes_prepare (s : Server) (c : Call) :
    (s.prepare c).cache.outcomes = s.cache.outcomes := by
  cases c with
  | changed uri edits version =>
    simp only [prepare]
    cases s.find? uri <;> rfl
  | configured payload =>
    simp only [prepare]
    cases s.cache.scope <;> rfl
  | _ => rfl

private theorem lookup_prepare {s : Server} {uri : Uri}
    (h : s.cache.scope = .global → s.cache.entries.lookup uri = none) (c : Call) :
    (s.prepare c).cache.entries.lookup uri =
      if Input.drops uri (.call c) then none else s.cache.entries.lookup uri := by
  cases c with
  | changed other edits version =>
    simp only [prepare]
    cases s.find? other <;> rfl
  | closed other =>
    simp only [prepare, SettingsCache.forget, SettingsCache.lookup_filter_ne, Input.drops,
      Input.closes, Input.configures, Call.closes, Call.configures, Bool.or_false,
      decide_eq_true_eq, eq_comm (a := uri)]
  | configured payload =>
    simp only [prepare, Input.drops, Input.configures, Call.configures, Bool.or_true, if_true]
    cases hscope : s.cache.scope with
    | global => exact h hscope
    | perResource => rfl
  | _ => rfl

private theorem lookup_swap (sent : List (Nat × Uri)) (uri : Uri) :
    (sent.map Prod.swap).lookup uri = (sent.find? fun w => w.2 = uri).map Prod.fst := by
  induction sent with
  | nil => rfl
  | cons w rest ih =>
    obtain ⟨request, v⟩ := w
    rw [List.map_cons, Prod.swap_prod_mk, SettingsCache.lookup_cons, ih, List.find?_cons]
    by_cases h : v = uri
    · simp [h]
    · simp [h, Ne.symm h]

/-! The cache in a run -/

section Runs

variable {catalog : Catalog} {inputs : List Input} {k : Nat}

private theorem sentBefore_succ (catalog : Catalog) (inputs : List Input) (k : Nat) :
    sentBefore catalog inputs (k + 1) =
      sentBefore catalog inputs k ++ (requested (effectsAt catalog inputs k)).map (Prod.mk k) := by
  rw [sentBefore, List.range_succ, List.flatMap_append, List.flatMap_singleton, sentBefore]

private theorem latestRequest_succ (catalog : Catalog) (inputs : List Input) (uri : Uri) (k : Nat) :
    latestRequest catalog inputs uri (k + 1) =
      (((requested (effectsAt catalog inputs k)).reverse.find? fun w => w.2 = uri).map
        fun w => (k, w.1)).or (latestRequest catalog inputs uri k) := by
  rw [latestRequest, sentBefore_succ, List.reverse_append, List.find?_append, ← List.map_reverse,
    List.find?_map, Option.map_or, Option.map_map, latestRequest]
  rfl

theorem latestRequest_eq_some {uri : Uri} {j request : Nat}
    (h : latestRequest catalog inputs uri k = some (j, request)) :
    j < k ∧ (request, uri) ∈ requested (effectsAt catalog inputs j) ∧
      ∀ i < k, j < i → ∀ n, (n, uri) ∉ requested (effectsAt catalog inputs i) := by
  induction k with
  | zero => simp [latestRequest, sentBefore] at h
  | succ k ih =>
    rw [latestRequest_succ] at h
    cases hsent : (requested (effectsAt catalog inputs k)).reverse.find? fun w => w.2 = uri with
    | some w =>
      rw [hsent, Option.map_some, Option.some_or, Option.some.injEq, Prod.mk.injEq] at h
      obtain ⟨rfl, rfl⟩ := h
      have huri : w.2 = uri := by simpa using List.find?_some hsent
      refine ⟨Nat.lt_succ_self k, ?_, fun i hi hki => by omega⟩
      rw [← huri]
      exact List.mem_reverse.mp (List.mem_of_find?_eq_some hsent)
    | none =>
      rw [hsent, Option.map_none, Option.none_or] at h
      obtain ⟨hjk, hmem, hlater⟩ := ih h
      refine ⟨Nat.lt_succ_of_lt hjk, hmem, fun i hi hji n => ?_⟩
      rcases Nat.lt_succ_iff_lt_or_eq.mp hi with hlt | rfl
      · exact hlater i hlt hji n
      · intro hn
        simpa using List.find?_eq_none.mp hsent (n, uri) (List.mem_reverse.mpr hn)

private theorem requested_effectsAt_of_call {c : Call} (hi : inputs[k]? = some (.call c)) :
    requested (effectsAt catalog inputs k) =
      requested (((stateAt catalog inputs k).prepare c).startPasses
        ((stateAt catalog inputs k).starts c)).2 := by
  rw [effectsAt_of_input catalog hi, react_call, requested_append, requested_notices,
    List.nil_append]

private theorem requested_effectsAt_of_answer (catalog : Catalog) {request : Nat} {reply : Reply}
    (hi : inputs[k]? = some (.answer request reply)) :
    requested (effectsAt catalog inputs k) = [] := by
  rw [effectsAt_of_input catalog hi, react, answer_eq]
  induction (stateAt catalog inputs k).passes.filter fun p => p.request = request with
  | nil => rfl
  | cons p rest ih => rw [List.flatMap_cons, requested_append, requested_conclude, ih]; rfl

private theorem looks_iff_of_call (catalog : Catalog) {c : Call} {uri : Uri}
    (hi : inputs[k]? = some (.call c)) :
    Looks inputs uri k ↔
      uri ∈ (stateAt catalog inputs k).starts c ∧
        ((stateAt catalog inputs k).prepare c).cache.scope = .perResource := by
  have hk : k < inputs.length := (List.getElem?_eq_some_iff.mp hi).1
  have hscope : ((stateAt catalog inputs k).prepare c).cache.scope = scopeAt inputs (k + 1) := by
    rw [← scope_stateAt catalog hk, stateAt_succ catalog hi, react_call, SettingsCache.scope,
      SettingsCache.scope, fixed_startPasses]
  rw [Looks, ← mem_startedAt_iff catalog hk, startedAt_of_call hi, hscope]

private theorem not_looks_of_answer {request : Nat} {reply : Reply} {uri : Uri}
    (hi : inputs[k]? = some (.answer request reply)) : ¬Looks inputs uri k := by
  rintro ⟨hstarts, -⟩
  simp [Starts, hi, Input.opens, Input.changes, Input.configures] at hstarts

theorem mem_filter_asks_iff (catalog : Catalog) (hk : k < inputs.length) {uri : Uri} :
    uri ∈ ((startedAt catalog inputs k).filter fun uri => Asks inputs uri k) ↔
      Asks inputs uri k := by
  rw [List.mem_filter, decide_eq_true_eq, mem_startedAt_iff catalog hk, and_iff_right_iff_imp]
  exact fun hasks => hasks.1.1

/-- What the cache holds before an input is what the history says. -/
structure Recorded (catalog : Catalog) (inputs : List Input) (k : Nat) (c : SettingsCache) :
    Prop where
  known : ∀ uri, (c.entries.lookup uri).isSome ↔ Served inputs uri k
  latest : ∀ uri request, c.entries.lookup uri = some request →
    ∃ j, latestRequest catalog inputs uri k = some (j, request) ∧
      c.outcomes[request]? = some (answeredWith inputs request j k)
  numbered : (sentBefore catalog inputs k).map (fun w => w.2.1) = List.range c.outcomes.length

section Call

variable {c : Call} (hi : inputs[k]? = some (.call c))
  (h : Recorded catalog inputs k (stateAt catalog inputs k).cache)

include hi

theorem cache_stateAt_of_call :
    (stateAt catalog inputs (k + 1)).cache =
      (((stateAt catalog inputs k).prepare c).startPasses
        ((stateAt catalog inputs k).starts c)).1.cache := by
  rw [stateAt_succ catalog hi, react_call]

private theorem lookup_stateAt_of_call (uri : Uri) :
    (stateAt catalog inputs (k + 1)).cache.entries.lookup uri =
      (((requested (effectsAt catalog inputs k)).reverse.find? fun w => w.2 = uri).map
        Prod.fst).or (((stateAt catalog inputs k).prepare c).cache.entries.lookup uri) := by
  rw [cache_stateAt_of_call hi, entries_startPasses, List.lookup_append, ← List.map_reverse,
    lookup_swap, requested_effectsAt_of_call hi]

include h

private theorem Recorded.lookup_prepare (uri : Uri) :
    ((stateAt catalog inputs k).prepare c).cache.entries.lookup uri =
      if Input.drops uri (.call c) then none
      else (stateAt catalog inputs k).cache.entries.lookup uri := by
  refine Server.lookup_prepare (fun hscope => ?_) c
  have hk : k ≤ inputs.length := Nat.le_of_lt (List.getElem?_eq_some_iff.mp hi).1
  have hnot : ¬Served inputs uri k :=
    not_served_of_global ((scope_stateAt catalog hk).symm.trans hscope)
  rwa [← h.known, Option.not_isSome_iff_eq_none] at hnot

private theorem Recorded.isSome_lookup_prepare (uri : Uri) :
    (((stateAt catalog inputs k).prepare c).cache.entries.lookup uri).isSome ↔
      Served inputs uri k ∧ ¬inputs[k]?.any (Input.drops uri) = true := by
  rw [h.lookup_prepare hi, hi, Option.any_some, ← h.known]
  split_ifs with hdrop <;> simp [hdrop]

private theorem Recorded.uris_requested :
    (requested (effectsAt catalog inputs k)).map Prod.snd =
      (startedAt catalog inputs k).filter fun uri => Asks inputs uri k := by
  have honce := nodup_starts (nodup_openUris_stateAt catalog inputs k) c
  rw [requested_effectsAt_of_call hi, startedAt_of_call hi,
    uris_requested_startPasses honce fun _ hmem => isSome_find?_of_mem_starts hmem]
  refine List.filter_congr fun uri hmem => decide_eq_decide.mpr ?_
  rw [asks_iff, looks_iff_of_call catalog hi, ← h.isSome_lookup_prepare hi,
    SettingsCache.not_known_iff, Option.not_isSome_iff_eq_none]
  simp only [hmem, true_and]

private theorem Recorded.known_of_call (uri : Uri) :
    ((stateAt catalog inputs (k + 1)).cache.entries.lookup uri).isSome ↔
      Served inputs uri (k + 1) := by
  have hk : k < inputs.length := (List.getElem?_eq_some_iff.mp hi).1
  have hsent : (((requested (effectsAt catalog inputs k)).reverse.find? fun w => w.2 = uri).map
      Prod.fst).isSome ↔ Asks inputs uri k := by
    rw [← mem_filter_asks_iff catalog hk, ← h.uris_requested hi]
    simp
  rw [lookup_stateAt_of_call hi, Option.isSome_or, Bool.or_eq_true, hsent,
    h.isSome_lookup_prepare hi, asks_iff, served_succ_iff]
  tauto

private theorem Recorded.numbered_of_call :
    (sentBefore catalog inputs (k + 1)).map (fun w => w.2.1) =
      List.range (stateAt catalog inputs (k + 1)).cache.outcomes.length := by
  rw [sentBefore_succ, List.map_append, h.numbered, List.map_map, cache_stateAt_of_call hi,
    ← numbers_startPasses, outcomes_prepare, requested_effectsAt_of_call hi]
  rfl

private theorem Recorded.latest_of_call {uri : Uri} {request : Nat}
    (he : (stateAt catalog inputs (k + 1)).cache.entries.lookup uri = some request) :
    ∃ j, latestRequest catalog inputs uri (k + 1) = some (j, request) ∧
      (stateAt catalog inputs (k + 1)).cache.outcomes[request]? =
        some (answeredWith inputs request j (k + 1)) := by
  rw [lookup_stateAt_of_call hi] at he
  rw [latestRequest_succ]
  cases hsent : (requested (effectsAt catalog inputs k)).reverse.find? fun w => w.2 = uri with
  | some w =>
    -- the pass has just sent its request
    rw [hsent, Option.map_some, Option.some_or, Option.some.injEq] at he
    have hmem := List.mem_reverse.mp (List.mem_of_find?_eq_some hsent)
    rw [requested_effectsAt_of_call hi] at hmem
    refine ⟨k, by rw [Option.map_some, Option.some_or, he], ?_⟩
    rw [answeredWith_of_le (Nat.le_refl _), cache_stateAt_of_call hi, ← he]
    exact unanswered_of_requested hmem
  | none =>
    rw [hsent, Option.map_none, Option.none_or, h.lookup_prepare hi] at he
    split_ifs at he
    obtain ⟨j, hlatest, ho⟩ := h.latest uri request he
    have hlt := (List.getElem?_eq_some_iff.mp ho).1
    refine ⟨j, by rw [Option.map_none, Option.none_or, hlatest], ?_⟩
    rw [cache_stateAt_of_call hi, outcomes_startPasses, outcomes_prepare,
      List.getElem?_append_left hlt, ho, answeredWith_succ_of_call hi]

private theorem Recorded.call :
    Recorded catalog inputs (k + 1) (stateAt catalog inputs (k + 1)).cache :=
  ⟨h.known_of_call hi, fun _ _ => h.latest_of_call hi, h.numbered_of_call hi⟩

end Call

private theorem Recorded.answer {request : Nat} {reply : Reply}
    (hi : inputs[k]? = some (.answer request reply))
    (h : Recorded catalog inputs k (stateAt catalog inputs k).cache) :
    Recorded catalog inputs (k + 1) (stateAt catalog inputs (k + 1)).cache := by
  have hcache : (stateAt catalog inputs (k + 1)).cache =
      (stateAt catalog inputs k).cache.answer request reply := by
    rw [stateAt_succ catalog hi, react, answer_eq]
  have hsent := requested_effectsAt_of_answer catalog hi
  rw [hcache]
  constructor
  · intro uri
    rw [SettingsCache.entries_answer, h.known, served_succ_iff, hi]
    simp [not_looks_of_answer hi, Input.drops, Input.closes, Input.configures]
  · intro uri r he
    rw [SettingsCache.entries_answer] at he
    obtain ⟨j, hlatest, ho⟩ := h.latest uri r he
    refine ⟨j, by rw [latestRequest_succ, hsent, hlatest]; rfl, ?_⟩
    rw [SettingsCache.outcomes_answer, ho, answeredWith_succ (latestRequest_eq_some hlatest).1, hi,
      Option.bind_some, Input.outcome?]
    cases answeredWith inputs r j k with
    | none =>
      by_cases hr : request = r
      · simp [hr]
      · simp [hr, Ne.symm hr]
    | some o => simp
  · rw [sentBefore_succ, hsent, SettingsCache.length_outcomes_answer, ← h.numbered]
    simp

private theorem recorded_stateAt (catalog : Catalog) (hk : k ≤ inputs.length) :
    Recorded catalog inputs k (stateAt catalog inputs k).cache := by
  induction k with
  | zero =>
    refine ⟨fun uri => ?_, fun uri request he => ?_, rfl⟩
    · simp [stateAt, Run.stateAt, Served]
    · simp [stateAt, Run.stateAt] at he
  | succ k ih =>
    have hi : inputs[k]? = some inputs[k] := List.getElem?_eq_getElem hk
    have hbefore := ih (Nat.le_of_succ_le hk)
    generalize inputs[k] = i at hi
    cases i with
    | call c => exact hbefore.call hi
    | answer request reply => exact hbefore.answer hi

/-- The requests sent at an input are those of the passes that have to ask. -/
theorem uris_requested_effectsAt (catalog : Catalog) (hk : k < inputs.length) :
    (requested (effectsAt catalog inputs k)).map Prod.snd =
      (startedAt catalog inputs k).filter fun uri => Asks inputs uri k := by
  have hi : inputs[k]? = some inputs[k] := List.getElem?_eq_getElem hk
  have hrecorded := recorded_stateAt catalog (Nat.le_of_lt hk)
  generalize inputs[k] = i at hi
  cases i with
  | call c => exact hrecorded.uris_requested hi
  | answer request reply =>
    rw [requested_effectsAt_of_answer catalog hi, startedAt_of_answer hi]
    rfl

theorem numbers_sentBefore (catalog : Catalog) (hk : k ≤ inputs.length) :
    (sentBefore catalog inputs k).map (fun w => w.2.1) =
      List.range (sentBefore catalog inputs k).length := by
  have hnumbered := (recorded_stateAt catalog hk).numbered
  have hlength := congrArg List.length hnumbered
  rw [List.length_map, List.length_range] at hlength
  rw [hnumbered, hlength]

section Started

variable {uri : Uri}

theorem exists_call_of_starts (h : Starts inputs uri k) : ∃ c, inputs[k]? = some (.call c) := by
  cases hi : inputs[k]? with
  | none => simp [Starts, hi] at h
  | some i =>
    cases i with
    | call c => exact ⟨c, rfl⟩
    | answer request reply =>
      simp [Starts, hi, Input.opens, Input.changes, Input.configures] at h

theorem exists_latestRequest (catalog : Catalog) (h : Looks inputs uri k) :
    ∃ j request, latestRequest catalog inputs uri (k + 1) = some (j, request) ∧
      (stateAt catalog inputs (k + 1)).cache.entries.lookup uri = some request ∧
      (stateAt catalog inputs (k + 1)).cache.outcomes[request]? =
        some (answeredWith inputs request j k) := by
  obtain ⟨c, hi⟩ := exists_call_of_starts h.1
  have hk : k < inputs.length := (List.getElem?_eq_some_iff.mp hi).1
  have hrecorded := recorded_stateAt catalog hk
  have hserved : Served inputs uri (k + 1) := served_succ_iff.mpr (.inl h)
  obtain ⟨request, he⟩ := Option.isSome_iff_exists.mp ((hrecorded.known uri).mpr hserved)
  obtain ⟨j, hlatest, ho⟩ := hrecorded.latest uri request he
  rw [answeredWith_succ_of_call hi] at ho
  exact ⟨j, request, hlatest, he, ho⟩

/-- What the history says that a pass joins is what the cache gives it. -/
theorem joinedAt_eq (catalog : Catalog) (h : Starts inputs uri k) :
    joinedAt catalog inputs k uri = some ((stateAt catalog inputs (k + 1)).cache.joined uri) := by
  obtain ⟨c, hi⟩ := exists_call_of_starts h
  have hk : k < inputs.length := (List.getElem?_eq_some_iff.mp hi).1
  have hstate := scope_stateAt catalog hk
  cases hscope : scopeAt inputs (k + 1) with
  | global =>
    rw [hscope] at hstate
    simp only [joinedAt, hscope]
    rw [SettingsCache.joined_of_global hstate, shared_stateAt catalog hk hscope]
  | perResource =>
    rw [hscope] at hstate
    obtain ⟨j, request, hlatest, he, ho⟩ := exists_latestRequest catalog ⟨h, hscope⟩
    simp only [joinedAt, hscope, hlatest, Option.map_some]
    rw [SettingsCache.joined_of_entry hstate he]
    cases hanswer : answeredWith inputs request j k with
    | none =>
      rw [hanswer] at ho
      rw [SettingsCache.track_of_unanswered ho]
      rfl
    | some o =>
      rw [hanswer] at ho
      rw [SettingsCache.track_of_answered ho]
      rfl

end Started

end Runs

end ClassPad.Server
