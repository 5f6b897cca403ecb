import ClassPad.Proofs.Diagnostic.Exactness
import ClassPad.Proofs.Server.Passes
import ClassPad.Proofs.Settings.Limit

/-!
Empty publications. The settings that a server holds, and those that its lookups come to, have a
limit of at least one, whatever the client pushes or answers. So an empty list of diagnostics is
published for a document without a problem and for no other.
-/

set_option autoImplicit false
set_option relaxedAutoImplicit false

namespace ClassPad.Server

/-! Steps -/

private theorem sound_prepare {s : Server} (h : s.cache.Sound) (c : Call) :
    (s.prepare c).cache.Sound := by
  cases c with
  | negotiate capabilities => exact ⟨h.shared, h.settled⟩
  | changed uri edits version =>
    simp only [prepare]
    cases s.find? uri <;> exact h
  | closed uri => exact ⟨h.shared, h.settled⟩
  | configured payload =>
    simp only [prepare]
    cases s.cache.scope with
    | global => exact h.setShared (Settings.usable_ofChangeNotification payload)
    | perResource => exact ⟨h.shared, h.settled⟩
  | _ => exact h

private theorem sound_startPass {s : Server} (h : s.cache.Sound) (uri : Uri) :
    (s.startPass uri).1.cache.Sound := by
  cases hfind : s.find? uri with
  | none => rwa [startPass_of_not_open hfind]
  | some d =>
    rw [startPass_of_open (by simp [hfind])]
    exact h.get

private theorem sound_startPasses {s : Server} (h : s.cache.Sound) (uris : List Uri) :
    (s.startPasses uris).1.cache.Sound :=
  startPasses_invariant (P := fun s => s.cache.Sound) (fun _ uri h => sound_startPass h uri) h uris

private theorem sound_react {s : Server} (h : s.cache.Sound) (i : Input) :
    (s.react i).1.cache.Sound := by
  cases i with
  | call c =>
    rw [react_call]
    exact sound_startPasses (sound_prepare h c) (s.starts c)
  | answer request reply =>
    rw [react, answer_eq]
    exact h.answer request reply

/-! Runs -/

section Runs

variable {catalog : Catalog} {inputs : List Input} {k : Nat} {uri : Uri} {settings : Settings}

private theorem sound_stateAt (catalog : Catalog) (inputs : List Input) (k : Nat) :
    (stateAt catalog inputs k).cache.Sound :=
  Run.stateAt_invariant react _ (P := fun s => s.cache.Sound) SettingsCache.sound_empty
    (fun _ i h => sound_react h i) k

private theorem usable_sharedAt (inputs : List Input) (k : Nat) : (sharedAt inputs k).Usable := by
  rw [sharedAt]
  cases hlast : ((inputs.take k).filterMap Input.shared?).getLast? with
  | none => exact Settings.usable_standard
  | some settings =>
    obtain ⟨i, -, hi⟩ := List.mem_filterMap.mp (List.mem_of_getLast? hlast)
    cases i with
    | answer request reply => simp [Input.shared?] at hi
    | call c =>
      cases c with
      | configured payload =>
        obtain rfl := Option.some.inj hi
        exact Settings.usable_ofChangeNotification payload
      | _ => simp [Input.shared?, Call.shared?] at hi

private theorem usable_of_outcome? {request : Nat}
    (h : inputs[k]?.bind (Input.outcome? request) = some (.ok settings)) : settings.Usable := by
  obtain ⟨i, -, h⟩ := Option.bind_eq_some_iff.mp h
  cases i with
  | call c => simp [Input.outcome?] at h
  | answer other reply =>
    simp only [Input.outcome?] at h
    split_ifs at h
    exact Reply.usable_of_outcome (Option.some.inj h)

private theorem usable_of_joinedAt
    (h : joinedAt catalog inputs k uri = some (.settled (.ok settings))) : settings.Usable := by
  unfold joinedAt at h
  split at h
  · simp only [Option.some.injEq, Lookup.settled.injEq, Except.ok.injEq] at h
    exact h ▸ usable_sharedAt inputs (k + 1)
  · obtain ⟨⟨j, request⟩, -, h⟩ := Option.map_eq_some_iff.mp h
    cases hanswer : answeredWith inputs request j k with
    | none => simp [hanswer] at h
    | some o =>
      simp only [hanswer, Option.map_some, Option.getD_some, Lookup.settled.injEq] at h
      obtain ⟨a, -, -, hnow, -⟩ := answeredWith_eq_some_iff.mp (h ▸ hanswer)
      exact usable_of_outcome? hnow

private theorem usable_of_settledAt {m : Nat}
    (h : settledAt catalog inputs k uri m = some (.ok settings)) : settings.Usable := by
  unfold settledAt at h
  split_ifs at h with hself hlater
  · -- the lookup was settled when the pass joined it
    obtain ⟨lookup, hjoined, h⟩ := Option.bind_eq_some_iff.mp h
    cases lookup with
    | waiting request => simp [Lookup.outcome?] at h
    | settled o =>
      obtain rfl := Option.some.inj h
      exact usable_of_joinedAt hjoined
  · -- its request is answered now
    obtain ⟨request, -, h⟩ := Option.bind_eq_some_iff.mp h
    exact usable_of_outcome? h

private theorem usable_of_mem_settling (h : (uri, .ok settings) ∈ settling catalog inputs k) :
    settings.Usable := by
  simp only [settling, List.mem_flatMap, List.mem_map, Option.mem_toList, Prod.mk.injEq] at h
  obtain ⟨j, -, other, -, o, hsettled, rfl, rfl⟩ := h
  exact usable_of_settledAt hsettled

end Runs

/-- A limit of zero reaches no pass, in every run. The value for all documents, the outcome of every
request and what the lookup of a pass comes to have a limit between one and the greatest number of
32 bits. So for each publication there are such settings, those of a pass that ends with it, and it
holds as many diagnostics as the document then stored has words of two or more capitals, up to the
limit; it is empty if and only if there is no such word. -/
theorem empty_publication_is_clean (catalog : Catalog) (inputs : List Input) :
    (∀ k, (stateAt catalog inputs k).cache.shared.Usable ∧
      ∀ (request : Nat) (settings : Settings),
        (stateAt catalog inputs k).cache.outcomes[request]? = some (some (.ok settings)) →
          settings.Usable) ∧
    (∀ k uri m settings, settledAt catalog inputs k uri m = some (.ok settings) →
      settings.Usable) ∧
    ∀ k uri diagnostics, Effect.publish uri diagnostics ∈ effectsAt catalog inputs k →
      ∃ d settings, (stateAt catalog inputs (k + 1)).find? uri = some d ∧
        (uri, .ok settings) ∈ settling catalog inputs k ∧ settings.Usable ∧
        diagnostics.length = min settings.maxNumberOfProblems
          (Set.ncard {b : Nat × Nat | Text.LoudBetween d.text b.1 b.2}) ∧
        (diagnostics = [] ↔ ∀ i j, ¬Text.LoudBetween d.text i j) := by
  refine ⟨fun k => ?_, fun k uri m settings => usable_of_settledAt,
    fun k uri diagnostics h => ?_⟩
  · have hsound := sound_stateAt catalog inputs k
    exact ⟨hsound.shared, hsound.settled⟩
  · obtain ⟨d, settings, hsettling, hfind, rfl⟩ := exists_settling_of_publish h
    have husable := usable_of_mem_settling hsettling
    exact ⟨d, settings, hfind, hsettling, husable, Document.length_validate d settings _,
      Document.validate_eq_nil_iff husable.1⟩

end ClassPad.Server
