import ClassPad.Proofs.Diagnostic.Exactness
import ClassPad.Proofs.Protocol.Capabilities
import ClassPad.Proofs.Server.Passes

/-!
The first negotiation decides. The flags of a server and the scope of its cache are set by the first
negotiation of a run and by no other, and they agree at all times. They settle what every
negotiation is answered, whether the client is asked for anything, and whether diagnostics have
notes.
-/

set_option autoImplicit false
set_option relaxedAutoImplicit false

namespace ClassPad.Server

def NegotiatesFirst (inputs : List Input) (capabilities : ClientCapabilities) (k : Nat) : Prop :=
  inputs[k]? = some (.call (.negotiate capabilities)) ∧
    ∀ j < k, inputs[j]?.bind Input.capabilities? = none

def answerAt (catalog : Catalog) (inputs : List Input) (k : Nat) : Option Answer :=
  match inputs[k]? with
  | some (.call c) => some ((stateAt catalog inputs k).call c).2.1
  | _ => none

/-! The first negotiation -/

section First

variable {inputs : List Input} {k : Nat} {capabilities : ClientCapabilities}

private theorem eq_negotiate_of_capabilities? {i : Input}
    (h : i.capabilities? = some capabilities) : i = .call (.negotiate capabilities) := by
  cases i with
  | call c => exact congrArg Input.call (Call.eq_negotiate_of_capabilities? h)
  | answer request reply => simp [Input.capabilities?] at h

private theorem negotiatesFirst_iff :
    NegotiatesFirst inputs capabilities k ↔
      negotiatedAt inputs k = none ∧ inputs[k]?.bind Input.capabilities? = some capabilities := by
  rw [NegotiatesFirst, negotiatedAt_eq_none_iff, and_comm, Option.bind_eq_some_iff]
  refine and_congr_right fun _ => ⟨fun hi => ⟨_, hi, rfl⟩, ?_⟩
  rintro ⟨i, hi, hnow⟩
  rw [hi, eq_negotiate_of_capabilities? hnow]

private theorem negotiatedAt_eq_some_iff :
    negotiatedAt inputs k = some capabilities ↔
      ∃ first < k, NegotiatesFirst inputs capabilities first := by
  induction k with
  | zero => simp [negotiatedAt]
  | succ k ih =>
    rw [negotiatedAt_succ, Option.or_eq_some_iff, ih, ← negotiatesFirst_iff]
    constructor
    · rintro (⟨first, hlt, hfirst⟩ | hnow)
      · exact ⟨first, Nat.lt_succ_of_lt hlt, hfirst⟩
      · exact ⟨k, Nat.lt_succ_self k, hnow⟩
    · rintro ⟨first, hlt, hfirst⟩
      rcases Nat.lt_succ_iff_lt_or_eq.mp hlt with hlt | rfl
      · exact .inl ⟨first, hlt, hfirst⟩
      · exact .inr hfirst

end First

/-! What is sent -/

private theorem mem_startPass {s : Server} {uri : Uri} {effect : Effect}
    (h : effect ∈ (s.startPass uri).2) :
    isVerdict effect = true ∨
      (∃ number, effect = .request number uri) ∧ s.cache.scope = .perResource := by
  cases hfind : s.find? uri with
  | none =>
    rw [startPass_of_not_open hfind] at h
    exact absurd h List.not_mem_nil
  | some d =>
    have hopen : (s.find? uri).isSome := by simp [hfind]
    by_cases hknown : s.cache.Known uri
    · rw [startPass_of_known hopen hknown, List.mem_flatMap] at h
      obtain ⟨o, -, hmem⟩ := h
      rw [← verdicts_conclude] at hmem
      exact .inl (List.mem_filter.mp hmem).2
    · rw [startPass_of_not_known hopen hknown, List.mem_singleton] at h
      exact .inr ⟨⟨_, h⟩, (SettingsCache.not_known_iff.mp hknown).1⟩

private theorem mem_startPasses {s : Server} {uris : List Uri} {effect : Effect}
    (h : effect ∈ (s.startPasses uris).2) :
    isVerdict effect = true ∨
      (∃ number uri, effect = .request number uri) ∧ s.cache.scope = .perResource := by
  induction uris generalizing s with
  | nil => exact absurd h List.not_mem_nil
  | cons uri rest ih =>
    rw [startPasses_cons, List.mem_append] at h
    rcases h with hfirst | hrest
    · rcases mem_startPass hfirst with hverdict | ⟨⟨number, hrequest⟩, hscope⟩
      · exact .inl hverdict
      · exact .inr ⟨⟨number, uri, hrequest⟩, hscope⟩
    · have hnext := ih hrest
      rwa [SettingsCache.scope, fixed_startPass] at hnext

private theorem mem_notices {s : Server} {c : Call} {effect : Effect} (h : effect ∈ s.notices c) :
    (∃ level message, effect = .log level message) ∨
      effect = .register ∧ s.flags.configuration = true := by
  cases c with
  | ready =>
    rw [notices, List.mem_append, List.mem_singleton] at h
    rcases h with hregister | hlog
    · split_ifs at hregister with hflag
      · exact .inr ⟨List.mem_singleton.mp hregister, hflag⟩
      · exact absurd hregister List.not_mem_nil
    · exact .inl ⟨_, _, hlog⟩
  | foldersChanged => exact .inl ⟨_, _, List.mem_singleton.mp h⟩
  | filesChanged => exact .inl ⟨_, _, List.mem_singleton.mp h⟩
  | _ => exact absurd h List.not_mem_nil

private theorem capabilities?_of_mem_react {s : Server} {i : Input} {effect : Effect}
    (h : effect ∈ (s.react i).2) : i.capabilities? = none := by
  cases hnow : i.capabilities? with
  | none => rfl
  | some capabilities =>
    -- a negotiation sends nothing
    obtain rfl := eq_negotiate_of_capabilities? hnow
    rw [react_call] at h
    exact absurd h List.not_mem_nil

/-- Of all that a server does, requests go with settings asked for document by document, and a
registration with the flag for them. -/
theorem mem_react {s : Server} {i : Input} {effect : Effect} (h : effect ∈ (s.react i).2) :
    isVerdict effect = true ∨ (∃ level message, effect = .log level message) ∨
      (∃ number uri, effect = .request number uri) ∧ s.cache.scope = .perResource ∨
      effect = .register ∧ s.flags.configuration = true := by
  cases i with
  | answer request reply =>
    rw [react, answer_eq, List.mem_flatMap] at h
    obtain ⟨p, -, hmem⟩ := h
    rw [← verdicts_conclude] at hmem
    exact .inl (List.mem_filter.mp hmem).2
  | call c =>
    have hnow : c.capabilities? = none := capabilities?_of_mem_react h
    rw [react_call, List.mem_append] at h
    rcases h with hnotice | hpass
    · rcases mem_notices hnotice with hlog | hregister
      · exact .inr (.inl hlog)
      · exact .inr (.inr (.inr hregister))
    · rcases mem_startPasses hpass with hverdict | ⟨hrequest, hscope⟩
      · exact .inl hverdict
      · rw [SettingsCache.scope, fixed_prepare_of_capabilities? hnow] at hscope
        exact .inr (.inr (.inl ⟨hrequest, hscope⟩))

/-! Runs -/

section Runs

variable {catalog : Catalog} {inputs : List Input} {k : Nat} {capabilities : ClientCapabilities}

private theorem scope_stateAt_iff (catalog : Catalog) (inputs : List Input) (k : Nat) :
    (stateAt catalog inputs k).cache.scope = .perResource ↔
      (stateAt catalog inputs k).flags.configuration = true := by
  rw [(matched_stateAt catalog inputs k).scope_eq, Flags.scope_eq_perResource_iff]

private theorem flags_of_first {first : Nat} (h : NegotiatesFirst inputs capabilities first)
    (hk : k ≤ inputs.length) (hlt : first < k) :
    (stateAt catalog inputs k).flags = Flags.ofClient capabilities := by
  rw [flags_stateAt catalog hk, flagsAt, negotiatedAt_eq_some_iff.mpr ⟨first, hlt, h⟩]
  rfl

private theorem answerAt_of_negotiate (hi : inputs[k]? = some (.call (.negotiate capabilities))) :
    answerAt catalog inputs k = some (.capabilities (stateAt catalog inputs (k + 1)).flags) := by
  rw [stateAt_succ catalog hi]
  simp only [answerAt, hi, react, call_eq]
  rfl

private theorem exists_first_of_configuration (hk : k ≤ inputs.length)
    (h : (stateAt catalog inputs k).flags.configuration = true) :
    ∃ first < k, ∃ capabilities, NegotiatesFirst inputs capabilities first ∧
      ∃ w, capabilities.workspace = some w ∧ w.configuration = some true := by
  rw [flags_stateAt catalog hk, flagsAt] at h
  cases hnegotiated : negotiatedAt inputs k with
  | none => simp [hnegotiated] at h
  | some capabilities =>
    obtain ⟨first, hlt, hfirst⟩ := negotiatedAt_eq_some_iff.mp hnegotiated
    rw [hnegotiated] at h
    exact ⟨first, hlt, capabilities, hfirst, Flags.configuration_ofClient.mp h⟩

private theorem configuration_of_asked {effect : Effect} (h : effect ∈ effectsAt catalog inputs k)
    (hasked : effect = .register ∨ ∃ number uri, effect = .request number uri) :
    (stateAt catalog inputs k).flags.configuration = true := by
  have hi : inputs[k]? = some (inputs.get ⟨k, lt_length_of_mem_effectsAt h⟩) :=
    List.getElem?_eq_getElem _
  rw [effectsAt_of_input catalog hi] at h
  rcases mem_react h with hverdict | ⟨level, message, rfl⟩ | ⟨-, hscope⟩ | ⟨-, hflag⟩
  · rcases hasked with rfl | ⟨number, uri, rfl⟩ <;> simp [isVerdict] at hverdict
  · simp at hasked
  · exact (scope_stateAt_iff catalog inputs k).mp hscope
  · exact hflag

private theorem flags_of_mem_effectsAt {effect : Effect} (h : effect ∈ effectsAt catalog inputs k) :
    (stateAt catalog inputs (k + 1)).flags = (stateAt catalog inputs k).flags := by
  have hi : inputs[k]? = some (inputs.get ⟨k, lt_length_of_mem_effectsAt h⟩) :=
    List.getElem?_eq_getElem _
  rw [effectsAt_of_input catalog hi] at h
  rw [stateAt_succ catalog hi, flags, negotiated_react, capabilities?_of_mem_react h,
    Option.map_none, Option.or_none, flags]

end Runs

/-- The first negotiation decides for the whole run, whatever comes before and after it. Until then
no flag is set, and ever after the flags are those of the capabilities that it brought; each
negotiation is answered by them. Settings are asked for document by document if and only if the
flags say so. A request or a registration is sent only if the first negotiation, made before,
declares that settings can be asked for. The diagnostics of a publication have notes if and only if
the flag for them is set at that time: two of them, at the place of the diagnostic.

Every client has flags: each is set if and only if the client declares it as true. What a client
declares is read back as it is sent, and in whatever form it is sent, a flag is set if and only if
true is given at the end of its path. -/
theorem first_negotiation_decides (catalog : Catalog) (inputs : List Input) :
    (∀ k ≤ inputs.length, (∀ j < k, inputs[j]?.bind Input.capabilities? = none) →
      (stateAt catalog inputs k).flags = ⟨false, false, false⟩) ∧
    (∀ first capabilities, NegotiatesFirst inputs capabilities first →
      (∀ k ≤ inputs.length, first < k →
        (stateAt catalog inputs k).flags = Flags.ofClient capabilities) ∧
      ∀ k other, inputs[k]? = some (.call (.negotiate other)) →
        answerAt catalog inputs k = some (.capabilities (Flags.ofClient capabilities))) ∧
    (∀ k, (stateAt catalog inputs k).cache.scope = .perResource ↔
      (stateAt catalog inputs k).flags.configuration = true) ∧
    (∀ k, ∀ effect ∈ effectsAt catalog inputs k,
      (effect = .register ∨ ∃ number uri, effect = .request number uri) →
        ∃ first < k, ∃ capabilities, NegotiatesFirst inputs capabilities first ∧
          ∃ w, capabilities.workspace = some w ∧ w.configuration = some true) ∧
    (∀ k uri diagnostics, Effect.publish uri diagnostics ∈ effectsAt catalog inputs k →
      (stateAt catalog inputs (k + 1)).flags = (stateAt catalog inputs k).flags ∧
      ∀ g ∈ diagnostics,
        (g.notes.isSome ↔ (stateAt catalog inputs k).flags.relatedInformation = true) ∧
        ∀ notes, g.notes = some notes →
          notes.length = 2 ∧ ∀ n ∈ notes, n.uri = uri ∧ n.span = g.span) ∧
    (∀ c : ClientCapabilities,
      ((Flags.ofClient c).configuration = true ↔
        ∃ w, c.workspace = some w ∧ w.configuration = some true) ∧
      ((Flags.ofClient c).workspaceFolders = true ↔
        ∃ w, c.workspace = some w ∧ w.workspaceFolders = some true) ∧
      ((Flags.ofClient c).relatedInformation = true ↔
        ∃ d, c.textDocument = some d ∧ ∃ p, d.publishDiagnostics = some p ∧
          p.relatedInformation = some true) ∧
      (Protocol.clientCapabilities.read c.toJson).map ClientCapabilities.ofNormal = .ok c) ∧
    ∀ value normal, Protocol.clientCapabilities.read value = .ok normal →
      ((Flags.ofClient (.ofNormal normal)).configuration = true ↔
        Protocol.clientCapabilities.givenAt ["workspace", "configuration"] value =
          some (.bool true)) ∧
      ((Flags.ofClient (.ofNormal normal)).workspaceFolders = true ↔
        Protocol.clientCapabilities.givenAt ["workspace", "workspaceFolders"] value =
          some (.bool true)) ∧
      ((Flags.ofClient (.ofNormal normal)).relatedInformation = true ↔
        Protocol.clientCapabilities.givenAt
          ["textDocument", "publishDiagnostics", "relatedInformation"] value =
            some (.bool true)) := by
  refine ⟨fun k hk hnone => ?_, fun first capabilities h => ⟨fun k hk => flags_of_first h hk, ?_⟩,
    scope_stateAt_iff catalog inputs, fun k effect h hasked => ?_,
    fun k uri diagnostics h => ⟨flags_of_mem_effectsAt h, fun g hg => ?_⟩,
    fun c => ⟨Flags.configuration_ofClient, Flags.workspaceFolders_ofClient,
      Flags.relatedInformation_ofClient, c.read_toJson⟩,
    fun value normal => Flags.ofClient_of_read⟩
  · rw [flags_stateAt catalog hk, flagsAt, negotiatedAt_eq_none_iff.mpr hnone]
    rfl
  · intro k other hi
    have hle : first ≤ k := by
      by_contra hgt
      have hnone := h.2 k (Nat.lt_of_not_le hgt)
      rw [hi] at hnone
      exact absurd hnone (by simp [Input.capabilities?, Call.capabilities?])
    have hk : k < inputs.length := (List.getElem?_eq_some_iff.mp hi).1
    rw [answerAt_of_negotiate hi, flags_of_first h hk (Nat.lt_succ_of_le hle)]
  · exact exists_first_of_configuration (Nat.le_of_lt (lt_length_of_mem_effectsAt h))
      (configuration_of_asked h hasked)
  · obtain ⟨d, settings, -, hfind, rfl⟩ := exists_settling_of_publish h
    have huri := uri_eq_of_find? hfind
    rw [Document.notes_of_mem_validate hg, flags_of_mem_effectsAt h, huri]
    split_ifs with hrelated
    · simp [hrelated, Diagnostic.remarks]
    · simp [hrelated]

/-- A client whose capabilities come partly as an array, and then those of a client without any. -/
theorem first_negotiation_decides_over_second :
    let value : Json := .obj
      [ ("textDocument",
          .obj [("publishDiagnostics", .obj [("relatedInformation", .bool true)])]),
        ("workspace", .arr (List.replicate 7 .null ++ .bool true :: List.replicate 6 .null)) ]
    let declared : ClientCapabilities :=
      { workspace := some { configuration := some true }
        textDocument := some { publishDiagnostics := some { relatedInformation := some true } } }
    let inputs : List Input := [.call .ready, .call (.negotiate declared), .call (.negotiate {})]
    (Protocol.clientCapabilities.read value).map ClientCapabilities.ofNormal = .ok declared ∧
      NegotiatesFirst inputs declared 1 ∧
      (stateAt ⟨[]⟩ inputs 1).flags = ⟨false, false, false⟩ ∧
      (stateAt ⟨[]⟩ inputs 3).flags = ⟨true, false, true⟩ ∧
      answerAt ⟨[]⟩ inputs 2 = some (.capabilities ⟨true, false, true⟩) := by
  intro value declared inputs
  have hnone : ∀ j < 1, inputs[j]?.bind Input.capabilities? = none := by decide
  have hfirst : NegotiatesFirst inputs declared 1 := ⟨rfl, hnone⟩
  obtain ⟨hbefore, hafter, -⟩ := first_negotiation_decides ⟨[]⟩ inputs
  exact ⟨rfl, hfirst, hbefore 1 (by decide) hnone,
    (hafter 1 declared hfirst).1 3 (Nat.le_refl 3) (by decide),
    (hafter 1 declared hfirst).2 2 {} rfl⟩

end ClassPad.Server
