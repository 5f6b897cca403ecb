import Mathlib.Data.List.Basic
import ClassPad.Proofs.Run
import ClassPad.Proofs.Server.Step

/-!
Runs of the server, in which calls and answers come in any order, and what the inputs alone say of
them: which documents are open and what they hold, which flags are in force, where the settings come
from, and for which documents an input starts a pass. The state of the server is as the inputs say.
-/

set_option autoImplicit false
set_option relaxedAutoImplicit false

namespace ClassPad

def Flags.scope (flags : Flags) : Scope := if flags.configuration then .perResource else .global

theorem Flags.scope_eq_perResource_iff {flags : Flags} :
    flags.scope = .perResource ↔ flags.configuration = true := by
  rw [scope]
  split_ifs with h <;> simp [h]

namespace Call

def capabilities? : Call → Option ClientCapabilities
  | .negotiate capabilities => some capabilities
  | _ => none

def shared? : Call → Option Settings
  | .configured payload => some (Settings.ofChangeNotification payload)
  | _ => none

theorem eq_negotiate_of_capabilities? {c : Call} {capabilities : ClientCapabilities}
    (h : c.capabilities? = some capabilities) : c = .negotiate capabilities := by
  cases c with
  | negotiate other =>
    obtain rfl := Option.some.inj h
    rfl
  | _ => simp [capabilities?] at h

end Call

namespace Server

/-- What reaches a server: a call, or the answer to one of its requests. -/
inductive Input where
  | call (call : Call)
  | answer (request : Nat) (reply : Reply)

def react (s : Server) : Input → Server × List Effect
  | .call c => ((s.call c).1, (s.call c).2.2)
  | .answer request reply => s.answer request reply

namespace Input

def opens (uri : Uri) : Input → Bool
  | .call c => c.opens uri
  | .answer _ _ => false

def changes (uri : Uri) : Input → Bool
  | .call c => c.changes uri
  | .answer _ _ => false

def closes (uri : Uri) : Input → Bool
  | .call c => c.closes uri
  | .answer _ _ => false

def configures : Input → Bool
  | .call c => c.configures
  | .answer _ _ => false

def capabilities? : Input → Option ClientCapabilities
  | .call c => c.capabilities?
  | .answer _ _ => none

def shared? : Input → Option Settings
  | .call c => c.shared?
  | .answer _ _ => none

def revise (uri : Uri) (d : Option Document) : Input → Option Document
  | .call c => c.revise uri d
  | .answer _ _ => d

def outcome? (request : Nat) : Input → Option Outcome
  | .answer other reply => if other = request then some reply.outcome else none
  | .call _ => none

end Input

section History

variable (inputs : List Input)

/-- A document is open before an input: it was opened and not closed since. -/
def OpenAt (uri : Uri) (k : Nat) : Prop :=
  ∃ j < k, inputs[j]?.any (Input.opens uri) ∧
    ∀ i < k, j < i → inputs[i]?.any (Input.closes uri) = false

instance (uri : Uri) (k : Nat) : Decidable (OpenAt inputs uri k) :=
  inferInstanceAs (Decidable (∃ j < k, inputs[j]?.any (Input.opens uri) ∧
    ∀ i < k, j < i → inputs[i]?.any (Input.closes uri) = false))

/-- An input starts a pass for a document: it opens it, or it changes it or the configuration while
it is open. -/
def Starts (uri : Uri) (k : Nat) : Prop :=
  inputs[k]?.any (Input.opens uri) ∨
    (inputs[k]?.any (Input.changes uri) ∨ inputs[k]?.any Input.configures) ∧
      OpenAt inputs uri k

instance (uri : Uri) (k : Nat) : Decidable (Starts inputs uri k) :=
  inferInstanceAs (Decidable (inputs[k]?.any (Input.opens uri) ∨
    (inputs[k]?.any (Input.changes uri) ∨ inputs[k]?.any Input.configures) ∧
      OpenAt inputs uri k))

/-- The open document with a given address before an input: what the inputs have made of it. -/
def documentAt (uri : Uri) (k : Nat) : Option Document :=
  (inputs.take k).foldl (fun d i => i.revise uri d) none

/-- The capabilities of the first negotiation before an input. -/
def negotiatedAt (k : Nat) : Option ClientCapabilities :=
  (inputs.take k).findSome? Input.capabilities?

def flagsAt (k : Nat) : Flags := ((negotiatedAt inputs k).map Flags.ofClient).getD {}

def scopeAt (k : Nat) : Scope := (flagsAt inputs k).scope

/-- The value for all documents before an input: the last one that came in. -/
def sharedAt (k : Nat) : Settings :=
  ((inputs.take k).filterMap Input.shared?).getLast?.getD .standard

end History

section Readings

variable (catalog : Catalog) (inputs : List Input)

def stateAt (k : Nat) : Server := Run.stateAt react { catalog := catalog } inputs k

def effectsAt (k : Nat) : List Effect := Run.doneAt react { catalog := catalog } inputs k

def startedAt (k : Nat) : List Uri :=
  match inputs[k]? with
  | some (.call c) => (stateAt catalog inputs k).starts c
  | _ => []

end Readings

/-! One input -/

theorem react_call (s : Server) (c : Call) :
    s.react (.call c) =
      ({ ((s.prepare c).startPasses (s.starts c)).1 with
          calls := ((s.prepare c).startPasses (s.starts c)).1.calls + 1 },
        s.notices c ++ ((s.prepare c).startPasses (s.starts c)).2) := by
  simp only [react, call_eq]

private theorem find?_react (s : Server) (i : Input) (uri : Uri) :
    (s.react i).1.find? uri = i.revise uri (s.find? uri) := by
  cases i with
  | call c =>
    rw [react_call, find?, documents_startPasses]
    exact find?_prepare s c uri
  | answer request reply =>
    rw [react, answer_eq]
    rfl

private theorem nodup_openUris_react {s : Server} (h : s.openUris.Nodup) (i : Input) :
    (s.react i).1.openUris.Nodup := by
  cases i with
  | call c =>
    rw [react_call, openUris, documents_startPasses]
    exact nodup_openUris_prepare h c
  | answer request reply =>
    rw [react, answer_eq]
    exact h

theorem mem_starts_iff {s : Server} {c : Call} {uri : Uri} :
    uri ∈ s.starts c ↔
      c.opens uri = true ∨ (c.changes uri = true ∨ c.configures = true) ∧
        (s.find? uri).isSome := by
  cases c with
  | opened other text version =>
    simp [starts, Call.opens, Call.changes, Call.configures, eq_comm (a := uri)]
  | changed other edits version =>
    simp only [starts, Call.opens, Call.changes, Call.configures, Bool.false_eq_true, false_or,
      or_false, decide_eq_true_eq]
    constructor
    · intro h
      split_ifs at h with hopen
      · obtain rfl := List.mem_singleton.mp h
        exact ⟨rfl, hopen⟩
      · simp at h
    · rintro ⟨rfl, hopen⟩
      simp [hopen]
  | configured payload =>
    simp [starts, Call.opens, Call.changes, Call.configures, isSome_find?_iff]
  | _ => simp [starts, Call.opens, Call.changes, Call.configures]

private theorem negotiated_prepare_eq (s : Server) (c : Call) :
    (s.prepare c).negotiated = s.negotiated.or (c.capabilities?.map Flags.ofClient) := by
  cases c with
  | negotiate capabilities =>
    simp only [prepare, Call.capabilities?]
    cases s.negotiated <;> rfl
  | changed uri edits version =>
    simp only [prepare, Call.capabilities?, Option.map_none, Option.or_none]
    cases s.find? uri <;> rfl
  | _ => exact (Option.or_none ..).symm

theorem negotiated_react (s : Server) (i : Input) :
    (s.react i).1.negotiated = s.negotiated.or (i.capabilities?.map Flags.ofClient) := by
  cases i with
  | call c =>
    rw [react_call]
    simp only [negotiated_startPasses]
    exact negotiated_prepare_eq s c
  | answer request reply =>
    rw [react, answer_eq]
    exact (Option.or_none ..).symm

/-! Flags and scope -/

/-- The scope is fixed together with the flags, and as they say. -/
def Matched (s : Server) : Prop := s.cache.fixed = s.negotiated.map Flags.scope

theorem Matched.scope_eq {s : Server} (h : Matched s) : s.cache.scope = s.flags.scope := by
  rw [SettingsCache.scope, h, flags]
  cases s.negotiated <;> rfl

theorem fixed_prepare_of_capabilities? {s : Server} {c : Call} (h : c.capabilities? = none) :
    (s.prepare c).cache.fixed = s.cache.fixed := by
  cases c with
  | negotiate capabilities => simp [Call.capabilities?] at h
  | changed uri edits version =>
    simp only [prepare]
    cases s.find? uri <;> rfl
  | configured payload =>
    simp only [prepare]
    cases s.cache.scope <;> rfl
  | _ => rfl

private theorem Matched.prepare {s : Server} (h : Matched s) (c : Call) :
    Matched (s.prepare c) := by
  rw [Matched, negotiated_prepare_eq]
  cases hnow : c.capabilities? with
  | none => rw [fixed_prepare_of_capabilities? hnow, Option.map_none, Option.or_none, h]
  | some capabilities =>
    obtain rfl := Call.eq_negotiate_of_capabilities? hnow
    have hfixed : s.cache.fixed = s.negotiated.map Flags.scope := h
    simp only [Server.prepare, SettingsCache.setScope, hfixed]
    cases s.negotiated <;> rfl

private theorem Matched.react {s : Server} (h : Matched s) (i : Input) : Matched (s.react i).1 := by
  cases i with
  | call c =>
    rw [react_call, Matched]
    simp only [fixed_startPasses, negotiated_startPasses]
    exact h.prepare c
  | answer request reply =>
    rw [Server.react, answer_eq, Matched, SettingsCache.fixed_answer]
    exact h

private theorem shared_prepare {s : Server} (h : s.cache.scope = .global) (c : Call) :
    (s.prepare c).cache.shared = c.shared?.getD s.cache.shared := by
  cases c with
  | changed uri edits version =>
    simp only [prepare]
    cases s.find? uri <;> rfl
  | configured payload =>
    simp only [prepare, h]
    rfl
  | _ => rfl

private theorem shared_react {s : Server} (h : s.cache.scope = .global) (i : Input) :
    (s.react i).1.cache.shared = i.shared?.getD s.cache.shared := by
  cases i with
  | call c =>
    rw [react_call]
    exact (shared_startPasses _ _).trans (shared_prepare h c)
  | answer request reply =>
    rw [react, answer_eq]
    exact SettingsCache.shared_answer request reply

/-! What the inputs say, input by input -/

section Succ

variable {inputs : List Input} {k : Nat} {i : Input}

private theorem openAt_succ_iff {uri : Uri} :
    OpenAt inputs uri (k + 1) ↔
      inputs[k]?.any (Input.opens uri) = true ∨
        OpenAt inputs uri k ∧ inputs[k]?.any (Input.closes uri) = false := by
  constructor
  · rintro ⟨j, hj, hopen, hkept⟩
    rcases Nat.lt_succ_iff_lt_or_eq.mp hj with hlt | rfl
    · exact .inr ⟨⟨j, hlt, hopen, fun i hi => hkept i (Nat.lt_succ_of_lt hi)⟩,
        hkept k (Nat.lt_succ_self k) hlt⟩
    · exact .inl hopen
  · rintro (hopen | ⟨⟨j, hj, hopen, hkept⟩, hnow⟩)
    · exact ⟨k, Nat.lt_succ_self k, hopen, fun i hi hki => by omega⟩
    · refine ⟨j, Nat.lt_succ_of_lt hj, hopen, fun i hi hji => ?_⟩
      rcases Nat.lt_succ_iff_lt_or_eq.mp hi with hlt | rfl
      · exact hkept i hlt hji
      · exact hnow

private theorem documentAt_succ (hi : inputs[k]? = some i) (uri : Uri) :
    documentAt inputs uri (k + 1) = i.revise uri (documentAt inputs uri k) := by
  simp only [documentAt, List.take_add_one, hi, Option.toList_some, List.foldl_append,
    List.foldl_cons, List.foldl_nil]

theorem negotiatedAt_succ (inputs : List Input) (k : Nat) :
    negotiatedAt inputs (k + 1) =
      (negotiatedAt inputs k).or (inputs[k]?.bind Input.capabilities?) := by
  rw [negotiatedAt, List.take_add_one, List.findSome?_append, negotiatedAt]
  cases inputs[k]? <;> simp

theorem negotiatedAt_eq_none_iff :
    negotiatedAt inputs k = none ↔ ∀ j < k, inputs[j]?.bind Input.capabilities? = none := by
  induction k with
  | zero => simp [negotiatedAt]
  | succ k ih => rw [negotiatedAt_succ, Option.or_eq_none_iff, ih, Nat.forall_lt_succ_right]

private theorem sharedAt_succ (hi : inputs[k]? = some i) :
    sharedAt inputs (k + 1) = i.shared?.getD (sharedAt inputs k) := by
  simp only [sharedAt, List.take_add_one, hi, Option.toList_some, List.filterMap_append]
  cases hnow : i.shared? <;> simp [hnow]

theorem scopeAt_of_succ (h : scopeAt inputs (k + 1) = .global) : scopeAt inputs k = .global := by
  rw [scopeAt, flagsAt, negotiatedAt_succ] at h
  rw [scopeAt, flagsAt]
  cases hbefore : negotiatedAt inputs k with
  | none => rfl
  | some capabilities => rwa [hbefore] at h

theorem isSome_documentAt (uri : Uri) (hk : k ≤ inputs.length) :
    (documentAt inputs uri k).isSome ↔ OpenAt inputs uri k := by
  induction k with
  | zero => simp [documentAt, OpenAt]
  | succ k ih =>
    have hi : inputs[k]? = some inputs[k] := List.getElem?_eq_getElem hk
    rw [documentAt_succ hi, openAt_succ_iff, ← ih (Nat.le_of_succ_le hk), hi]
    cases inputs[k] with
    | call c => exact Call.isSome_revise uri _ c
    | answer request reply => simp [Input.revise, Input.opens, Input.closes]

end Succ

/-! Runs -/

section Runs

variable {catalog : Catalog} {inputs : List Input} {k : Nat}

theorem stateAt_succ (catalog : Catalog) {i : Input} (hi : inputs[k]? = some i) :
    stateAt catalog inputs (k + 1) = ((stateAt catalog inputs k).react i).1 :=
  Run.stateAt_succ react _ hi

theorem effectsAt_of_input (catalog : Catalog) {i : Input} (hi : inputs[k]? = some i) :
    effectsAt catalog inputs k = ((stateAt catalog inputs k).react i).2 :=
  Run.doneAt_of_input react _ hi

theorem lt_length_of_mem_effectsAt {effect : Effect} (h : effect ∈ effectsAt catalog inputs k) :
    k < inputs.length := by
  by_contra hle
  rw [effectsAt, Run.doneAt_of_length_le _ _ (Nat.le_of_not_lt hle)] at h
  simp at h

theorem startedAt_of_call {c : Call} (hi : inputs[k]? = some (.call c)) :
    startedAt catalog inputs k = (stateAt catalog inputs k).starts c := by
  simp only [startedAt, hi]

theorem startedAt_of_answer {request : Nat} {reply : Reply}
    (hi : inputs[k]? = some (.answer request reply)) : startedAt catalog inputs k = [] := by
  simp only [startedAt, hi]

theorem find?_stateAt (catalog : Catalog) (hk : k ≤ inputs.length) (uri : Uri) :
    (stateAt catalog inputs k).find? uri = documentAt inputs uri k := by
  refine Run.stateAt_induction react { catalog := catalog }
    (P := fun k s => s.find? uri = documentAt inputs uri k) rfl (fun k i hi h => ?_) hk
  rw [find?_react, documentAt_succ hi, h]

theorem isSome_find?_stateAt (catalog : Catalog) (hk : k ≤ inputs.length) (uri : Uri) :
    ((stateAt catalog inputs k).find? uri).isSome ↔ OpenAt inputs uri k := by
  rw [find?_stateAt catalog hk, isSome_documentAt uri hk]

theorem nodup_openUris_stateAt (catalog : Catalog) (inputs : List Input) (k : Nat) :
    (stateAt catalog inputs k).openUris.Nodup :=
  Run.stateAt_invariant react { catalog := catalog } (P := fun s => s.openUris.Nodup)
    List.nodup_nil (fun _ i h => nodup_openUris_react h i) k

theorem mem_startedAt_iff (catalog : Catalog) (hk : k < inputs.length) {uri : Uri} :
    uri ∈ startedAt catalog inputs k ↔ Starts inputs uri k := by
  have hi : inputs[k]? = some inputs[k] := List.getElem?_eq_getElem hk
  have hopen := isSome_find?_stateAt catalog (Nat.le_of_lt hk) uri
  generalize inputs[k] = i at hi
  cases i with
  | call c =>
    rw [startedAt_of_call hi, mem_starts_iff, hopen, Starts, hi]
    rfl
  | answer request reply =>
    rw [startedAt_of_answer hi, Starts, hi]
    simp [Input.opens, Input.changes, Input.configures]

theorem nodup_startedAt (catalog : Catalog) (inputs : List Input) (k : Nat) :
    (startedAt catalog inputs k).Nodup := by
  unfold startedAt
  split
  · exact nodup_starts (nodup_openUris_stateAt catalog inputs k) _
  · exact List.nodup_nil

private theorem negotiated_stateAt (catalog : Catalog) (hk : k ≤ inputs.length) :
    (stateAt catalog inputs k).negotiated = (negotiatedAt inputs k).map Flags.ofClient := by
  refine Run.stateAt_induction react { catalog := catalog }
    (P := fun k s => s.negotiated = (negotiatedAt inputs k).map Flags.ofClient) rfl
    (fun k i hi h => ?_) hk
  rw [negotiated_react, negotiatedAt_succ, hi, Option.bind_some, h]
  cases negotiatedAt inputs k <;> rfl

theorem flags_stateAt (catalog : Catalog) (hk : k ≤ inputs.length) :
    (stateAt catalog inputs k).flags = flagsAt inputs k := by
  rw [flags, negotiated_stateAt catalog hk, flagsAt]

theorem matched_stateAt (catalog : Catalog) (inputs : List Input) (k : Nat) :
    Matched (stateAt catalog inputs k) :=
  have hstart : Matched { catalog := catalog } := rfl
  Run.stateAt_invariant react _ hstart (fun _ i h => h.react i) k

theorem scope_stateAt (catalog : Catalog) (hk : k ≤ inputs.length) :
    (stateAt catalog inputs k).cache.scope = scopeAt inputs k := by
  rw [(matched_stateAt catalog inputs k).scope_eq, flags_stateAt catalog hk, scopeAt]

/-- While the settings are shared, the cache holds the value that came in last. -/
theorem shared_stateAt (catalog : Catalog) (hk : k ≤ inputs.length)
    (hscope : scopeAt inputs k = .global) :
    (stateAt catalog inputs k).cache.shared = sharedAt inputs k := by
  induction k with
  | zero => rfl
  | succ k ih =>
    have hi : inputs[k]? = some inputs[k] := List.getElem?_eq_getElem hk
    have hbefore := scopeAt_of_succ hscope
    have hk' := Nat.le_of_succ_le hk
    rw [stateAt_succ catalog hi, shared_react ((scope_stateAt catalog hk').trans hbefore),
      ih hk' hbefore, sharedAt_succ hi]

end Runs

end Server

end ClassPad
