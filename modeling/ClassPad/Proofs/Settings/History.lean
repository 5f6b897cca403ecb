import Mathlib.Data.Nat.Count
import Mathlib.Data.Nat.Find
import ClassPad.Settings.Service

/-!
What a history of inputs says about the lookups of a settings service, read without running it. In
per-resource scope a lookup of a document sends a request unless there was one since the entry of
the document was last dropped; otherwise it joins the request of the latest lookup that sent one.
The first answer that names a request after it was sent is its answer.
-/

set_option autoImplicit false
set_option relaxedAutoImplicit false

namespace ClassPad.SettingsService

namespace Input

def scope? : Input → Option Scope
  | .setScope scope => some scope
  | _ => none

def shared? : Input → Option Settings
  | .setShared settings => some settings
  | _ => none

def isGet : Input → Bool
  | .get _ => true
  | _ => false

def drops (uri : Uri) : Input → Bool
  | .invalidateAll => true
  | .forget other => other = uri
  | _ => false

end Input

section History

variable (inputs : List Input)

/-- The scope in force before an input: the first one that was fixed. -/
def scopeAt (k : Nat) : Scope := ((inputs.take k).findSome? Input.scope?).getD .global

/-- The value for all documents before an input: the last one that was set. -/
def sharedAt (k : Nat) : Settings :=
  ((inputs.take k).filterMap Input.shared?).getLast?.getD .standard

def lookupNumber (k : Nat) : Nat := (inputs.take k).countP Input.isGet

def lookup? (k : Nat) : Option Uri :=
  match scopeAt inputs k, inputs[k]? with
  | .perResource, some (.get uri) => some uri
  | _, _ => none

def Dropped (uri : Uri) (j k : Nat) : Prop :=
  ∃ m < k, j < m ∧ inputs[m]?.any (Input.drops uri)

instance (uri : Uri) (j k : Nat) : Decidable (Dropped inputs uri j k) :=
  inferInstanceAs (Decidable (∃ m < k, j < m ∧ inputs[m]?.any (Input.drops uri)))

/-- An input looks up a document for the first time since its entry was dropped. -/
def Sends (uri : Uri) (k : Nat) : Prop :=
  lookup? inputs k = some uri ∧ ∀ j < k, lookup? inputs j = some uri → Dropped inputs uri j k

instance (uri : Uri) (k : Nat) : Decidable (Sends inputs uri k) :=
  inferInstanceAs (Decidable (lookup? inputs k = some uri ∧
    ∀ j < k, lookup? inputs j = some uri → Dropped inputs uri j k))

def isSender (k : Nat) : Bool :=
  match lookup? inputs k with
  | none => false
  | some uri => Sends inputs uri k

/-- The number of requests before an input, which is the number of the next request. -/
def requestNumber (k : Nat) : Nat := Nat.count (fun j => isSender inputs j) k

/-- The lookup `k` of a document joins the request of the latest lookup `j` that sends one. -/
def Joins (uri : Uri) (k j : Nat) : Prop :=
  lookup? inputs k = some uri ∧ Sends inputs uri j ∧ j ≤ k ∧
    ∀ m ≤ k, j < m → ¬Sends inputs uri m

/-- The request that the lookup `j` sends is answered at `a`: the input there is the first one after
`j` that answers it. -/
def Answers (j a : Nat) (reply : Reply) : Prop :=
  j < a ∧ inputs[a]? = some (.answer (requestNumber inputs j) reply) ∧
    ∀ i < a, j < i → ∀ other, inputs[i]? ≠ some (.answer (requestNumber inputs j) other)

def Pending (j k : Nat) : Prop := ∀ a < k, ∀ reply, ¬Answers inputs j a reply

def Answered (j k : Nat) (outcome : Outcome) : Prop :=
  ∃ a < k, ∃ reply, Answers inputs j a reply ∧ reply.outcome = outcome

end History

variable {inputs : List Input}

theorem lookup?_eq_some_iff {k : Nat} {uri : Uri} :
    lookup? inputs k = some uri ↔
      inputs[k]? = some (.get uri) ∧ scopeAt inputs k = .perResource := by
  unfold lookup?
  split
  · rename_i other hscope hget
    simp [hscope, hget]
  · rename_i hother
    simp only [reduceCtorEq, false_iff]
    rintro ⟨hget, hscope⟩
    exact hother uri hscope hget

private theorem isSender_iff {k : Nat} : isSender inputs k = true ↔ ∃ uri, Sends inputs uri k := by
  unfold isSender
  constructor
  · intro h
    split at h
    · simp at h
    · rename_i uri _
      exact ⟨uri, by simpa using h⟩
  · rintro ⟨uri, h⟩
    rw [h.1]
    simpa using h

theorem Sends.uri_eq {uri other : Uri} {k : Nat} (h : Sends inputs uri k)
    (h' : Sends inputs other k) : uri = other := by
  have := h.1.symm.trans h'.1
  exact Option.some.inj this

theorem Sends.requestNumber_lt {uri : Uri} {j k : Nat} (h : Sends inputs uri j) (hjk : j < k) :
    requestNumber inputs j < requestNumber inputs k :=
  Nat.count_strict_mono (isSender_iff.mpr ⟨uri, h⟩) hjk

theorem lookupNumber_lt {uri : Uri} {j k : Nat} (hj : inputs[j]? = some (.get uri))
    (hjk : j < k) : lookupNumber inputs j < lookupNumber inputs k := by
  have hle : (inputs.take (j + 1)).countP Input.isGet ≤ (inputs.take k).countP Input.isGet :=
    (List.take_sublist_take_left hjk).countP_le
  have hsucc : (inputs.take (j + 1)).countP Input.isGet = lookupNumber inputs j + 1 := by
    simp [List.take_add_one, hj, lookupNumber, Input.isGet]
  unfold lookupNumber at *
  omega

theorem eq_of_lookupNumber_eq {uri other : Uri} {i j : Nat} (hi : inputs[i]? = some (.get uri))
    (hj : inputs[j]? = some (.get other)) (h : lookupNumber inputs i = lookupNumber inputs j) :
    i = j := by
  rcases Nat.lt_trichotomy i j with hlt | heq | hgt
  · have := lookupNumber_lt hi hlt
    omega
  · exact heq
  · have := lookupNumber_lt hj hgt
    omega

/-! Dropped entries -/

theorem Dropped.mono {uri : Uri} {i j k l : Nat} (h : Dropped inputs uri j k) (hij : i ≤ j)
    (hkl : k ≤ l) : Dropped inputs uri i l := by
  obtain ⟨m, hm, hjm, hdrop⟩ := h
  exact ⟨m, by omega, by omega, hdrop⟩

private theorem not_drops_of_lookup? {uri other : Uri} {k : Nat}
    (h : lookup? inputs k = some uri) : inputs[k]?.any (Input.drops other) = false := by
  rw [(lookup?_eq_some_iff.mp h).1]
  rfl

theorem dropped_succ_iff {uri : Uri} {j k : Nat} (hjk : j < k) :
    Dropped inputs uri j (k + 1) ↔
      Dropped inputs uri j k ∨ inputs[k]?.any (Input.drops uri) = true := by
  constructor
  · rintro ⟨m, hm, hjm, hdrop⟩
    rcases Nat.lt_succ_iff_lt_or_eq.mp hm with hlt | rfl
    · exact .inl ⟨m, hlt, hjm, hdrop⟩
    · exact .inr hdrop
  · rintro (h | h)
    · exact h.mono le_rfl (Nat.le_succ k)
    · exact ⟨k, Nat.lt_succ_self k, hjk, h⟩

theorem not_dropped_self_succ (inputs : List Input) (uri : Uri) (k : Nat) :
    ¬Dropped inputs uri k (k + 1) := by
  rintro ⟨m, hm, hkm, -⟩
  omega

theorem Dropped.split {uri other : Uri} {i j k : Nat} (h : Dropped inputs uri i k)
    (hj : lookup? inputs j = some other) :
    Dropped inputs uri i j ∨ Dropped inputs uri j k := by
  obtain ⟨m, hm, him, hdrop⟩ := h
  rcases Nat.lt_trichotomy m j with hlt | rfl | hgt
  · exact .inl ⟨m, hlt, him, hdrop⟩
  · rw [not_drops_of_lookup? hj] at hdrop
    exact absurd hdrop Bool.false_ne_true
  · exact .inr ⟨m, hm, hgt, hdrop⟩

/-! Joined requests -/

/-- Every lookup goes back to one that sends, with no drop in between. -/
theorem exists_sends {uri : Uri} {k : Nat} (h : lookup? inputs k = some uri) :
    ∃ j ≤ k, Sends inputs uri j ∧ ¬Dropped inputs uri j k := by
  induction k using Nat.strong_induction_on with
  | _ k ih =>
    by_cases hsends : Sends inputs uri k
    · refine ⟨k, le_rfl, hsends, ?_⟩
      rintro ⟨m, hm, hkm, -⟩
      omega
    · have hearlier : ∃ i < k, lookup? inputs i = some uri ∧ ¬Dropped inputs uri i k := by
        by_contra hnone
        refine hsends ⟨h, fun i hi hlook => ?_⟩
        by_contra hdrop
        exact hnone ⟨i, hi, hlook, hdrop⟩
      obtain ⟨i, hik, hlook, hdrop⟩ := hearlier
      obtain ⟨j, hji, hj, hdrop'⟩ := ih i hik hlook
      refine ⟨j, hji.trans hik.le, hj, fun hd => ?_⟩
      exact (hd.split hlook).elim hdrop' hdrop

theorem joins_of_not_dropped {uri : Uri} {j k : Nat} (hk : lookup? inputs k = some uri)
    (hj : Sends inputs uri j) (hjk : j ≤ k) (hdrop : ¬Dropped inputs uri j k) :
    Joins inputs uri k j := by
  refine ⟨hk, hj, hjk, fun m hmk hjm hm => hdrop ?_⟩
  exact (hm.2 j hjm hj.1).mono le_rfl hmk

theorem exists_joins {uri : Uri} {k : Nat} (h : lookup? inputs k = some uri) :
    ∃ j, Joins inputs uri k j ∧ ¬Dropped inputs uri j k := by
  obtain ⟨j, hjk, hj, hdrop⟩ := exists_sends h
  exact ⟨j, joins_of_not_dropped h hj hjk hdrop, hdrop⟩

theorem Joins.unique {uri other : Uri} {i j k : Nat} (hi : Joins inputs uri k i)
    (hj : Joins inputs other k j) : i = j ∧ uri = other := by
  obtain rfl : uri = other := Option.some.inj (hi.1.symm.trans hj.1)
  refine ⟨?_, rfl⟩
  rcases Nat.lt_trichotomy i j with hlt | heq | hgt
  · exact absurd hj.2.1 (hi.2.2.2 j hj.2.2.1 hlt)
  · exact heq
  · exact absurd hi.2.1 (hj.2.2.2 i hi.2.2.1 hgt)

theorem Joins.not_dropped {uri : Uri} {j k : Nat} (h : Joins inputs uri k j) :
    ¬Dropped inputs uri j k := by
  obtain ⟨i, hi, hdrop⟩ := exists_joins h.1
  obtain ⟨rfl, -⟩ := h.unique hi
  exact hdrop

/-! Answers -/

theorem Answers.unique {j a b : Nat} {reply other : Reply} (ha : Answers inputs j a reply)
    (hb : Answers inputs j b other) : a = b ∧ reply = other := by
  have hab : a = b := by
    rcases Nat.lt_trichotomy a b with hlt | heq | hgt
    · exact absurd ha.2.1 (hb.2.2 a hlt ha.1 reply)
    · exact heq
    · exact absurd hb.2.1 (ha.2.2 b hgt hb.1 other)
  subst hab
  have := ha.2.1.symm.trans hb.2.1
  simp only [Option.some.injEq, Input.answer.injEq, true_and] at this
  exact ⟨rfl, this⟩

private theorem exists_answers {j i : Nat} {reply : Reply} (hji : j < i)
    (hi : inputs[i]? = some (.answer (requestNumber inputs j) reply)) :
    ∃ a ≤ i, ∃ first, Answers inputs j a first := by
  classical
  have hex : ∃ a, j < a ∧ ∃ r, inputs[a]? = some (.answer (requestNumber inputs j) r) :=
    ⟨i, hji, reply, hi⟩
  obtain ⟨hja, first, hfirst⟩ := Nat.find_spec hex
  refine ⟨Nat.find hex, Nat.find_min' hex ⟨hji, reply, hi⟩, first, hja, hfirst, ?_⟩
  intro m hm hjm other hother
  exact Nat.find_min hex hm ⟨hjm, other, hother⟩

/-- An input answers a request if it names it and nothing has answered it before. -/
theorem answers_iff {j k : Nat} {reply : Reply} :
    Answers inputs j k reply ↔
      j < k ∧ inputs[k]? = some (.answer (requestNumber inputs j) reply) ∧
        Pending inputs j k := by
  constructor
  · intro h
    refine ⟨h.1, h.2.1, fun a hak other ha => ?_⟩
    exact absurd ha.2.1 (h.2.2 a hak ha.1 other)
  · rintro ⟨hjk, hk, hpending⟩
    refine ⟨hjk, hk, fun i hik hji other hi => ?_⟩
    obtain ⟨a, hai, first, ha⟩ := exists_answers hji hi
    exact hpending a (hai.trans_lt hik) first ha

theorem pending_self_succ (inputs : List Input) (j : Nat) : Pending inputs j (j + 1) := by
  intro a ha reply h
  have := h.1
  omega

theorem pending_succ_iff {j k : Nat} :
    Pending inputs j (k + 1) ↔ Pending inputs j k ∧ ∀ reply, ¬Answers inputs j k reply := by
  constructor
  · intro h
    exact ⟨fun a ha => h a (Nat.lt_succ_of_lt ha), h k (Nat.lt_succ_self k)⟩
  · rintro ⟨hbefore, hnow⟩ a ha
    rcases Nat.lt_succ_iff_lt_or_eq.mp ha with hlt | rfl
    · exact hbefore a hlt
    · exact hnow

theorem answered_succ_iff {j k : Nat} {o : Outcome} :
    Answered inputs j (k + 1) o ↔
      Answered inputs j k o ∨ ∃ reply, Answers inputs j k reply ∧ reply.outcome = o := by
  constructor
  · rintro ⟨a, ha, reply, h⟩
    rcases Nat.lt_succ_iff_lt_or_eq.mp ha with hlt | rfl
    · exact .inl ⟨a, hlt, reply, h⟩
    · exact .inr ⟨reply, h⟩
  · rintro (⟨a, ha, h⟩ | h)
    · exact ⟨a, Nat.lt_succ_of_lt ha, h⟩
    · exact ⟨k, Nat.lt_succ_self k, h⟩

theorem pending_or_answered (inputs : List Input) (j k : Nat) :
    Pending inputs j k ∨ ∃ o, Answered inputs j k o := by
  by_cases h : ∃ a < k, ∃ reply, Answers inputs j a reply
  · obtain ⟨a, ha, reply, hreply⟩ := h
    exact .inr ⟨_, a, ha, reply, hreply, rfl⟩
  · exact .inl fun a ha reply hreply => h ⟨a, ha, reply, hreply⟩

/-! One more input -/

theorem not_sends_of_not_get {k : Nat} {i : Input} (hi : inputs[k]? = some i)
    (hget : i.isGet = false) (uri : Uri) : ¬Sends inputs uri k := by
  rintro ⟨hlook, -⟩
  obtain rfl : i = .get uri := Option.some.inj (hi.symm.trans (lookup?_eq_some_iff.mp hlook).1)
  simp [Input.isGet] at hget

theorem not_answers_of_get {j k : Nat} {uri : Uri} {reply : Reply}
    (hk : inputs[k]? = some (.get uri)) : ¬Answers inputs j k reply := by
  rintro ⟨-, h, -⟩
  simp [hk] at h

theorem requestNumber_succ_of_sends {uri : Uri} {k : Nat} (h : Sends inputs uri k) :
    requestNumber inputs (k + 1) = requestNumber inputs k + 1 := by
  simp [requestNumber, Nat.count_succ, isSender_iff.mpr ⟨uri, h⟩]

theorem requestNumber_succ_of_not_sends {k : Nat} (h : ∀ uri, ¬Sends inputs uri k) :
    requestNumber inputs (k + 1) = requestNumber inputs k := by
  have hnot : isSender inputs k = false := by
    rw [← Bool.not_eq_true, isSender_iff]
    rintro ⟨uri, hs⟩
    exact h uri hs
  simp [requestNumber, Nat.count_succ, hnot]

theorem lookupNumber_succ {k : Nat} {i : Input} (hi : inputs[k]? = some i) :
    lookupNumber inputs (k + 1) = lookupNumber inputs k + if i.isGet then 1 else 0 := by
  simp [lookupNumber, List.take_add_one, hi, List.countP_singleton]

end ClassPad.SettingsService
