import Mathlib.Tactic.Common
import ClassPad.Settings.Cache

/-!
What the operations of the settings cache do to its parts. A lookup changes the cache only when it
sends a request, and an answer only the outcome of its own request.
-/

set_option autoImplicit false
set_option relaxedAutoImplicit false

namespace ClassPad

namespace SettingsCache

variable {c : SettingsCache} {uri : Uri}

theorem get_of_global (h : c.scope = .global) : c.get uri = (c, .settled (.ok c.shared), none) := by
  simp only [get, h]

theorem get_of_entry {request : Nat} (h : c.scope = .perResource)
    (he : c.entries.lookup uri = some request) : c.get uri = (c, c.track request, none) := by
  simp only [get, h, he]

theorem get_of_no_entry (h : c.scope = .perResource) (he : c.entries.lookup uri = none) :
    c.get uri =
      ({ c with
          entries := (uri, c.outcomes.length) :: c.entries
          outcomes := c.outcomes ++ [none] },
        .waiting c.outcomes.length, some c.outcomes.length) := by
  simp only [get, h, he]

theorem track_of_answered {request : Nat} {o : Outcome}
    (h : c.outcomes[request]? = some (some o)) : c.track request = .settled o := by
  simp only [track, h]

theorem track_of_unanswered {request : Nat} (h : c.outcomes[request]? = some none) :
    c.track request = .waiting request := by
  simp only [track, h]

theorem lookup_cons {other : Uri} (request : Nat) (entries : List (Uri × Nat)) :
    ((uri, request) :: entries).lookup other =
      if other = uri then some request else entries.lookup other := by
  rw [List.lookup_cons]
  by_cases h : other = uri
  · simp [h]
  · have hne : (other == uri) = false := by simpa using h
    simp only [hne, if_neg h]

theorem lookup_filter_ne {other : Uri} (entries : List (Uri × Nat)) :
    (entries.filter fun e => e.1 ≠ uri).lookup other =
      if other = uri then none else entries.lookup other := by
  induction entries with
  | nil => simp
  | cons e rest ih =>
    obtain ⟨key, request⟩ := e
    by_cases hkey : key = uri
    · subst hkey
      rw [List.filter_cons_of_neg (by simp), ih, lookup_cons]
      split_ifs <;> rfl
    · rw [List.filter_cons_of_pos (by simpa using hkey), lookup_cons, lookup_cons, ih]
      by_cases h : other = key
      · have hne : other ≠ uri := fun he => hkey (h.symm.trans he)
        rw [if_pos h, if_neg hne, if_pos h]
      · rw [if_neg h, if_neg h]

/-- An answer settles its request if that is open, and leaves the others as they are. -/
theorem outcomes_answer (request : Nat) (reply : Reply) (r : Nat) :
    (c.answer request reply).outcomes[r]? =
      if r = request ∧ c.outcomes[r]? = some none then some (some reply.outcome)
      else c.outcomes[r]? := by
  unfold answer
  split
  · rename_i hopen
    by_cases hr : r = request
    · subst hr
      have hlt : r < c.outcomes.length := (List.getElem?_eq_some_iff.mp hopen).1
      rw [if_pos ⟨rfl, hopen⟩]
      simp [hlt]
    · simp [hr, List.getElem?_set_ne (Ne.symm hr)]
  · rename_i hnot
    split_ifs with h
    · exact absurd (h.1 ▸ h.2) (by simpa using hnot)
    · rfl

@[simp] theorem fixed_answer (request : Nat) (reply : Reply) :
    (c.answer request reply).fixed = c.fixed := by
  unfold answer
  split <;> rfl

@[simp] theorem shared_answer (request : Nat) (reply : Reply) :
    (c.answer request reply).shared = c.shared := by
  unfold answer
  split <;> rfl

@[simp] theorem entries_answer (request : Nat) (reply : Reply) :
    (c.answer request reply).entries = c.entries := by
  unfold answer
  split <;> rfl

@[simp] theorem length_outcomes_answer (request : Nat) (reply : Reply) :
    (c.answer request reply).outcomes.length = c.outcomes.length := by
  unfold answer
  split <;> simp

/-! What a lookup would join -/

/-- How far the lookup of a document that is made now has come. -/
def joined (c : SettingsCache) (uri : Uri) : Lookup := (c.get uri).2.1

/-- A lookup of a document would send no request. -/
def Known (c : SettingsCache) (uri : Uri) : Prop :=
  c.scope = .global ∨ ∃ request, c.entries.lookup uri = some request

instance (c : SettingsCache) (uri : Uri) : Decidable (c.Known uri) :=
  decidable_of_iff (c.scope = .global ∨ (c.entries.lookup uri).isSome) (by
    simp only [Known, Option.isSome_iff_exists])

theorem joined_of_global (h : c.scope = .global) : c.joined uri = .settled (.ok c.shared) := by
  rw [joined, get_of_global h]

theorem joined_of_entry {request : Nat} (h : c.scope = .perResource)
    (he : c.entries.lookup uri = some request) : c.joined uri = c.track request := by
  rw [joined, get_of_entry h he]

def send (c : SettingsCache) (uri : Uri) : SettingsCache :=
  { c with
    entries := (uri, c.outcomes.length) :: c.entries
    outcomes := c.outcomes ++ [none] }

@[simp] theorem scope_send : (c.send uri).scope = c.scope := rfl

theorem lookup_entries_send {other : Uri} :
    (c.send uri).entries.lookup other =
      if other = uri then some c.outcomes.length else c.entries.lookup other :=
  lookup_cons _ _

private theorem track_send (request : Nat) : (c.send uri).track request = c.track request := by
  unfold track send
  rcases Nat.lt_or_ge request c.outcomes.length with hlt | hge
  · rw [List.getElem?_append_left hlt]
  · rw [List.getElem?_append_right hge, List.getElem?_eq_none hge]
    cases request - c.outcomes.length with
    | zero => rfl
    | succ n => rfl

theorem known_send_of_ne {other : Uri} (h : other ≠ uri) :
    (c.send uri).Known other ↔ c.Known other := by
  rw [Known, Known, scope_send, lookup_entries_send, if_neg h]

theorem not_known_iff :
    ¬c.Known uri ↔ c.scope = .perResource ∧ c.entries.lookup uri = none := by
  constructor
  · intro h
    constructor
    · cases hscope : c.scope with
      | global => exact absurd (.inl hscope) h
      | perResource => rfl
    · cases he : c.entries.lookup uri with
      | none => rfl
      | some request => exact absurd (.inr ⟨request, he⟩) h
  · rintro ⟨hscope, he⟩ (hglobal | ⟨request, he'⟩)
    · simp [hscope] at hglobal
    · simp [he] at he'

theorem get_of_known (h : c.Known uri) : c.get uri = (c, c.joined uri, none) := by
  cases hscope : c.scope with
  | global => rw [get_of_global hscope, joined_of_global hscope]
  | perResource =>
    rcases h with hglobal | ⟨request, he⟩
    · simp [hscope] at hglobal
    · rw [get_of_entry hscope he, joined_of_entry hscope he]

theorem get_of_not_known (h : ¬c.Known uri) :
    c.get uri = (c.send uri, .waiting c.outcomes.length, some c.outcomes.length) := by
  obtain ⟨hscope, he⟩ := not_known_iff.mp h
  exact get_of_no_entry hscope he

theorem known_get_of_known {other : Uri} (h : c.Known other) : (c.get uri).1.Known other := by
  by_cases hknown : c.Known uri
  · rwa [get_of_known hknown]
  · rw [get_of_not_known hknown]
    rcases h with hglobal | ⟨request, he⟩
    · exact .inl hglobal
    · refine .inr ?_
      rw [lookup_entries_send]
      split_ifs
      · exact ⟨_, rfl⟩
      · exact ⟨request, he⟩

theorem joined_get_of_known {other : Uri} (h : c.Known other) :
    (c.get uri).1.joined other = c.joined other := by
  by_cases hknown : c.Known uri
  · rw [get_of_known hknown]
  · obtain ⟨hscope, -⟩ := not_known_iff.mp hknown
    rcases h with hglobal | ⟨request, he⟩
    · exact absurd (.inl hglobal) hknown
    · have hne : other ≠ uri := fun heq => hknown (.inr ⟨request, heq ▸ he⟩)
      have he' : (c.send uri).entries.lookup other = some request := by
        rw [lookup_entries_send, if_neg hne, he]
      rw [get_of_not_known hknown]
      rw [joined_of_entry (scope_send.trans hscope) he', joined_of_entry hscope he, track_send]

theorem known_get_self : (c.get uri).1.Known uri := by
  by_cases hknown : c.Known uri
  · rwa [get_of_known hknown]
  · rw [get_of_not_known hknown]
    refine .inr ⟨c.outcomes.length, ?_⟩
    rw [lookup_entries_send, if_pos rfl]

theorem joined_get_self : (c.get uri).1.joined uri = c.joined uri := by
  by_cases hknown : c.Known uri
  · rw [get_of_known hknown]
  · obtain ⟨hscope, -⟩ := not_known_iff.mp hknown
    have he : (c.send uri).entries.lookup uri = some c.outcomes.length := by
      rw [lookup_entries_send, if_pos rfl]
    have hopen : (c.send uri).outcomes[c.outcomes.length]? = some none := by simp [send]
    rw [joined, joined, get_of_not_known hknown, get_of_entry (scope_send.trans hscope) he,
      track_of_unanswered hopen]

/-! Settings in force -/

/-- The settings in force for a document: the value for all documents, or what the request that
serves the document was answered with. -/
def InForce (c : SettingsCache) (uri : Uri) (settings : Settings) : Prop :=
  c.scope = .global ∧ c.shared = settings ∨
    c.scope = .perResource ∧ ∃ request, c.entries.lookup uri = some request ∧
      c.outcomes[request]? = some (some (.ok settings))

variable {other : Uri} {settings : Settings}

theorem inForce_iff_of_perResource (h : c.scope = .perResource) :
    c.InForce uri settings ↔ ∃ request, c.entries.lookup uri = some request ∧
      c.outcomes[request]? = some (some (.ok settings)) := by
  simp [InForce, h]

theorem InForce.known (h : c.InForce uri settings) : c.Known uri := by
  rcases h with ⟨hscope, -⟩ | ⟨-, request, he, -⟩
  · exact .inl hscope
  · exact .inr ⟨request, he⟩

theorem InForce.joined (h : c.InForce uri settings) : c.joined uri = .settled (.ok settings) := by
  rcases h with ⟨hscope, rfl⟩ | ⟨hscope, request, he, ho⟩
  · exact joined_of_global hscope
  · rw [joined_of_entry hscope he, track_of_answered ho]

theorem inForce_of_joined (h : c.joined uri = .settled (.ok settings)) :
    c.InForce uri settings := by
  cases hscope : c.scope with
  | global =>
    rw [joined_of_global hscope] at h
    exact .inl ⟨hscope, Except.ok.inj (Lookup.settled.inj h)⟩
  | perResource =>
    by_cases hknown : c.Known uri
    · rcases hknown with hglobal | ⟨request, he⟩
      · simp [hscope] at hglobal
      rw [joined_of_entry hscope he, track] at h
      split at h
      · rename_i o ho
        obtain rfl := Lookup.settled.inj h
        exact .inr ⟨hscope, request, he, ho⟩
      · simp at h
    · simp [joined, get_of_not_known hknown] at h

theorem InForce.of_send (h : (c.send uri).InForce other settings) : c.InForce other settings := by
  rcases h with hglobal | ⟨hscope, request, he, ho⟩
  · exact .inl hglobal
  · refine .inr ⟨hscope, request, ?_⟩
    rw [lookup_entries_send] at he
    simp only [send, List.getElem?_append] at ho
    split_ifs at he with hother
    · obtain rfl := Option.some.inj he
      simp at ho
    · refine ⟨he, ?_⟩
      split_ifs at ho with hlt
      · exact ho
      · cases hn : request - c.outcomes.length <;> simp [hn] at ho

theorem inForce_forget_of_ne (h : other ≠ uri) :
    (c.forget uri).InForce other settings ↔ c.InForce other settings := by
  simp only [InForce, forget, scope, lookup_filter_ne, if_neg h]

theorem not_inForce_invalidateAll (h : c.scope = .perResource) :
    ¬c.invalidateAll.InForce uri settings := by
  rintro (⟨hglobal, -⟩ | ⟨-, request, he, -⟩)
  · exact absurd (h.symm.trans hglobal) (by simp)
  · simp [invalidateAll] at he

/-- An answer puts settings in force by its own request alone. -/
theorem InForce.of_answer {request : Nat} {reply : Reply}
    (h : (c.answer request reply).InForce uri settings) :
    c.InForce uri settings ∨
      c.entries.lookup uri = some request ∧ c.outcomes[request]? = some none ∧
        reply.outcome = .ok settings := by
  rcases h with ⟨hscope, hshared⟩ | ⟨hscope, r, he, ho⟩
  · simp only [scope, fixed_answer, shared_answer] at hscope hshared
    exact .inl (.inl ⟨hscope, hshared⟩)
  · simp only [scope, fixed_answer, entries_answer, outcomes_answer] at hscope he ho
    split_ifs at ho with hr
    · obtain ⟨rfl, hnone⟩ := hr
      exact .inr ⟨he, hnone, Option.some.inj (Option.some.inj ho)⟩
    · exact .inl (.inr ⟨hscope, r, he, ho⟩)

end SettingsCache

end ClassPad
