import Mathlib.Data.List.Nodup
import ClassPad.Decode.Shape

/-!
Reading records. A record that can be read has in its normal form, under the name of a member, what
the value gives for that member: under its name in an object, in its place in an array.
-/

set_option autoImplicit false
set_option relaxedAutoImplicit false

namespace ClassPad

theorem lookup_cons_string {α : Type} (key name : String) (value : α)
    (rest : List (String × α)) :
    ((key, value) :: rest).lookup name = if name = key then some value else rest.lookup name := by
  rw [List.lookup_cons]
  by_cases h : name = key
  · simp [h]
  · have hne : (name == key) = false := by simpa using h
    simp only [hne, if_neg h]

theorem mem_of_lookup {α : Type} {pairs : List (String × α)} {key : String} {value : α}
    (h : pairs.lookup key = some value) : (key, value) ∈ pairs := by
  obtain ⟨before, after, rfl, -⟩ := List.lookup_eq_some_iff.mp h
  exact List.mem_append_right before List.mem_cons_self

theorem lookup_of_mem {α : Type} {pairs : List (String × α)}
    (hnodup : (pairs.map Prod.fst).Nodup) {m : String × α} (hmem : m ∈ pairs) :
    pairs.lookup m.1 = some m.2 := by
  induction pairs with
  | nil => exact absurd hmem List.not_mem_nil
  | cons first rest ih =>
    obtain ⟨hfresh, hnodup⟩ := List.nodup_cons.mp hnodup
    rw [lookup_cons_string first.1 m.1 first.2 rest]
    rcases List.mem_cons.mp hmem with rfl | hrest
    · rw [if_pos rfl]
    · have hne : m.1 ≠ first.1 := by
        intro heq
        exact hfresh (heq ▸ List.mem_map_of_mem hrest)
      rw [if_neg hne, ih hnodup hrest]

private theorem lookup_insertMember (key name : String) (value : Json)
    (members : List (String × Json)) : (Json.insertMember key value members).lookup name =
      if name = key then some value else members.lookup name := by
  induction members with
  | nil => exact lookup_cons_string key name value []
  | cons m rest ih =>
    obtain ⟨k, v⟩ := m
    rw [Json.insertMember, lookup_cons_string k]
    by_cases hkey : key = k
    · subst hkey
      rw [if_pos rfl, lookup_cons_string]
      split_ifs <;> rfl
    · rw [if_neg hkey]
      by_cases hbefore : key < k
      · rw [if_pos hbefore, lookup_cons_string, lookup_cons_string]
      · rw [if_neg hbefore, lookup_cons_string, ih]
        by_cases hname : name = k
        · have hne : name ≠ key := fun h => hkey (h.symm.trans hname)
          rw [if_pos hname, if_neg hne, if_pos hname]
        · rw [if_neg hname, if_neg hname]

theorem exists_of_map_eq_ok {α β : Type} {f : α → β} {x : Except DecodeError α} {b : β}
    (h : x.map f = .ok b) : ∃ a, x = .ok a ∧ f a = b := by
  cases x with
  | error e => exact absurd h (by simp [Except.map])
  | ok a => exact ⟨a, rfl, Except.ok.inj h⟩

namespace Shape

/-- What a value gives for a member of a record. -/
def given (fields : List Field) (name : String) : Json → Option Json
  | .obj members => members.lookup name
  | .arr items => items[(fields.map Prod.fst).idxOf name]?
  | _ => none

def readGiven (presence : Presence) (read : Json → Except DecodeError Json) :
    Option Json → Except DecodeError (Option Json)
  | none => .ok none
  | some value => readPresent presence read value

/-! What became of the members -/

def held : Option (Except DecodeError (Option Json)) → Option Json
  | some (.ok value) => value
  | _ => none

def kept (outcomes : List Outcome) (name : String) : Option Json :=
  (outcomes.lookup name).bind fun o => held o.2

def keep (members : List (String × Json)) (o : Outcome) : List (String × Json) :=
  match o.2.2 with
  | some (.ok (some value)) => Json.insertMember o.1 value members
  | _ => members

private theorem present_eq_foldl (outcomes : List Outcome) :
    present outcomes = outcomes.foldl keep [] :=
  rfl

private theorem lookup_keep (members : List (String × Json)) (o : Outcome) (name : String) :
    (keep members o).lookup name =
      if name = o.1 then (held o.2.2).or (members.lookup name) else members.lookup name := by
  obtain ⟨key, presence, read⟩ := o
  rcases read with _ | _ | _ | value
  · simp [keep, held]
  · simp [keep, held]
  · simp [keep, held]
  · simp only [keep, held, lookup_insertMember]
    rfl

theorem lookup_present {outcomes : List Outcome} (hnodup : (outcomes.map Prod.fst).Nodup)
    (name : String) : (present outcomes).lookup name = kept outcomes name := by
  -- what is kept of a member stays, since no later one has the same name
  have hfold : ∀ members, (outcomes.foldl keep members).lookup name =
      (kept outcomes name).or (members.lookup name) := by
    induction outcomes with
    | nil => exact fun members => rfl
    | cons o rest ih =>
      intro members
      obtain ⟨key, presence, read⟩ := o
      obtain ⟨hfresh, hnodup⟩ := List.nodup_cons.mp hnodup
      rw [List.foldl_cons, ih hnodup, lookup_keep, kept, kept, lookup_cons_string]
      split_ifs with hname
      · have hnone : rest.lookup name = none := by
          rw [List.lookup_eq_none_iff]
          intro p hp
          have hne : name ≠ p.1 := fun h => hfresh (hname ▸ h ▸ List.mem_map_of_mem hp)
          simpa using hne
        rw [hnone]
        rfl
      · rfl
  rw [present_eq_foldl, hfold [], List.lookup_nil, Option.or_none]

/-! Objects -/

theorem names_readMembers (standing : Standing) (members : List (String × Json))
    (fields : List Field) :
    (readMembers standing members fields).map Prod.fst = fields.map Prod.fst := by
  induction fields with
  | nil => rw [readMembers]; rfl
  | cons f rest ih =>
    obtain ⟨name, presence, shape⟩ := f
    rw [readMembers, List.map_cons, ih, List.map_cons]

theorem lookup_readMembers (standing : Standing) (members : List (String × Json))
    {fields : List Field} (hnodup : (fields.map Prod.fst).Nodup) {name : String}
    {presence : Presence} {shape : Shape} (hmem : (name, presence, shape) ∈ fields) :
    (readMembers standing members fields).lookup name =
      some (presence,
        (members.lookup name).map (readPresent presence (readAs shape standing))) := by
  induction fields with
  | nil => exact absurd hmem List.not_mem_nil
  | cons f rest ih =>
    obtain ⟨key, presence', shape'⟩ := f
    obtain ⟨hfresh, hnodup⟩ := List.nodup_cons.mp hnodup
    rw [readMembers, lookup_cons_string]
    rcases List.mem_cons.mp hmem with heq | hrest
    · obtain ⟨rfl, rfl, rfl⟩ : name = key ∧ presence = presence' ∧ shape = shape' := by
        simpa using heq
      rw [if_pos rfl]
    · have hkey : name ∈ rest.map Prod.fst := List.mem_map.mpr ⟨_, hrest, rfl⟩
      have hne : name ≠ key := fun h => hfresh (h ▸ hkey)
      rw [if_neg hne, ih hnodup hrest]

private theorem present_of_finishObject {members : List (String × Json)} {outcomes : List Outcome}
    {normal : List (String × Json)} (h : finishObject members outcomes = .ok normal) :
    firstError members outcomes = none ∧ normal = present outcomes := by
  unfold finishObject at h
  split at h
  · exact absurd h (by simp)
  · rename_i hnone
    split at h
    · exact absurd h (by simp)
    · exact ⟨hnone, (Except.ok.inj h).symm⟩

private theorem ne_error_of_firstError {members : List (String × Json)} {outcomes : List Outcome}
    (h : firstError members outcomes = none) {name : String} {value : Json}
    (hgiven : members.lookup name = some value) {presence : Presence} {e : DecodeError} :
    outcomes.lookup name ≠ some (presence, some (.error e)) := by
  intro hread
  have hfine := List.findSome?_eq_none_iff.mp h (name, value) (mem_of_lookup hgiven)
  simp [hread] at hfine

/-! Arrays -/

theorem names_readItems (standing : Standing) (items : List Json) (fields : List Field) :
    (readItems standing items fields).map Prod.fst = fields.map Prod.fst := by
  induction fields generalizing items with
  | nil => rw [readItems]; rfl
  | cons f rest ih =>
    obtain ⟨name, presence, shape⟩ := f
    rw [readItems, List.map_cons, ih, List.map_cons]

theorem lookup_readItems (standing : Standing) (items : List Json) {fields : List Field}
    (hnodup : (fields.map Prod.fst).Nodup) {name : String} {presence : Presence} {shape : Shape}
    (hmem : (name, presence, shape) ∈ fields) :
    (readItems standing items fields).lookup name =
      some (presence, items[(fields.map Prod.fst).idxOf name]?.map
        (readPresent presence (readAs shape standing))) := by
  induction fields generalizing items with
  | nil => exact absurd hmem List.not_mem_nil
  | cons f rest ih =>
    obtain ⟨key, presence', shape'⟩ := f
    obtain ⟨hfresh, hnodup⟩ := List.nodup_cons.mp hnodup
    rw [readItems, lookup_cons_string, List.map_cons]
    rcases List.mem_cons.mp hmem with heq | hrest
    · obtain ⟨rfl, rfl, rfl⟩ : name = key ∧ presence = presence' ∧ shape = shape' := by
        simpa using heq
      rw [if_pos rfl, List.idxOf_cons_self, List.head?_eq_getElem?]
    · have hkey : name ∈ rest.map Prod.fst := List.mem_map.mpr ⟨_, hrest, rfl⟩
      have hne : name ≠ key := fun h => hfresh (h ▸ hkey)
      rw [if_neg hne, ih _ hnodup hrest, List.idxOf_cons_ne _ (Ne.symm hne)]
      simp

private theorem ne_error_of_arrayError {name : String} {count i : Nat} {outcomes : List Outcome}
    (h : arrayError name count i outcomes = none) :
    ∀ o ∈ outcomes, ∀ e, o.2.2 ≠ some (.error e) := by
  fun_induction arrayError name count i outcomes with
  | case1 => exact fun o ho => absurd ho List.not_mem_nil
  | case2 => simp at h
  | case3 i key rest ih => exact List.forall_mem_cons.mpr ⟨fun e => by simp, ih h⟩
  | case4 i key rest ih => exact List.forall_mem_cons.mpr ⟨fun e => by simp, ih h⟩
  | case5 => simp at h
  | case6 i o rest herror habsent ih =>
    refine List.forall_mem_cons.mpr ⟨fun e heq => ?_, ih h⟩
    exact herror o.1 o.2.1 e (by rw [← heq])

private theorem present_of_finishArray {standing : Standing} {name : String} {length : Nat}
    {outcomes : List Outcome} {normal : Json}
    (h : finishArray standing name length outcomes = .ok normal) :
    (∀ o ∈ outcomes, ∀ e, o.2.2 ≠ some (.error e)) ∧ normal = .obj (present outcomes) := by
  unfold finishArray at h
  split at h
  · exact absurd h (by simp)
  · rename_i hnone
    split_ifs at h
    exact ⟨ne_error_of_arrayError hnone, (Except.ok.inj h).symm⟩

/-! Records -/

theorem eq_int_of_readAs {name : String} {low high : Int} {standing : Standing}
    {value normal : Json} (h : readAs (.int name low high) standing value = .ok normal) :
    ∃ n, value = .int n ∧ normal = .int n ∧ low ≤ n ∧ n ≤ high := by
  cases value with
  | int n =>
    rw [readAs] at h
    split_ifs at h with hbounds
    exact ⟨n, rfl, (Except.ok.inj h).symm, hbounds⟩
  | _ => simp [readAs] at h

private theorem readGiven_eq_kept {outcomes : List Outcome} {key : String} {presence : Presence}
    {read : Json → Except DecodeError Json} {value : Option Json}
    (hread : outcomes.lookup key = some (presence, value.map (readPresent presence read)))
    (hfine : ∀ e, value.map (readPresent presence read) ≠ some (.error e)) :
    readGiven presence read value = .ok (kept outcomes key) := by
  rw [kept, hread, Option.bind_some]
  cases value with
  | none => rfl
  | some v =>
    rw [Option.map_some] at hfine ⊢
    rw [readGiven]
    cases hv : readPresent presence read v with
    | error e => exact absurd (congrArg some hv) (hfine e)
    | ok w => rfl

/-- What the normal form of a record holds under the name of a member is what the value gives for
the member, read by the member's shape. -/
theorem readGiven_given {name : String} {fields : List Field} {standing : Standing}
    {value normal : Json} (hnodup : (fields.map Prod.fst).Nodup)
    (hread : readAs (.record name fields) standing value = .ok normal) {key : String}
    {presence : Presence} {shape : Shape} (hmem : (key, presence, shape) ∈ fields) :
    readGiven presence (readAs shape standing) (given fields key value) =
      .ok (normal.get? key) := by
  cases value with
  | obj members =>
    rw [readAs] at hread
    obtain ⟨normal, hfinish, rfl⟩ := exists_of_map_eq_ok hread
    obtain ⟨hfine, rfl⟩ := present_of_finishObject hfinish
    have hlookup := lookup_readMembers standing members hnodup hmem
    rw [Json.get?, lookup_present (by rwa [names_readMembers])]
    refine readGiven_eq_kept hlookup fun e herror => ?_
    obtain ⟨v, hv, -⟩ := Option.map_eq_some_iff.mp herror
    exact ne_error_of_firstError hfine hv (hlookup.trans (congrArg (fun o => some (_, o)) herror))
  | arr items =>
    rw [readAs] at hread
    obtain ⟨hfine, rfl⟩ := present_of_finishArray hread
    have hlookup := lookup_readItems standing items hnodup hmem
    rw [Json.get?, lookup_present (by rwa [names_readItems])]
    refine readGiven_eq_kept hlookup fun e herror => ?_
    exact hfine _ (mem_of_lookup hlookup) e herror
  | _ => simp [readAs] at hread

end Shape

end ClassPad
