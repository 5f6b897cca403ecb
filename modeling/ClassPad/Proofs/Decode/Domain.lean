import ClassPad.Proofs.Decode.Record

/-!
Which values a record accepts. An object has to give every required member, an array every one
without a default and nothing beyond the last; and all that is given has to be readable. Nothing
else is asked: the order of the members and members of other names do not matter.
-/

set_option autoImplicit false
set_option relaxedAutoImplicit false

namespace ClassPad

def Presence.omissible : Presence → Json → Bool
  | .required, _ => false
  | .optional, .arr _ => false
  | _, _ => true

namespace Shape

/-- A value gives the members of a record in a way that they can be read. -/
structure Readable (fields : List Field) (standing : Standing) (value : Json) : Prop where
  form : (∃ members, value = .obj members) ∨
    ∃ items, value = .arr items ∧ items.length ≤ fields.length
  complete : ∀ key presence shape, (key, presence, shape) ∈ fields →
    given fields key value = none → presence.omissible value = true
  sound : ∀ key presence shape, (key, presence, shape) ∈ fields →
    ∃ v, readGiven presence (readAs shape standing) (given fields key value) = .ok v

variable {fields : List Field} {standing : Standing} {outcomes : List Outcome}

/-- What became of the members of a record is what their shapes make of what is given. -/
def Accounts (fields : List Field) (standing : Standing) (value : Json)
    (outcomes : List Outcome) : Prop :=
  outcomes.map Prod.fst = fields.map Prod.fst ∧
    ∀ key presence shape, (key, presence, shape) ∈ fields →
      outcomes.lookup key = some (presence,
        (given fields key value).map (readPresent presence (readAs shape standing)))

private theorem accounts_readMembers (hnodup : (fields.map Prod.fst).Nodup) (standing : Standing)
    (members : List (String × Json)) :
    Accounts fields standing (.obj members) (readMembers standing members fields) :=
  ⟨names_readMembers standing members fields,
    fun _ _ _ hmem => lookup_readMembers standing members hnodup hmem⟩

private theorem accounts_readItems (hnodup : (fields.map Prod.fst).Nodup) (standing : Standing)
    (items : List Json) :
    Accounts fields standing (.arr items) (readItems standing items fields) :=
  ⟨names_readItems standing items fields,
    fun _ _ _ hmem => lookup_readItems standing items hnodup hmem⟩

theorem Accounts.of_lookup {value : Json} (h : Accounts fields standing value outcomes)
    {key : String} {o : Presence × Option (Except DecodeError (Option Json))}
    (hlookup : outcomes.lookup key = some o) :
    ∃ shape, (key, o.1, shape) ∈ fields ∧
      o.2 = (given fields key value).map (readPresent o.1 (readAs shape standing)) := by
  have hkey : key ∈ fields.map Prod.fst := by
    rw [← h.1]
    exact List.mem_map.mpr ⟨_, mem_of_lookup hlookup, rfl⟩
  obtain ⟨⟨_, presence, shape⟩, hmem, rfl⟩ := List.mem_map.mp hkey
  have hread := h.2 _ presence shape hmem
  rw [hlookup] at hread
  obtain rfl := Option.some.inj hread
  exact ⟨shape, hmem, rfl⟩

private theorem Accounts.of_mem {value : Json} (h : Accounts fields standing value outcomes)
    (hnodup : (fields.map Prod.fst).Nodup) {o : Outcome} (hmem : o ∈ outcomes) :
    ∃ shape, (o.1, o.2.1, shape) ∈ fields ∧
      o.2.2 = (given fields o.1 value).map (readPresent o.2.1 (readAs shape standing)) :=
  h.of_lookup (lookup_of_mem (by rwa [h.1]) hmem)

private theorem Accounts.mem {value : Json} (h : Accounts fields standing value outcomes)
    {key : String} {presence : Presence} {shape : Shape} (hmem : (key, presence, shape) ∈ fields) :
    (key, presence, (given fields key value).map (readPresent presence (readAs shape standing))) ∈
      outcomes :=
  mem_of_lookup (h.2 key presence shape hmem)

private theorem Readable.ne_error {value : Json} (h : Readable fields standing value) {key : String}
    {presence : Presence} {shape : Shape} (hmem : (key, presence, shape) ∈ fields)
    (e : DecodeError) :
    (given fields key value).map (readPresent presence (readAs shape standing)) ≠
      some (.error e) := by
  obtain ⟨v, hv⟩ := h.sound key presence shape hmem
  intro herror
  obtain ⟨w, hw, hread⟩ := Option.map_eq_some_iff.mp herror
  rw [hw, readGiven, hread] at hv
  exact absurd hv (by simp)

/-! Objects -/

private theorem firstError_eq_none {members : List (String × Json)}
    (h : Accounts fields standing (.obj members) outcomes)
    (hreadable : Readable fields standing (.obj members)) : firstError members outcomes = none := by
  refine List.findSome?_eq_none_iff.mpr fun m _ => ?_
  split
  · rename_i presence e hlookup
    obtain ⟨shape, hmem, hread⟩ := h.of_lookup hlookup
    exact absurd hread.symm (hreadable.ne_error hmem e)
  · rfl

private theorem firstMissing_eq_none_iff :
    firstMissing outcomes = none ↔ ∀ o ∈ outcomes, o.2.1 = .required → o.2.2 ≠ none := by
  rw [firstMissing, List.findSome?_eq_none_iff]
  refine forall₂_congr fun o _ => ?_
  rcases o with ⟨name, _ | _ | _ | _, _ | read⟩ <;> simp

private theorem firstMissing_of_finishObject {members normal : List (String × Json)}
    (h : finishObject members outcomes = .ok normal) : firstMissing outcomes = none := by
  unfold finishObject at h
  split at h
  · exact absurd h (by simp)
  · split at h
    · exact absurd h (by simp)
    · assumption

theorem omissible_obj_iff {presence : Presence} {members : List (String × Json)} :
    presence.omissible (.obj members) = true ↔ presence ≠ .required := by
  cases presence <;> simp [Presence.omissible]

private theorem firstMissing_eq_none {members : List (String × Json)}
    (hnodup : (fields.map Prod.fst).Nodup)
    (h : Accounts fields standing (.obj members) outcomes)
    (hreadable : Readable fields standing (.obj members)) : firstMissing outcomes = none := by
  refine firstMissing_eq_none_iff.mpr fun o ho hrequired habsent => ?_
  obtain ⟨shape, hmem, hread⟩ := h.of_mem hnodup ho
  rw [habsent] at hread
  have hgiven := Option.map_eq_none_iff.mp hread.symm
  exact omissible_obj_iff.mp (hreadable.complete _ _ _ hmem hgiven) hrequired

/-! Arrays -/

private theorem arrayError_eq_none_iff {name : String} {count i : Nat} :
    arrayError name count i outcomes = none ↔
      ∀ o ∈ outcomes, (∀ e, o.2.2 ≠ some (.error e)) ∧
        (o.2.2 = none → o.2.1 = .spare ∨ o.2.1 = .defaulted) := by
  fun_induction arrayError name count i outcomes with
  | case1 => simp
  | case2 => simp
  | case3 i key rest ih => simp [ih]
  | case4 i key rest ih => simp [ih]
  | case5 i key presence rest hspare hdefaulted => simp_all
  | case6 i o rest herror habsent ih =>
    -- neither an error nor absent: the member was read, and the rest decides
    have hread : ∀ e, o.2.2 ≠ some (.error e) := by
      intro e heq
      exact herror o.1 o.2.1 e (by rw [← heq])
    have hthere : o.2.2 ≠ none := by
      intro heq
      exact habsent o.1 o.2.1 (by rw [← heq])
    rw [ih, List.forall_mem_cons]
    simp [hread, hthere]

private theorem arrayError_of_finishArray {name : String} {length : Nat} {normal : Json}
    (h : finishArray standing name length outcomes = .ok normal) :
    arrayError name outcomes.length 0 outcomes = none := by
  unfold finishArray at h
  split at h
  · exact absurd h (by simp)
  · assumption

private theorem omissible_arr_iff {presence : Presence} {items : List Json} :
    presence.omissible (.arr items) = true ↔ presence = .spare ∨ presence = .defaulted := by
  cases presence <;> simp [Presence.omissible]

private theorem arrayError_eq_none {name : String} {count i : Nat} {items : List Json}
    (hnodup : (fields.map Prod.fst).Nodup)
    (h : Accounts fields standing (.arr items) outcomes)
    (hreadable : Readable fields standing (.arr items)) :
    arrayError name count i outcomes = none := by
  refine arrayError_eq_none_iff.mpr fun o ho => ?_
  obtain ⟨shape, hmem, hread⟩ := h.of_mem hnodup ho
  refine ⟨fun e => hread ▸ hreadable.ne_error hmem e, fun habsent => ?_⟩
  rw [habsent] at hread
  have hgiven := Option.map_eq_none_iff.mp hread.symm
  exact omissible_arr_iff.mp (hreadable.complete _ _ _ hmem hgiven)

/-! Records -/

private theorem Accounts.length_eq {value : Json} (h : Accounts fields standing value outcomes) :
    outcomes.length = fields.length := by
  simpa using congrArg List.length h.1

theorem readAs_of_readable (name : String) {value : Json} (hnodup : (fields.map Prod.fst).Nodup)
    (h : Readable fields standing value) :
    ∃ outcomes, Accounts fields standing value outcomes ∧
      readAs (.record name fields) standing value = .ok (.obj (present outcomes)) := by
  rcases h.form with ⟨members, rfl⟩ | ⟨items, rfl, hlength⟩
  · have haccounts := accounts_readMembers hnodup standing members
    refine ⟨_, haccounts, ?_⟩
    rw [readAs, finishObject, firstError_eq_none haccounts h,
      firstMissing_eq_none hnodup haccounts h]
    rfl
  · have haccounts := accounts_readItems hnodup standing items
    refine ⟨_, haccounts, ?_⟩
    have hfits : ¬(readItems standing items fields).length < items.length := by
      rw [haccounts.length_eq]
      omega
    rw [readAs, finishArray, arrayError_eq_none hnodup haccounts h]
    simp only [if_neg hfits]

private theorem form_of_readAs {name : String} {value normal : Json}
    (h : readAs (.record name fields) standing value = .ok normal) :
    (∃ members, value = .obj members) ∨
      ∃ items, value = .arr items ∧ items.length ≤ fields.length := by
  cases value with
  | obj members => exact .inl ⟨members, rfl⟩
  | arr items =>
    have hlength : (readItems standing items fields).length = fields.length := by
      simpa using congrArg List.length (names_readItems standing items fields)
    rw [readAs, finishArray] at h
    split at h
    · exact absurd h (by simp)
    · split_ifs at h with hlong
      exact .inr ⟨items, rfl, by omega⟩
  | _ => simp [readAs] at h

private theorem complete_of_readAs {name : String} {value normal : Json}
    (hnodup : (fields.map Prod.fst).Nodup)
    (h : readAs (.record name fields) standing value = .ok normal) {key : String}
    {presence : Presence} {shape : Shape} (hmem : (key, presence, shape) ∈ fields)
    (hgiven : given fields key value = none) : presence.omissible value = true := by
  cases value with
  | obj members =>
    have hout := (accounts_readMembers hnodup standing members).mem hmem
    rw [readAs] at h
    obtain ⟨_, hfinish, -⟩ := exists_of_map_eq_ok h
    have hnone := firstMissing_eq_none_iff.mp (firstMissing_of_finishObject hfinish) _ hout
    rw [hgiven] at hnone
    exact omissible_obj_iff.mpr fun hrequired => hnone hrequired rfl
  | arr items =>
    have hout := (accounts_readItems hnodup standing items).mem hmem
    rw [readAs] at h
    have hnone := arrayError_eq_none_iff.mp (arrayError_of_finishArray h) _ hout
    rw [hgiven] at hnone
    exact omissible_arr_iff.mpr (hnone.2 rfl)
  | _ => simp [readAs] at h

/-- A record accepts the values that give its members in a readable way, and no others. -/
theorem exists_readAs_iff (name : String) {value : Json} (hnodup : (fields.map Prod.fst).Nodup) :
    (∃ normal, readAs (.record name fields) standing value = .ok normal) ↔
      Readable fields standing value := by
  constructor
  · rintro ⟨normal, h⟩
    exact ⟨form_of_readAs h, fun _ _ _ hmem hgiven => complete_of_readAs hnodup h hmem hgiven,
      fun _ _ _ hmem => ⟨_, readGiven_given hnodup h hmem⟩⟩
  · intro h
    obtain ⟨outcomes, -, hread⟩ := readAs_of_readable name hnodup h
    exact ⟨_, hread⟩

end Shape

end ClassPad
