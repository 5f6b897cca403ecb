import Mathlib.Data.List.Sort
import Mathlib.Data.String.Basic
import ClassPad.Proofs.Decode.Domain

/-!
Reading normal forms. The members of an object that was put together stand in the order of their
keys, so it is known by what it holds under each key. An object that holds all that a record asks
for, and nothing else, in the form that the record gives it, is read as it stands.
-/

set_option autoImplicit false
set_option relaxedAutoImplicit false

namespace ClassPad

namespace Json

/-- Members in the order of their keys, each key once. -/
def Ordered (members : List (String × Json)) : Prop := members.Pairwise fun m n => m.1 < n.1

private theorem mem_insertMember {key : String} {value : Json} {members : List (String × Json)}
    {m : String × Json} (h : m ∈ insertMember key value members) :
    m.1 = key ∨ m ∈ members := by
  induction members with
  | nil =>
    obtain rfl := List.mem_singleton.mp h
    exact .inl rfl
  | cons first rest ih =>
    obtain ⟨k, v⟩ := first
    rw [insertMember] at h
    split_ifs at h with heq hlt
    · rcases List.mem_cons.mp h with rfl | hrest
      · exact .inl heq.symm
      · exact .inr (List.mem_cons_of_mem _ hrest)
    · rcases List.mem_cons.mp h with rfl | hrest
      · exact .inl rfl
      · exact .inr hrest
    · rcases List.mem_cons.mp h with rfl | hrest
      · exact .inr List.mem_cons_self
      · exact (ih hrest).imp_right (List.mem_cons_of_mem _)

private theorem Ordered.insertMember {members : List (String × Json)} (h : Ordered members)
    (key : String) (value : Json) : Ordered (insertMember key value members) := by
  induction members with
  | nil => exact List.pairwise_singleton _ _
  | cons first rest ih =>
    obtain ⟨k, v⟩ := first
    obtain ⟨hfirst, hrest⟩ := List.pairwise_cons.mp h
    rw [Json.insertMember]
    split_ifs with heq hlt
    · exact List.pairwise_cons.mpr ⟨hfirst, hrest⟩
    · refine List.pairwise_cons.mpr ⟨?_, h⟩
      intro m hm
      rcases List.mem_cons.mp hm with rfl | hm
      · exact hlt
      · exact lt_trans hlt (hfirst m hm)
    · refine List.pairwise_cons.mpr ⟨?_, ih hrest⟩
      intro m hm
      rcases mem_insertMember hm with hkey | hm
      · have hgt : k < key := lt_of_le_of_ne (not_lt.mp hlt) (Ne.symm heq)
        exact hkey ▸ hgt
      · exact hfirst m hm

private theorem Ordered.mem_iff {members : List (String × Json)} (h : Ordered members)
    {m : String × Json} : m ∈ members ↔ members.lookup m.1 = some m.2 := by
  constructor
  · intro hm
    obtain ⟨before, after, rfl⟩ := List.append_of_mem hm
    refine List.lookup_eq_some_iff.mpr ⟨before, after, rfl, fun p hp => ?_⟩
    have hlt : p.1 < m.1 := (List.pairwise_append.mp h).2.2 p hp m List.mem_cons_self
    simpa using hlt.ne'
  · exact fun hlookup => mem_of_lookup hlookup

private theorem Ordered.ext {members others : List (String × Json)} (h : Ordered members)
    (h' : Ordered others) (hsame : ∀ key, members.lookup key = others.lookup key) :
    members = others := by
  have hirrefl : Std.Irrefl fun m n : String × Json => m.1 < n.1 := ⟨fun m => lt_irrefl m.1⟩
  refine List.Pairwise.eq_of_mem_iff h h' fun m => ?_
  rw [h.mem_iff, h'.mem_iff, hsame]

end Json

namespace Shape

open Json (Ordered)

private theorem ordered_keep {members : List (String × Json)} (h : Ordered members) (o : Outcome) :
    Ordered (keep members o) := by
  unfold keep
  split
  · exact h.insertMember _ _
  · exact h

private theorem ordered_present (outcomes : List Outcome) : Ordered (present outcomes) := by
  have hfold : ∀ members, Ordered members → Ordered (outcomes.foldl keep members) := by
    induction outcomes with
    | nil => exact fun members h => h
    | cons o rest ih => exact fun members h => ih _ (ordered_keep h o)
  exact hfold [] List.Pairwise.nil

/-! Objects without absent members -/

/-- A member as it is if it was read as it stands. -/
def asRead (m : String × Option Json) : Outcome := (m.1, .required, some (.ok m.2))

private theorem names_asRead (members : List (String × Option Json)) :
    (members.map asRead).map Prod.fst = members.map Prod.fst := by
  rw [List.map_map]
  rfl

private theorem ofPresent_eq_present (members : List (String × Option Json)) :
    Json.ofPresent members = .obj (present (members.map asRead)) := by
  have hfold : ∀ acc : List (String × Json),
      (members.filterMap fun m => m.2.map fun v => (m.1, v)).foldl
        (fun acc m => Json.insertMember m.1 m.2 acc) acc = (members.map asRead).foldl keep acc := by
    induction members with
    | nil => exact fun acc => rfl
    | cons m rest ih =>
      intro acc
      obtain ⟨key, _ | value⟩ := m
      · exact ih acc
      · exact ih (Json.insertMember key value acc)
  exact congrArg Json.obj (hfold [])

private theorem kept_asRead (members : List (String × Option Json)) (key : String) :
    kept (members.map asRead) key = (members.lookup key).join := by
  induction members with
  | nil => rfl
  | cons m rest ih =>
    obtain ⟨name, value⟩ := m
    rw [kept] at ih
    rw [List.map_cons, kept, asRead, lookup_cons_string, lookup_cons_string]
    split_ifs
    · rfl
    · exact ih

private theorem lookup_present_asRead {members : List (String × Option Json)}
    (hnodup : (members.map Prod.fst).Nodup) (key : String) :
    (present (members.map asRead)).lookup key = (members.lookup key).join := by
  rw [lookup_present (by rwa [names_asRead]), kept_asRead]

theorem get?_ofPresent {members : List (String × Option Json)}
    (hnodup : (members.map Prod.fst).Nodup) (key : String) :
    (Json.ofPresent members).get? key = (members.lookup key).join := by
  rw [ofPresent_eq_present, Json.get?, lookup_present_asRead hnodup]

theorem ofPresent_ne_null (members : List (String × Option Json)) :
    Json.ofPresent members ≠ .null := by
  simp [Json.ofPresent, Json.object]

/-! Records -/

/-- A record holds a value under a key in the form that it gives it. -/
def Fits (fields : List Field) (standing : Standing) (key : String) (value : Json) : Prop :=
  ∃ presence shape, fields.lookup key = some (presence, shape) ∧
    readAs shape standing value = .ok value ∧ value ≠ .null

def FitsIfThere (fields : List Field) (standing : Standing) (m : String × Option Json) : Prop :=
  ∀ value, m.2 = some value → Fits fields standing m.1 value

variable {fields : List Field} {standing : Standing}

theorem Fits.some {key : String} {value : Json} (h : Fits fields standing key value) :
    FitsIfThere fields standing (key, .some value) := by
  intro other heq
  obtain rfl := Option.some.inj heq
  exact h

theorem FitsIfThere.map {α : Type} {key : String} {f : α → Json}
    (h : ∀ x, Fits fields standing key (f x)) (o : Option α) :
    FitsIfThere fields standing (key, o.map f) := by
  intro value heq
  obtain ⟨x, -, rfl⟩ := Option.map_eq_some_iff.mp heq
  exact h x

private theorem readPresent_of_ne_null {read : Json → Except DecodeError Json} {value : Json}
    (hread : read value = .ok value) (hne : value ≠ .null) (presence : Presence) :
    readPresent presence read value = .ok (some value) := by
  cases presence <;> cases value <;> simp_all [readPresent, Except.map]

private theorem readGiven_of_fits (hnodup : (fields.map Prod.fst).Nodup) {key : String}
    {value : Json} (hfits : Fits fields standing key value) {presence : Presence} {shape : Shape}
    (hmem : (key, presence, shape) ∈ fields) :
    readGiven presence (readAs shape standing) (some value) = .ok (some value) := by
  obtain ⟨presence', shape', hfield, hread, hne⟩ := hfits
  rw [lookup_of_mem hnodup hmem] at hfield
  obtain ⟨rfl, rfl⟩ := Prod.mk.inj (Option.some.inj hfield)
  exact readPresent_of_ne_null hread hne presence

private theorem readable_of_fits (hnodup : (fields.map Prod.fst).Nodup)
    {members : List (String × Json)}
    (hfits : ∀ key value, members.lookup key = some value → Fits fields standing key value)
    (hrequired : ∀ key shape, (key, .required, shape) ∈ fields → members.lookup key ≠ none) :
    Readable fields standing (.obj members) where
  form := .inl ⟨members, rfl⟩
  complete := by
    intro key presence shape hmem hnone
    refine omissible_obj_iff.mpr fun hpresence => ?_
    subst hpresence
    exact hrequired key shape hmem hnone
  sound := by
    intro key presence shape hmem
    cases hvalue : given fields key (.obj members) with
    | none => exact ⟨none, rfl⟩
    | some value => exact ⟨_, readGiven_of_fits hnodup (hfits key value hvalue) hmem⟩

/-- An object that fits a record is read as it stands. -/
theorem readAs_of_fits (name : String) (hnodup : (fields.map Prod.fst).Nodup)
    {members : List (String × Json)} (hordered : Ordered members)
    (hfits : ∀ key value, members.lookup key = some value → Fits fields standing key value)
    (hrequired : ∀ key shape, (key, .required, shape) ∈ fields → members.lookup key ≠ none) :
    readAs (.record name fields) standing (.obj members) = .ok (.obj members) := by
  obtain ⟨outcomes, haccounts, hread⟩ :=
    readAs_of_readable name hnodup (readable_of_fits hnodup hfits hrequired)
  have hsame : ∀ key, (present outcomes).lookup key = members.lookup key := by
    intro key
    cases hvalue : members.lookup key with
    | some value =>
      obtain ⟨presence, shape, hfield, -⟩ := id (hfits key value hvalue)
      have hmem := mem_of_lookup hfield
      have hgiven := readGiven_given hnodup hread hmem
      rw [given, hvalue, readGiven_of_fits hnodup (hfits key value hvalue) hmem] at hgiven
      exact (Except.ok.inj hgiven).symm
    | none =>
      -- the record may name the key all the same; then its outcome is that nothing was given
      rw [lookup_present (by rwa [haccounts.1]), kept]
      cases hout : outcomes.lookup key with
      | none => rfl
      | some o =>
        obtain ⟨shape, -, hnone⟩ := haccounts.of_lookup hout
        rw [given, hvalue] at hnone
        rw [Option.bind_some, hnone]
        rfl
  rw [hread, (ordered_present outcomes).ext hordered hsame]

theorem readAs_ofPresent (name : String) (hnodup : (fields.map Prod.fst).Nodup)
    {members : List (String × Option Json)} (hnames : (members.map Prod.fst).Nodup)
    (hfits : ∀ m ∈ members, FitsIfThere fields standing m)
    (hrequired : ∀ f ∈ fields, f.2.1 = .required → (members.lookup f.1).join ≠ none) :
    readAs (.record name fields) standing (.ofPresent members) = .ok (.ofPresent members) := by
  rw [ofPresent_eq_present]
  refine readAs_of_fits name hnodup (ordered_present _) ?_ ?_
  · intro key value hvalue
    rw [lookup_present_asRead hnames, Option.join_eq_some_iff] at hvalue
    exact hfits _ (mem_of_lookup hvalue) value rfl
  · intro key shape hmem
    rw [lookup_present_asRead hnames]
    exact hrequired _ hmem rfl

theorem readAs_ofPresent_of_optional (name : String) (hnodup : (fields.map Prod.fst).Nodup)
    (hoptional : ∀ f ∈ fields, f.2.1 ≠ .required) {members : List (String × Option Json)}
    (hnames : (members.map Prod.fst).Nodup) (hfits : ∀ m ∈ members, FitsIfThere fields standing m) :
    readAs (.record name fields) standing (.ofPresent members) = .ok (.ofPresent members) :=
  readAs_ofPresent name hnodup hnames hfits fun f hf hrequired => absurd hrequired (hoptional f hf)

/-! Values of simple shapes -/

theorem fits_text {key : String} {presence : Presence}
    (hfield : fields.lookup key = some (presence, .text)) (s : String) :
    Fits fields standing key (.str s) :=
  ⟨presence, .text, hfield, by rw [readAs], by simp⟩

theorem fits_bool {key : String} {presence : Presence}
    (hfield : fields.lookup key = some (presence, .bool)) (b : Bool) :
    Fits fields standing key (.bool b) :=
  ⟨presence, .bool, hfield, by rw [readAs], by simp⟩

theorem fits_choice {key : String} {presence : Presence} {names : List String}
    (hfield : fields.lookup key = some (presence, .choice names)) {s : String} (hs : s ∈ names) :
    Fits fields standing key (.str s) :=
  ⟨presence, .choice names, hfield, by simp [readAs, readChoice, hs], by simp⟩

theorem fits_int {key name : String} {presence : Presence} {low high n : Int}
    (hfield : fields.lookup key = some (presence, .int name low high)) (hlow : low ≤ n)
    (hhigh : n ≤ high) : Fits fields standing key (.int n) :=
  ⟨presence, .int name low high, hfield, by simp [readAs, hlow, hhigh], by simp⟩

theorem mapM_of_self {read : Json → Except DecodeError Json} {items : List Json}
    (h : ∀ v ∈ items, read v = .ok v) : items.mapM read = .ok items := by
  induction items with
  | nil => rfl
  | cons v rest ih =>
    obtain ⟨hv, hrest⟩ := List.forall_mem_cons.mp h
    rw [List.mapM_cons, hv, ih hrest]
    rfl

end Shape

end ClassPad
