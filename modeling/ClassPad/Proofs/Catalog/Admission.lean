import Mathlib.Data.List.Nodup
import Mathlib.Data.Nat.Find
import Mathlib.Order.Bounds.Basic
import ClassPad.Catalog.Basic

/-!
Which lists of entries are catalogs, and what is told about the others. A list is admitted if it is
not empty, all its labels can be seen and no two of them are the same. Otherwise the first entry
whose label is blank or stands before decides, whatever comes after it.
-/

set_option autoImplicit false
set_option relaxedAutoImplicit false

namespace ClassPad

private theorem Text.allBlank_iff {s : String} :
    allBlank s = true ↔ ∀ c ∈ s.toList, isBlank c = true := by
  rw [allBlank, List.all_eq_true]

private theorem Text.allBlank_eq_false_iff {s : String} :
    allBlank s = false ↔ ∃ c ∈ s.toList, isBlank c = false := by
  rw [allBlank, List.all_eq_false]
  simp only [Bool.not_eq_true]

private theorem EntryKind.code_injective : Function.Injective EntryKind.code := by
  intro k k'
  cases k <;> cases k' <;> decide

private theorem Entry.toItem_injective : Function.Injective Entry.toItem := by
  rintro ⟨label, kind, detail, documentation, insertText, command⟩
    ⟨label', kind', detail', documentation', insertText', command'⟩ h
  simp only [Entry.toItem, Item.mk.injEq] at h
  obtain ⟨rfl, hkind, rfl, rfl, rfl, -, rfl⟩ := h
  obtain rfl := EntryKind.code_injective hkind
  rfl

namespace Catalog

/-- The label of the entry at a place is blank, or it stands at an earlier place. -/
def FaultAt (entries : List Entry) (i : Nat) : Prop :=
  ∃ e, entries[i]? = some e ∧
    ((∀ c ∈ e.label.toList, Text.isBlank c = true) ∨
      ∃ j < i, ∃ other, entries[j]? = some other ∧ other.label = e.label)

variable {entries before after : List Entry} {seen : List String} {e : Entry} {i : Nat}

/-! The scan over the entries -/

private theorem firstFault_append (h : firstFault seen before = none) (after : List Entry) :
    firstFault seen (before ++ after) =
      firstFault ((before.map Entry.label).reverse ++ seen) after := by
  induction before generalizing seen with
  | nil => rfl
  | cons e before ih =>
    rw [firstFault] at h
    rw [List.cons_append, firstFault]
    split_ifs at h ⊢ with hblank hseen
    rw [ih h]
    simp

private theorem firstFault_eq_none_iff :
    firstFault seen entries = none ↔
      (∀ e ∈ entries, Text.allBlank e.label = false ∧ e.label ∉ seen) ∧
        (entries.map Entry.label).Nodup := by
  induction entries generalizing seen with
  | nil => simp [firstFault]
  | cons e rest ih =>
    rw [firstFault, List.forall_mem_cons, List.map_cons, List.nodup_cons]
    by_cases hblank : Text.allBlank e.label = true
    · simp [hblank]
    · by_cases hseen : e.label ∈ seen
      · simp [hblank, hseen]
      · rw [if_neg hblank, if_neg hseen, ih]
        simp only [List.mem_cons, not_or, List.mem_map, not_exists, not_and]
        constructor
        · rintro ⟨hrest, hnodup⟩
          refine ⟨⟨⟨by simpa using hblank, hseen⟩, fun x hx => ⟨(hrest x hx).1, (hrest x hx).2.2⟩⟩,
            fun x hx => (hrest x hx).2.1, hnodup⟩
        · rintro ⟨⟨-, hrest⟩, hfresh, hnodup⟩
          exact ⟨fun x hx => ⟨(hrest x hx).1, hfresh x hx, (hrest x hx).2⟩, hnodup⟩

private theorem firstFault_of_blank (h : Text.allBlank e.label = true) (after : List Entry) :
    firstFault seen (e :: after) = some .blankLabel := by
  rw [firstFault, if_pos h]

private theorem firstFault_of_seen (hblank : Text.allBlank e.label = false) (h : e.label ∈ seen)
    (after : List Entry) : firstFault seen (e :: after) = some (.duplicateLabel e.label) := by
  rw [firstFault, if_neg (by simp [hblank]), if_pos h]

/-! Places in the list -/

private theorem nodup_labels_iff :
    (entries.map Entry.label).Nodup ↔
      ∀ (i j : Nat) (e other : Entry), j < i → entries[i]? = some e → entries[j]? = some other →
        other.label ≠ e.label := by
  rw [List.Nodup, List.pairwise_map, List.pairwise_iff_getElem]
  constructor
  · intro h i j e other hlt hi hj
    obtain ⟨hi', rfl⟩ := List.getElem?_eq_some_iff.mp hi
    obtain ⟨hj', rfl⟩ := List.getElem?_eq_some_iff.mp hj
    exact h j i hj' hi' hlt
  · intro h j i hj hi hlt
    exact h i j _ _ hlt (List.getElem?_eq_getElem hi) (List.getElem?_eq_getElem hj)

private theorem firstFault_nil_eq_none_iff :
    firstFault [] entries = none ↔ ∀ i, ¬FaultAt entries i := by
  rw [firstFault_eq_none_iff, nodup_labels_iff]
  constructor
  · rintro ⟨hvisible, hdistinct⟩ i ⟨e, hi, hblank | ⟨j, hlt, other, hj, hsame⟩⟩
    · have hfalse := (hvisible e (List.mem_of_getElem? hi)).1
      rw [Text.allBlank_iff.mpr hblank] at hfalse
      exact absurd hfalse (by simp)
    · exact hdistinct i j e other hlt hi hj hsame
  · intro h
    refine ⟨fun e he => ⟨?_, by simp⟩, fun i j e other hlt hi hj hsame => ?_⟩
    · obtain ⟨i, hi⟩ := List.mem_iff_getElem?.mp he
      rw [← Bool.not_eq_true]
      exact fun hblank => h i ⟨e, hi, .inl (Text.allBlank_iff.mp hblank)⟩
    · exact h i ⟨e, hi, .inr ⟨j, hlt, other, hj, hsame⟩⟩

private theorem FaultAt.congr {others : List Entry} (h : FaultAt entries i)
    (hsame : ∀ k ≤ i, entries[k]? = others[k]?) : FaultAt others i := by
  obtain ⟨e, hi, hblank | ⟨j, hlt, other, hj, hlabel⟩⟩ := h
  · exact ⟨e, hsame i (Nat.le_refl i) ▸ hi, .inl hblank⟩
  · exact ⟨e, hsame i (Nat.le_refl i) ▸ hi,
      .inr ⟨j, hlt, other, hsame j (Nat.le_of_lt hlt) ▸ hj, hlabel⟩⟩

private theorem FaultAt.lt_length (h : FaultAt entries i) : i < entries.length := by
  obtain ⟨e, hi, -⟩ := h
  exact (List.getElem?_eq_some_iff.mp hi).1

private theorem isLeast_faultAt_congr {others : List Entry} (h : IsLeast {k | FaultAt entries k} i)
    (hsame : ∀ k ≤ i, entries[k]? = others[k]?) : IsLeast {k | FaultAt others k} i := by
  refine ⟨FaultAt.congr h.1 hsame, fun k hk => ?_⟩
  by_contra hlt
  have hback : FaultAt entries k := FaultAt.congr hk fun m hm => (hsame m (by omega)).symm
  exact hlt (h.2 hback)

private theorem firstFault_take_of_isLeast (h : IsLeast {k | FaultAt entries k} i) :
    firstFault [] (entries.take i) = none := by
  refine firstFault_nil_eq_none_iff.mpr fun k hk => ?_
  have hlt : k < i := by
    have := hk.lt_length
    simp only [List.length_take] at this
    omega
  have hfault : FaultAt entries k :=
    hk.congr fun m hm => List.getElem?_take_of_lt (Nat.lt_of_le_of_lt hm hlt)
  exact absurd (h.2 hfault) (Nat.not_le.mpr hlt)

def faultOf (e : Entry) : CatalogError :=
  if Text.allBlank e.label then .blankLabel else .duplicateLabel e.label

/-- The first place that breaks a rule decides the error. -/
theorem firstFault_of_isLeast (h : IsLeast {k | FaultAt entries k} i)
    (hi : entries[i]? = some e) : firstFault [] entries = some (faultOf e) := by
  -- the scan passes everything before the place, and has then seen the labels that stand there
  have hsplit : entries = entries.take i ++ e :: entries.drop (i + 1) := by
    obtain ⟨hlength, rfl⟩ := List.getElem?_eq_some_iff.mp hi
    rw [List.getElem_cons_drop, List.take_append_drop]
  rw [hsplit, firstFault_append (firstFault_take_of_isLeast h), faultOf]
  by_cases hblank : Text.allBlank e.label = true
  · rw [if_pos hblank, firstFault_of_blank hblank]
  · have hvisible : Text.allBlank e.label = false := by simpa using hblank
    obtain ⟨e', he', hall | ⟨j, hlt, other, hj, hlabel⟩⟩ := h.1
    · obtain rfl := Option.some.inj (hi.symm.trans he')
      exact absurd (Text.allBlank_iff.mpr hall) hblank
    · obtain rfl := Option.some.inj (hi.symm.trans he')
      have hother : other ∈ entries.take i :=
        List.mem_of_getElem? ((List.getElem?_take_of_lt hlt).trans hj)
      have hseen : e.label ∈ ((entries.take i).map Entry.label).reverse ++ [] := by
        rw [List.append_nil, List.mem_reverse]
        exact hlabel ▸ List.mem_map_of_mem hother
      rw [if_neg hblank, firstFault_of_seen hvisible hseen]

/-! Admission -/

theorem ofEntries_eq_ok_iff {c : Catalog} :
    ofEntries entries = .ok c ↔
      entries ≠ [] ∧ firstFault [] entries = none ∧ c = ⟨entries⟩ := by
  unfold ofEntries
  cases hfault : firstFault [] entries <;> cases entries <;> simp [eq_comm]

private theorem exists_ofEntries_iff :
    (∃ c, ofEntries entries = .ok c) ↔
      entries ≠ [] ∧ (∀ e ∈ entries, ∃ c ∈ e.label.toList, Text.isBlank c = false) ∧
        (entries.map Entry.label).Nodup := by
  simp only [← Text.allBlank_eq_false_iff]
  simp [ofEntries_eq_ok_iff, firstFault_eq_none_iff]

private theorem ofEntries_eq_error_iff {fault : CatalogError} (hne : entries ≠ []) :
    ofEntries entries = .error fault ↔ firstFault [] entries = some fault := by
  unfold ofEntries
  cases hfault : firstFault [] entries <;> cases entries <;> simp_all

private theorem exists_isLeast_of_firstFault {fault : CatalogError}
    (h : firstFault [] entries = some fault) : ∃ i, IsLeast {k | FaultAt entries k} i := by
  have hsome : ∃ i, FaultAt entries i := by
    by_contra hnone
    rw [firstFault_nil_eq_none_iff.mpr (not_exists.mp hnone)] at h
    exact absurd h (by simp)
  classical
  exact ⟨Nat.find hsome, Nat.find_spec hsome, fun _ hk => Nat.find_min' hsome hk⟩

private theorem ofEntries_take_append (h : IsLeast {k | FaultAt entries k} i)
    (hi : entries[i]? = some e)
    (after : List Entry) : ofEntries (entries.take (i + 1) ++ after) = .error (faultOf e) := by
  have hlength : i < entries.length := FaultAt.lt_length h.1
  have hsame : ∀ k ≤ i, entries[k]? = (entries.take (i + 1) ++ after)[k]? := by
    intro k hk
    have hlt : k < (entries.take (i + 1)).length := by
      simp only [List.length_take]
      omega
    rw [List.getElem?_append_left hlt, List.getElem?_take_of_lt (Nat.lt_succ_of_le hk)]
  have hthere : (entries.take (i + 1) ++ after)[i]? = some e := hsame i (Nat.le_refl i) ▸ hi
  have hne : entries.take (i + 1) ++ after ≠ [] := List.ne_nil_of_mem (List.mem_of_getElem? hthere)
  rw [ofEntries_eq_error_iff hne, firstFault_of_isLeast (isLeast_faultAt_congr h hsame) hthere]

/-- A list of entries is a catalog if it is not empty, every label has a character that is not blank
and no two labels are equal; the catalog has these entries, and for each of them in turn an item,
which no other entry has. What is told about another list that is not empty is told of the first
entry whose label is blank or stands before, and stays the same whatever comes after it. -/
theorem ofEntries_admission (entries : List Entry) :
    ((∃ c, ofEntries entries = .ok c) ↔
      entries ≠ [] ∧ (∀ e ∈ entries, ∃ c ∈ e.label.toList, Text.isBlank c = false) ∧
        (entries.map Entry.label).Nodup) ∧
    (∀ c, ofEntries entries = .ok c →
      c.entries = entries ∧ c.items.length = entries.length ∧
        ∀ i : Nat, c.items[i]? = entries[i]?.map Entry.toItem) ∧
    (∀ e e' : Entry, e ≠ e' → e.toItem ≠ e'.toItem) ∧
    (∀ fault, entries ≠ [] → ofEntries entries = .error fault →
      ∃ i e, IsLeast {k | FaultAt entries k} i ∧ entries[i]? = some e ∧
        ((∀ c ∈ e.label.toList, Text.isBlank c = true) → fault = .blankLabel) ∧
        ((∃ c ∈ e.label.toList, Text.isBlank c = false) → fault = .duplicateLabel e.label) ∧
        ∀ after, ofEntries (entries.take (i + 1) ++ after) = .error fault) ∧
    CatalogError.message .blankLabel = "entry with empty label" ∧
    ∀ label,
      CatalogError.message (.duplicateLabel label) = "duplicate label '" ++ label ++ "'" := by
  refine ⟨exists_ofEntries_iff, ?_, fun e e' hne heq => hne (Entry.toItem_injective heq), ?_, rfl,
    fun _ => rfl⟩
  · intro c hc
    obtain ⟨-, -, rfl⟩ := ofEntries_eq_ok_iff.mp hc
    exact ⟨rfl, by simp [items], fun i => by simp [items]⟩
  · intro fault hne hfault
    rw [ofEntries_eq_error_iff hne] at hfault
    obtain ⟨i, hleast⟩ := exists_isLeast_of_firstFault hfault
    obtain ⟨e, hi, -⟩ := id hleast.1
    have hdecides : fault = faultOf e := by
      rw [firstFault_of_isLeast hleast hi] at hfault
      exact (Option.some.inj hfault).symm
    refine ⟨i, e, hleast, hi, fun hblank => ?_, fun hvisible => ?_, fun after => ?_⟩
    · rw [hdecides, faultOf, if_pos (Text.allBlank_iff.mpr hblank)]
    · rw [hdecides, faultOf, Text.allBlank_eq_false_iff.mpr hvisible, if_neg Bool.false_ne_true]
    · rw [hdecides, ofEntries_take_append hleast hi]

/-- A label that is repeated comes before a blank one, and decides. -/
theorem ofEntries_admission_repeated_before_blank :
    let entry (label : String) : Entry := ⟨label, .keyword, none, none, "", none⟩
    let entries : List Entry := [entry "If", entry "Then", entry "If", entry "\t "]
    ofEntries entries = .error (.duplicateLabel "If") ∧
      ∃ i e, IsLeast {k | FaultAt entries k} i ∧ entries[i]? = some e ∧
        ofEntries (entries.take (i + 1) ++ [entry "Next"]) = .error (.duplicateLabel "If") := by
  intro entry entries
  have hrefused : ofEntries entries = .error (.duplicateLabel "If") :=
    (ofEntries_eq_error_iff (by simp [entries])).mpr (by decide +kernel)
  obtain ⟨-, -, -, hfault, -⟩ := ofEntries_admission entries
  obtain ⟨i, e, hleast, hi, -, -, hafter⟩ := hfault _ (by simp [entries]) hrefused
  exact ⟨hrefused, i, e, hleast, hi, hafter _⟩

end Catalog

end ClassPad
