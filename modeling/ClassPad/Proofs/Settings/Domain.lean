import ClassPad.Proofs.Decode.Domain
import ClassPad.Proofs.Settings.Limit

/-!
What a client can say about the limit. A configuration leaves it open or names a number for it, in
an object or in an array of one item; whatever does neither, or names a number that has no 32 bits,
is malformed. Settings written in JSON are read back, and a notification is as good as the part of
it that belongs to the checker.
-/

set_option autoImplicit false
set_option relaxedAutoImplicit false

namespace ClassPad.Settings

/-- A configuration that leaves the limit open. -/
def Silent (value : Json) : Prop :=
  value = .null ∨ value = .arr [] ∨
    ∃ members, value = .obj members ∧ members.lookup "maxNumberOfProblems" = none

/-- A configuration that names a number for the limit. -/
def Names (value : Json) (n : Int) : Prop :=
  value = .arr [.int n] ∨
    ∃ members, value = .obj members ∧ members.lookup "maxNumberOfProblems" = some (.int n)

variable {value : Json} {n : Int}

/-! Reading the record -/

private theorem nodup_fields : (fields.map Prod.fst).Nodup := by simp [fields]

private theorem given_arr (items : List Json) :
    Shape.given fields "maxNumberOfProblems" (.arr items) = items.head? := by
  rw [List.head?_eq_getElem?]
  rfl

private theorem Silent.given (h : Silent value) :
    Shape.given fields "maxNumberOfProblems" value = none := by
  rcases h with rfl | rfl | ⟨members, rfl, hnone⟩
  · rfl
  · exact given_arr []
  · exact hnone

private theorem Names.given (h : Names value n) :
    Shape.given fields "maxNumberOfProblems" value = some (.int n) := by
  rcases h with rfl | ⟨members, rfl, hsome⟩
  · exact given_arr [.int n]
  · exact hsome

private theorem Names.ne_null (h : Names value n) : value ≠ .null := by
  rcases h with rfl | ⟨members, rfl, -⟩ <;> simp

private theorem readGiven_limit_iff {given : Option Json} :
    (∃ v, Shape.readGiven .defaulted (Shape.readAs Shape.uint32 .direct) given = .ok v) ↔
      given = none ∨ ∃ n : Int, given = some (.int n) ∧ 0 ≤ n ∧ n ≤ 4294967295 := by
  cases given with
  | none => simp [Shape.readGiven]
  | some limit =>
    rw [or_iff_right (by simp)]
    constructor
    · rintro ⟨v, hv⟩
      obtain ⟨w, hw, -⟩ := exists_of_map_eq_ok hv
      obtain ⟨n, rfl, -, hlow, hhigh⟩ := Shape.eq_int_of_readAs hw
      exact ⟨n, rfl, hlow, hhigh⟩
    · rintro ⟨n, hn, hbounds⟩
      obtain rfl := Option.some.inj hn
      exact ⟨some (.int n), by simp [Shape.readGiven, Shape.readPresent, Shape.uint32,
        Shape.readAs, hbounds, Except.map]⟩

private theorem readable_iff :
    Shape.Readable fields .direct value ↔
      ((∃ members, value = .obj members) ∨ ∃ items, value = .arr items ∧ items.length ≤ 1) ∧
        (Shape.given fields "maxNumberOfProblems" value = none ∨
          ∃ n : Int, Shape.given fields "maxNumberOfProblems" value = some (.int n) ∧
            0 ≤ n ∧ n ≤ 4294967295) := by
  rw [← readGiven_limit_iff]
  constructor
  · rintro ⟨hform, -, hsound⟩
    exact ⟨hform, hsound _ _ _ (List.mem_singleton_self _)⟩
  · rintro ⟨hform, hsound⟩
    have honly : ∀ key presence shape, (key, presence, shape) ∈ fields →
        key = "maxNumberOfProblems" ∧ presence = .defaulted ∧ shape = Shape.uint32 := by
      intro key presence shape hmem
      simpa [fields] using hmem
    refine ⟨hform, ?_, ?_⟩
    · intro key presence shape hmem _
      obtain ⟨rfl, rfl, rfl⟩ := honly key presence shape hmem
      rcases hform with ⟨members, rfl⟩ | ⟨items, rfl, -⟩ <;> rfl
    · intro key presence shape hmem
      obtain ⟨rfl, rfl, rfl⟩ := honly key presence shape hmem
      exact hsound

private theorem exists_decode_iff :
    (∃ s, decode value = .ok s) ↔ Shape.Readable fields .direct value := by
  rw [← Shape.exists_readAs_iff "Settings" nodup_fields]
  constructor
  · rintro ⟨s, hs⟩
    obtain ⟨normal, hread, -⟩ := exists_of_map_eq_ok hs
    exact ⟨normal, hread⟩
  · rintro ⟨normal, hread⟩
    exact ⟨ofNormal normal, congrArg (Except.map ofNormal) hread⟩

private theorem decode_of_silent (hne : value ≠ .null) (h : Silent value) :
    decode value = .ok standard := by
  have hform : (∃ members, value = .obj members) ∨
      ∃ items, value = .arr items ∧ items.length ≤ 1 := by
    rcases h with rfl | rfl | ⟨members, rfl, -⟩
    · exact absurd rfl hne
    · exact .inr ⟨[], rfl, Nat.zero_le 1⟩
    · exact .inl ⟨members, rfl⟩
  obtain ⟨s, hs⟩ := exists_decode_iff.mpr (readable_iff.mpr ⟨hform, .inl h.given⟩)
  rcases decode_eq_ok hs with ⟨-, rfl⟩ | ⟨n, hn, -⟩
  · exact hs
  · rw [h.given] at hn
    exact absurd hn (by simp)

private theorem decode_of_names (h : Names value n) (hlow : 0 ≤ n) (hhigh : n ≤ 4294967295) :
    decode value = .ok ⟨n.toNat⟩ := by
  have hform : (∃ members, value = .obj members) ∨
      ∃ items, value = .arr items ∧ items.length ≤ 1 := by
    rcases h with rfl | ⟨members, rfl, -⟩
    · exact .inr ⟨[.int n], rfl, Nat.le_refl 1⟩
    · exact .inl ⟨members, rfl⟩
  obtain ⟨s, hs⟩ := exists_decode_iff.mpr
    (readable_iff.mpr ⟨hform, .inr ⟨n, h.given, hlow, hhigh⟩⟩)
  rcases decode_eq_ok hs with ⟨hnone, -⟩ | ⟨m, hm, -, -, rfl⟩
  · rw [h.given] at hnone
    exact absurd hnone (by simp)
  · rw [h.given] at hm
    obtain rfl : n = m := by simpa using hm
    exact hs

private theorem silent_or_names_of_decode {s : Settings} (h : decode value = .ok s) :
    Silent value ∨ ∃ n, Names value n ∧ 0 ≤ n ∧ n ≤ 4294967295 := by
  obtain ⟨⟨members, rfl⟩ | ⟨items, rfl, hlength⟩, hgiven⟩ :=
    readable_iff.mp (exists_decode_iff.mp ⟨s, h⟩)
  · rcases hgiven with hnone | ⟨n, hn, hbounds⟩
    · exact .inl (.inr (.inr ⟨members, rfl, hnone⟩))
    · exact .inr ⟨n, .inr ⟨members, rfl, hn⟩, hbounds⟩
  · cases items with
    | nil => exact .inl (.inr (.inl rfl))
    | cons first rest =>
      obtain rfl : rest = [] := by simpa using hlength
      -- an item is given, so the default does not apply
      rw [given_arr, List.head?_cons] at hgiven
      rcases hgiven with hnone | ⟨n, hn, hbounds⟩
      · exact absurd hnone (by simp)
      · obtain rfl := Option.some.inj hn
        exact .inr ⟨n, .inl rfl, hbounds⟩

/-! Configurations -/

private theorem ofConfiguration_of_decode (hne : value ≠ .null) {s : Settings}
    (h : decode value = .ok s) :
    ofConfiguration value = if s.maxNumberOfProblems = 0 then .error .zeroLimit else .ok s := by
  unfold ofConfiguration
  split
  · exact absurd rfl hne
  · rw [h]

private theorem ofConfiguration_of_error (hne : value ≠ .null) {e : DecodeError}
    (h : decode value = .error e) : ofConfiguration value = .error (.malformed e) := by
  unfold ofConfiguration
  split
  · exact absurd rfl hne
  · rw [h]

private theorem ofConfiguration_of_silent (h : Silent value) :
    ofConfiguration value = .ok standard := by
  by_cases hnull : value = .null
  · rw [hnull, ofConfiguration]
  · rw [ofConfiguration_of_decode hnull (decode_of_silent hnull h), if_neg (by decide)]

private theorem ofConfiguration_of_names (h : Names value n) (hlow : 0 ≤ n)
    (hhigh : n ≤ 4294967295) :
    ofConfiguration value = if n = 0 then .error .zeroLimit else .ok ⟨n.toNat⟩ := by
  have hzero : n.toNat = 0 ↔ n = 0 := by omega
  rw [ofConfiguration_of_decode h.ne_null (decode_of_names h hlow hhigh)]
  simp only [hzero]

private theorem ofConfiguration_of_neither (hsilent : ¬Silent value)
    (hnames : ∀ n, Names value n → ¬(0 ≤ n ∧ n ≤ 4294967295)) :
    ∃ e, ofConfiguration value = .error (.malformed e) := by
  have hne : value ≠ .null := fun hnull => hsilent (.inl hnull)
  cases hdecode : decode value with
  | error e => exact ⟨e, ofConfiguration_of_error hne hdecode⟩
  | ok s =>
    rcases silent_or_names_of_decode hdecode with hopen | ⟨n, hn, hbounds⟩
    · exact absurd hopen hsilent
    · exact absurd hbounds (hnames n hn)

private theorem names_toJson (s : Settings) : Names s.toJson s.maxNumberOfProblems :=
  .inr ⟨_, rfl, by simp [Json.nat]⟩

private theorem ofConfiguration_toJson {s : Settings} (h : s.Usable) :
    ofConfiguration s.toJson = .ok s := by
  obtain ⟨hlow, hhigh⟩ := h
  have hne : (s.maxNumberOfProblems : Int) ≠ 0 := by omega
  rw [ofConfiguration_of_names (names_toJson s) (by omega) (by omega), if_neg hne,
    Int.toNat_natCast]

/-! Notifications -/

private theorem ofChangeNotification_of_ok {payload : Json} {s : Settings}
    (hpart : payload.get? sectionName = some value) (h : ofConfiguration value = .ok s) :
    ofChangeNotification payload = s := by
  rw [ofChangeNotification, hpart]
  simp only [h]

private theorem ofChangeNotification_of_unusable {payload : Json}
    (h : ∀ value s, payload.get? sectionName = some value → ofConfiguration value ≠ .ok s) :
    ofChangeNotification payload = standard := by
  unfold ofChangeNotification
  split
  · rfl
  · rename_i value hpart
    split
    · rename_i s hs
      exact absurd hs (h value s hpart)
    · rfl

/-- A configuration that leaves the limit open gives the standard settings, one that names a number
of 32 bits gives settings with that limit unless it is zero, and any other is malformed. Usable
settings are read back from JSON. A notification gives the settings in its part for the checker if
it is an object that has this part and they can be read, and the standard ones otherwise. -/
theorem ofConfiguration_exact (value : Json) (n : Int) (s : Settings) (payload : Json) :
    (Silent value → ofConfiguration value = .ok ⟨1000⟩) ∧
    (Names value n → 1 ≤ n → n ≤ 4294967295 → ofConfiguration value = .ok ⟨n.toNat⟩) ∧
    (Names value 0 → ofConfiguration value = .error .zeroLimit) ∧
    (¬Silent value → (∀ m, Names value m → ¬(0 ≤ m ∧ m ≤ 4294967295)) →
      ∃ e, ofConfiguration value = .error (.malformed e)) ∧
    (s.Usable → ofConfiguration s.toJson = .ok s) ∧
    (∀ members part, payload = .obj members → members.lookup "classpad" = some part →
      ofConfiguration part = .ok s → ofChangeNotification payload = s) ∧
    ((∀ members part t, payload = .obj members → members.lookup "classpad" = some part →
      ofConfiguration part ≠ .ok t) → ofChangeNotification payload = ⟨1000⟩) := by
  refine ⟨ofConfiguration_of_silent, ?_, ?_, ofConfiguration_of_neither, ofConfiguration_toJson,
    ?_, ?_⟩
  · intro hnames hlow hhigh
    have hne : n ≠ 0 := by omega
    rw [ofConfiguration_of_names hnames (by omega) hhigh, if_neg hne]
  · intro hnames
    rw [ofConfiguration_of_names hnames (by decide) (by decide), if_pos rfl]
  · rintro members part rfl hpart hs
    exact ofChangeNotification_of_ok hpart hs
  · intro hnone
    refine ofChangeNotification_of_unusable fun part t hpart => ?_
    cases payload with
    | obj members => exact hnone members part t rfl hpart
    | _ => exact absurd hpart (by simp [Json.get?])

/-- A limit in an array, in a notification and beside another item. -/
theorem ofConfiguration_exact_array :
    ofConfiguration (.arr [.int 5]) = .ok ⟨5⟩ ∧
      ofChangeNotification (.obj [("classpad", .arr [.int 5])]) = ⟨5⟩ ∧
      ∃ e, ofConfiguration (.arr [.int 5, .int 6]) = .error (.malformed e) := by
  have hone : ofConfiguration (.arr [.int 5]) = .ok ⟨5⟩ :=
    (ofConfiguration_exact (.arr [.int 5]) 5 ⟨5⟩ .null).2.1 (.inl rfl) (by decide) (by decide)
  obtain ⟨-, -, -, -, -, hpushed, -⟩ :=
    ofConfiguration_exact .null 5 ⟨5⟩ (.obj [("classpad", .arr [.int 5])])
  obtain ⟨-, -, -, hother, -⟩ := ofConfiguration_exact (.arr [.int 5, .int 6]) 5 ⟨5⟩ .null
  refine ⟨hone, hpushed _ _ rfl rfl hone, hother ?_ ?_⟩
  · simp [Silent]
  · simp [Names]

end ClassPad.Settings
