import Mathlib.Data.List.ProdSigma
import ClassPad.Diagnostic
import ClassPad.Proofs.Position

/-!
The words of a text by their bounds. A word stands between two points if the characters between them
are word characters and neither the one before nor the one after is. The scan over a text finds the
words between all pairs of points for which this holds, from left to right.
-/

set_option autoImplicit false
set_option relaxedAutoImplicit false

namespace ClassPad.Text

def wordAt (text : List Char) (i : Nat) : Bool := text[i]?.any isWordChar

def capitalAt (text : List Char) (i : Nat) : Bool := text[i]?.any isCapital

/-- A longest run of word characters stands between two points. -/
def WordBetween (text : List Char) (i j : Nat) : Prop :=
  i < j ∧ (∀ k < j, i ≤ k → wordAt text k = true) ∧
    (i = 0 ∨ wordAt text (i - 1) = false) ∧ wordAt text j = false

instance (text : List Char) (i j : Nat) : Decidable (WordBetween text i j) :=
  inferInstanceAs (Decidable (i < j ∧ (∀ k < j, i ≤ k → wordAt text k = true) ∧
    (i = 0 ∨ wordAt text (i - 1) = false) ∧ wordAt text j = false))

/-- The word between two points has two or more characters, all of them capitals. -/
def LoudBetween (text : List Char) (i j : Nat) : Prop :=
  WordBetween text i j ∧ i + 2 ≤ j ∧ ∀ k < j, i ≤ k → capitalAt text k = true

instance (text : List Char) (i j : Nat) : Decidable (LoudBetween text i j) :=
  inferInstanceAs (Decidable
    (WordBetween text i j ∧ i + 2 ≤ j ∧ ∀ k < j, i ≤ k → capitalAt text k = true))

def pointPairs (text : List Char) : List (Nat × Nat) :=
  List.range (text.length + 1) ×ˢ List.range (text.length + 1)

def wordBounds (text : List Char) : List (Nat × Nat) :=
  (pointPairs text).filter fun b => WordBetween text b.1 b.2

def loudBounds (text : List Char) : List (Nat × Nat) :=
  (pointPairs text).filter fun b => LoudBetween text b.1 b.2

theorem isWordChar_of_isCapital {c : Char} (h : isCapital c = true) : isWordChar c = true := by
  simp only [isCapital, isWordChar] at h ⊢
  simp [h]

theorem wordAt_of_capitalAt {text : List Char} {i : Nat} (h : capitalAt text i = true) :
    wordAt text i = true := by
  unfold capitalAt at h
  unfold wordAt
  cases hc : text[i]? with
  | none => simp [hc] at h
  | some c =>
    rw [hc] at h
    exact isWordChar_of_isCapital h

theorem lt_length_of_wordAt {text : List Char} {i : Nat} (h : wordAt text i = true) :
    i < text.length := by
  by_contra hge
  simp [wordAt, List.getElem?_eq_none (Nat.le_of_not_lt hge)] at h

namespace WordBetween

variable {text : List Char} {i j i' j' : Nat}

theorem wordAt_start (h : WordBetween text i j) : wordAt text i = true :=
  h.2.1 i h.1 (Nat.le_refl i)

theorem stop_le (h : WordBetween text i j) : j ≤ text.length := by
  have hlast : wordAt text (j - 1) = true := by
    obtain ⟨hij, hword, -⟩ := h
    exact hword (j - 1) (by omega) (by omega)
  have := lt_length_of_wordAt hlast
  omega

theorem stop_unique (h : WordBetween text i j) (h' : WordBetween text i j') : j = j' := by
  obtain ⟨hij, hword, -, hstop⟩ := h
  obtain ⟨hij', hword', -, hstop'⟩ := h'
  rcases Nat.lt_trichotomy j j' with hlt | heq | hgt
  · rw [hword' j hlt (by omega)] at hstop
    exact absurd hstop (by simp)
  · exact heq
  · rw [hword j' hgt (by omega)] at hstop'
    exact absurd hstop' (by simp)

/-- Of two words, one ends before the other starts, with at least one character between them. -/
theorem stop_lt_start (h : WordBetween text i j) (h' : WordBetween text i' j') (hlt : i < i') :
    j < i' := by
  have hstart := h'.wordAt_start
  obtain ⟨-, hword, -, hstop⟩ := h
  obtain ⟨-, -, hfresh, -⟩ := h'
  by_contra hge
  rcases Nat.lt_or_eq_of_le (Nat.le_of_not_lt hge) with hinside | rfl
  · -- the character before the second word would belong to the first
    have hbefore := hword (i' - 1) (by omega) (by omega)
    rcases hfresh with rfl | hfresh
    · omega
    · simp [hbefore] at hfresh
  · simp [hstop] at hstart

end WordBetween

private theorem mem_pointPairs {text : List Char} {b : Nat × Nat} :
    b ∈ pointPairs text ↔ b.1 ≤ text.length ∧ b.2 ≤ text.length := by
  obtain ⟨i, j⟩ := b
  simp only [pointPairs, List.mem_product, List.mem_range, Nat.lt_add_one_iff]

private theorem mem_wordBounds {text : List Char} {b : Nat × Nat} :
    b ∈ wordBounds text ↔ WordBetween text b.1 b.2 := by
  simp only [wordBounds, List.mem_filter, mem_pointPairs, decide_eq_true_eq, and_iff_right_iff_imp]
  intro h
  have := h.1
  have := h.stop_le
  omega

theorem mem_loudBounds {text : List Char} {b : Nat × Nat} :
    b ∈ loudBounds text ↔ LoudBetween text b.1 b.2 := by
  simp only [loudBounds, List.mem_filter, mem_pointPairs, decide_eq_true_eq, and_iff_right_iff_imp]
  intro h
  have := h.1.1
  have := h.1.stop_le
  omega

/-- A letter beyond ASCII ends a word, and an underscore does not. -/
example : loudBounds ['θ', 'A', 'B', '+', 'C', 'D', '_', ' ', 'E'] = [(1, 3)] := by decide

/-! Order -/

private theorem pairwise_pointPairs (text : List Char) :
    (pointPairs text).Pairwise fun b c => b.1 < c.1 ∨ b.1 = c.1 ∧ b.2 < c.2 := by
  have hrow : ∀ i : Nat, ((List.range (text.length + 1)).map (Prod.mk i)).Pairwise
      fun b c => b.1 < c.1 ∨ b.1 = c.1 ∧ b.2 < c.2 := by
    intro i
    rw [List.pairwise_map]
    exact List.pairwise_lt_range.imp fun h => .inr ⟨rfl, h⟩
  refine List.pairwise_flatMap.mpr ⟨fun i _ => hrow i, ?_⟩
  refine (List.pairwise_lt_range (n := text.length + 1)).imp ?_
  intro i i' hlt b hb c hc
  obtain ⟨j, -, rfl⟩ := List.mem_map.mp hb
  obtain ⟨j', -, rfl⟩ := List.mem_map.mp hc
  exact .inl hlt

private theorem pairwise_wordBounds (text : List Char) :
    (wordBounds text).Pairwise fun b c => b.2 < c.1 := by
  refine ((pairwise_pointPairs text).filter _).imp_of_mem fun {b c} hb hc horder => ?_
  have hword := mem_wordBounds.mp hb
  have hword' := mem_wordBounds.mp hc
  rcases horder with hlt | ⟨heq, hlt⟩
  · exact hword.stop_lt_start hword' hlt
  · rw [← heq] at hword'
    exact absurd (hword.stop_unique hword') (Nat.ne_of_lt hlt)

private theorem loudBounds_eq_filter (text : List Char) :
    loudBounds text = (wordBounds text).filter fun b => LoudBetween text b.1 b.2 := by
  rw [wordBounds, List.filter_filter, loudBounds]
  refine List.filter_congr fun b _ => ?_
  rw [← Bool.decide_and]
  exact decide_eq_decide.mpr ⟨fun h => ⟨h, h.1⟩, fun h => h.1⟩

theorem pairwise_loudBounds (text : List Char) :
    (loudBounds text).Pairwise fun b c => b.2 < c.1 := by
  rw [loudBounds_eq_filter]
  exact (pairwise_wordBounds text).filter _

def since (point : Nat) (bounds : List (Nat × Nat)) : List (Nat × Nat) :=
  bounds.filter fun b => point ≤ b.1

theorem mem_since {point : Nat} {bounds : List (Nat × Nat)} {b : Nat × Nat} :
    b ∈ since point bounds ↔ b ∈ bounds ∧ point ≤ b.1 := by
  simp [since]

theorem since_zero (bounds : List (Nat × Nat)) : since 0 bounds = bounds := by
  simp [since]

theorem since_eq_cons {bounds : List (Nat × Nat)} (hapart : bounds.Pairwise fun b c => b.2 < c.1)
    (hproper : ∀ b ∈ bounds, b.1 < b.2) {b : Nat × Nat} (hb : b ∈ bounds) {point : Nat}
    (hlow : b.2 ≤ point) (hhigh : point ≤ b.2 + 1) :
    since b.1 bounds = b :: since point bounds := by
  obtain ⟨before, after, rfl⟩ := List.append_of_mem hb
  obtain ⟨-, hafter, hbefore⟩ := List.pairwise_append.mp hapart
  have hlater : ∀ c ∈ after, b.2 < c.1 := (List.pairwise_cons.mp hafter).1
  have hb' := hproper b hb
  -- what stands before `b` starts too early, and what stands after it starts late enough
  have hnone : ∀ low, b.1 ≤ low → since low before = [] := by
    intro low hlow
    refine List.filter_eq_nil_iff.mpr fun c hc => ?_
    have := hproper c (List.mem_append_left _ hc)
    have := hbefore c hc b List.mem_cons_self
    simp only [decide_eq_true_eq]
    omega
  have hall : ∀ low ≤ b.2 + 1, since low after = after := by
    intro low hlow
    refine List.filter_eq_self.mpr fun c hc => ?_
    have := hlater c hc
    simp only [decide_eq_true_eq]
    omega
  have hsplit : ∀ low, since low (before ++ b :: after) =
      since low before ++ since low [b] ++ since low after := by
    intro low
    simp only [since, List.append_assoc, ← List.filter_append, List.singleton_append]
  have hfirst : since b.1 [b] = [b] := by simp [since]
  have hgone : since point [b] = [] := by
    simp only [since, List.filter_cons, List.filter_nil, decide_eq_true_eq]
    rw [if_neg (by omega)]
  rw [hsplit, hsplit, hnone _ (Nat.le_refl _), hnone point (by omega), hall _ (by omega),
    hall _ hhigh, hfirst, hgone]
  rfl

/-! The scan -/

def wordOf (text : List Char) (b : Nat × Nat) : Word :=
  ⟨⟨positionAt text b.1, positionAt text b.2⟩, text.extract b.1 b.2⟩

private theorem since_wordBounds_of_gap {text : List Char} {q : Nat} (h : wordAt text q = false) :
    since q (wordBounds text) = since (q + 1) (wordBounds text) := by
  refine List.filter_congr fun b hb => decide_eq_decide.mpr ?_
  have hstart := (mem_wordBounds.mp hb).wordAt_start
  have hne : b.1 ≠ q := by
    rintro rfl
    simp [h] at hstart
  omega

private theorem since_wordBounds_of_word {text : List Char} {q j : Nat}
    (h : WordBetween text q j) :
    since q (wordBounds text) = (q, j) :: since (j + 1) (wordBounds text) := by
  have hmem : (q, j) ∈ wordBounds text := mem_wordBounds.mpr h
  exact since_eq_cons (pairwise_wordBounds text) (fun _ hb => (mem_wordBounds.mp hb).1) hmem
    (Nat.le_succ j) (Nat.le_refl _)

private theorem since_wordBounds_of_length_le {text : List Char} {q : Nat}
    (h : text.length ≤ q) : since q (wordBounds text) = [] := by
  refine List.filter_eq_nil_iff.mpr fun b hb => ?_
  have hlt := lt_length_of_wordAt (mem_wordBounds.mp hb).wordAt_start
  simp only [decide_eq_true_eq]
  omega

theorem wordsFrom_of_word {c : Char} (hc : isWordChar c = true) (start here : Position)
    (run rest : List Char) :
    wordsFrom start here run (c :: rest) =
      wordsFrom (if run.isEmpty then here else start) (here.advance (stride c rest.head?))
        (c :: run) rest := by
  rw [wordsFrom, if_pos hc]

theorem wordsFrom_of_gap {c : Char} (hc : isWordChar c = false) (start here : Position)
    (run rest : List Char) :
    wordsFrom start here run (c :: rest) =
      closeRun start here run ++ wordsFrom (here.advance (stride c rest.head?))
        (here.advance (stride c rest.head?)) [] rest := by
  rw [wordsFrom, if_neg (by simp [hc])]
  cases run <;> rfl

/-- What a scan has seen of the word it is in: the word starts at `q` and is `run` so far. -/
private structure Inside (text : List Char) (q : Nat) (run : List Char) (start : Position) :
    Prop where
  chars : text.extract q (q + run.length) = run.reverse
  word : ∀ k < q + run.length, q ≤ k → wordAt text k = true
  fresh : q = 0 ∨ wordAt text (q - 1) = false
  start_eq : run ≠ [] → start = positionAt text q

private theorem Inside.closeRun_eq {text : List Char} {q : Nat} {run : List Char}
    {start : Position} (h : Inside text q run start)
    (hstop : wordAt text (q + run.length) = false) :
    closeRun start (positionAt text (q + run.length)) run ++
        (since (q + run.length + 1) (wordBounds text)).map (wordOf text) =
      (since q (wordBounds text)).map (wordOf text) := by
  cases hrun : run with
  | nil =>
    rw [hrun] at hstop
    rw [since_wordBounds_of_gap (q := q) hstop]
    rfl
  | cons c rest =>
    have hne : run ≠ [] := by simp [hrun]
    have hlen : 0 < run.length := List.length_pos_iff.mpr hne
    have hbetween : WordBetween text q (q + run.length) :=
      ⟨by omega, h.word, h.fresh, hstop⟩
    rw [← hrun, since_wordBounds_of_word hbetween, List.map_cons, wordOf, h.chars, ← h.start_eq hne,
      hrun]
    rfl

private theorem Inside.extend {text : List Char} {q : Nat} {run : List Char} {start : Position}
    (h : Inside text q run start) {c : Char} (hc : text[q + run.length]? = some c)
    (hword : isWordChar c = true) :
    Inside text q (c :: run)
      (if run.isEmpty then positionAt text (q + run.length) else start) where
  chars := by
    have hlen : q + (c :: run).length - q = (q + run.length - q) + 1 := by
      rw [List.length_cons]
      omega
    have hat : (text.drop q)[q + run.length - q]? = some c := by
      rw [List.getElem?_drop, ← hc]
      congr 1
      omega
    have hchars := h.chars
    rw [List.extract_eq_take_drop] at hchars ⊢
    rw [hlen, List.take_add_one, hchars, hat, List.reverse_cons]
    rfl
  word := by
    intro k hk hqk
    rw [List.length_cons] at hk
    rcases Nat.lt_or_ge k (q + run.length) with hlt | hge
    · exact h.word k hlt hqk
    · obtain rfl : k = q + run.length := by omega
      simp [wordAt, hc, hword]
  fresh := h.fresh
  start_eq := by
    intro _
    cases run with
    | nil => rfl
    | cons d rest => exact h.start_eq (by simp)

private theorem inside_nil {text : List Char} {q : Nat}
    (h : q = 0 ∨ wordAt text (q - 1) = false) (start : Position) : Inside text q [] start where
  chars := by simp [List.extract_eq_take_drop]
  word := by
    intro k hk hqk
    simp only [List.length_nil] at hk
    omega
  fresh := h
  start_eq := fun hne => absurd rfl hne

/-- From inside a word, the scan finds that word and all that follow. -/
private theorem wordsFrom_eq {text rest : List Char} {q : Nat} {run : List Char} {start : Position}
    (h : Inside text q run start) (hrest : text.drop (q + run.length) = rest) :
    wordsFrom start (positionAt text (q + run.length)) run rest =
      (since q (wordBounds text)).map (wordOf text) := by
  induction rest generalizing q run start with
  | nil =>
    have hend : text.length ≤ q + run.length := List.drop_eq_nil_iff.mp hrest
    have hstop : wordAt text (q + run.length) = false := by
      simp [wordAt, List.getElem?_eq_none hend]
    rw [← h.closeRun_eq hstop, since_wordBounds_of_length_le (Nat.le_succ_of_le hend), wordsFrom]
    simp
  | cons c rest ih =>
    have hc : text[q + run.length]? = some c := by
      rw [← List.head?_drop, hrest, List.head?_cons]
    have hrest' : text.drop (q + run.length + 1) = rest := by
      rw [← List.tail_drop, hrest, List.tail_cons]
    have hnext : (positionAt text (q + run.length)).advance (stride c rest.head?) =
        positionAt text (q + run.length + 1) := by
      rw [positionAt_succ hc, ← hrest', List.head?_drop]
    cases hword : isWordChar c with
    | true =>
      rw [wordsFrom_of_word hword, hnext]
      exact ih (h.extend hc hword) hrest'
    | false =>
      have hgap : wordAt text (q + run.length) = false := by simp [wordAt, hc, hword]
      have hinside : Inside text (q + run.length + 1) [] (positionAt text (q + run.length + 1)) :=
        inside_nil (.inr hgap) _
      rw [wordsFrom_of_gap hword, hnext, ← h.closeRun_eq hgap]
      congr 1
      exact ih hinside hrest'

private theorem words_eq (text : List Char) : words text = (wordBounds text).map (wordOf text) := by
  have hinside : Inside text 0 [] .zero := inside_nil (.inl rfl) .zero
  have hscan := wordsFrom_eq hinside rfl
  rwa [List.length_nil, positionAt_zero, since_zero] at hscan

theorem length_extract {text : List Char} {i j : Nat} (hj : j ≤ text.length) :
    (text.extract i j).length = j - i := by
  rw [List.extract_eq_take_drop, List.length_take, List.length_drop]
  omega

theorem getElem?_extract {text : List Char} {i j k : Nat} (hk : k < j - i) :
    (text.extract i j)[k]? = text[i + k]? := by
  rw [List.extract_eq_take_drop, List.getElem?_take_of_lt hk, List.getElem?_drop]

private theorem all_extract_iff {text : List Char} {i j : Nat} (hj : j ≤ text.length)
    (p : Char → Bool) :
    (text.extract i j).all p = true ↔ ∀ k < j, i ≤ k → text[k]?.any p = true := by
  have hlen := length_extract (i := i) hj
  rw [List.all_eq_true]
  constructor
  · intro h k hk hik
    have hat : (text.extract i j)[k - i]? = text[k]? := by
      rw [getElem?_extract (by omega), Nat.add_sub_cancel' hik]
    have hget : text[k]? = some text[k] := List.getElem?_eq_getElem (Nat.lt_of_lt_of_le hk hj)
    rw [hget] at hat ⊢
    exact h _ (List.mem_of_getElem? hat)
  · intro h c hc
    obtain ⟨k, hk, hget⟩ := List.getElem_of_mem hc
    have hat : text[i + k]? = some c := by
      rw [← getElem?_extract (j := j) (by omega), List.getElem?_eq_getElem hk, hget]
    have := h (i + k) (by omega) (by omega)
    rwa [hat] at this

private theorem isLoud_extract_iff {text : List Char} {b : Nat × Nat}
    (h : WordBetween text b.1 b.2) :
    isLoud (text.extract b.1 b.2) = true ↔ LoudBetween text b.1 b.2 := by
  have hlt := h.1
  rw [isLoud, Bool.and_eq_true, decide_eq_true_eq, length_extract h.stop_le,
    all_extract_iff h.stop_le, LoudBetween, and_iff_right h]
  exact and_congr_left' (by omega)

/-- The words that are reported are those between the bounds. -/
theorem loudWords_eq (text : List Char) : loudWords text = (loudBounds text).map (wordOf text) := by
  rw [loudWords, words_eq, List.filter_map, loudBounds_eq_filter]
  congr 1
  refine List.filter_congr fun b hb => Bool.eq_iff_iff.mpr ?_
  rw [decide_eq_true_iff]
  exact isLoud_extract_iff (mem_wordBounds.mp hb)

end ClassPad.Text
