import Mathlib.Data.List.InsertIdx
import ClassPad.Proofs.Diagnostic.Exactness

/-!
Writing a reported word in lower case. An edit over the span of a diagnostic changes the characters
of its word and nothing else: no position moves, no line comes or goes, and of the diagnostics only
that one disappears. This takes a text that is not too long for positions of 32 bits; in a longer
one the span may be that of other characters.
-/

set_option autoImplicit false
set_option relaxedAutoImplicit false

namespace ClassPad

namespace Text

def lowered (text : List Char) (i j : Nat) : List Char :=
  text.take i ++ (text.extract i j).map Char.toLower ++ text.drop j

private theorem toLower_of_isCapital {c : Char} (h : isCapital c = true) :
    isWordChar c.toLower = true ∧ isCapital c.toLower = false ∧ c.toLower ≠ c := by
  have hall : ∀ n < 91, 65 ≤ n → isWordChar (Char.ofNat n).toLower = true ∧
      isCapital (Char.ofNat n).toLower = false ∧ (Char.ofNat n).toLower ≠ Char.ofNat n := by
    decide
  simp only [isCapital, Bool.and_eq_true, decide_eq_true_eq] at h
  have hlow : 65 ≤ c.toNat := h.1
  have hhigh : c.toNat ≤ 90 := h.2
  have hc := hall c.toNat (by omega) hlow
  rwa [Char.ofNat_toNat] at hc

private theorem getElem?_lowered {text : List Char} {i j : Nat} (hij : i ≤ j) (hj : j ≤ text.length)
    (k : Nat) : (lowered text i j)[k]? =
      if i ≤ k ∧ k < j then text[k]?.map Char.toLower else text[k]? := by
  have hlen : (text.take i).length = i := by
    rw [List.length_take]
    omega
  have hmid : ((text.extract i j).map Char.toLower).length = j - i := by
    rw [List.length_map, length_extract hj]
  rw [lowered, List.append_assoc]
  rcases Nat.lt_or_ge k i with hk | hk
  · rw [List.getElem?_append_left (by omega), List.getElem?_take_of_lt hk, if_neg (by omega)]
  · rw [List.getElem?_append_right (by omega), hlen]
    rcases Nat.lt_or_ge k j with hk' | hk'
    · rw [List.getElem?_append_left (by omega), List.getElem?_map, getElem?_extract (by omega),
        Nat.add_sub_cancel' hk, if_pos ⟨hk, hk'⟩]
    · rw [List.getElem?_append_right (by omega), hmid, List.getElem?_drop, if_neg (by omega)]
      congr 1
      omega

private theorem length_lowered {text : List Char} {i j : Nat} (hij : i ≤ j) (hj : j ≤ text.length) :
    (lowered text i j).length = text.length := by
  simp only [lowered, List.length_append, List.length_map, length_extract hj, List.length_take,
    List.length_drop]
  omega

section Loud

variable {text : List Char} {i j : Nat} (h : LoudBetween text i j)

include h

private theorem exists_capital {k : Nat} (hk : i ≤ k ∧ k < j) :
    ∃ c, text[k]? = some c ∧ isCapital c = true ∧
      (lowered text i j)[k]? = some c.toLower := by
  obtain ⟨⟨hij, -⟩, -, hcapital⟩ := id h
  have hcap := hcapital k hk.2 hk.1
  unfold capitalAt at hcap
  cases hc : text[k]? with
  | none => simp [hc] at hcap
  | some c =>
    rw [hc, Option.any_some] at hcap
    refine ⟨c, rfl, hcap, ?_⟩
    rw [getElem?_lowered (Nat.le_of_lt hij) h.1.stop_le, if_pos hk, hc, Option.map_some]

private theorem getElem?_lowered_outside {k : Nat} (hk : ¬(i ≤ k ∧ k < j)) :
    (lowered text i j)[k]? = text[k]? := by
  rw [getElem?_lowered (Nat.le_of_lt h.1.1) h.1.stop_le, if_neg hk]

private theorem wordAt_lowered (k : Nat) : wordAt (lowered text i j) k = wordAt text k := by
  by_cases hk : i ≤ k ∧ k < j
  · obtain ⟨c, hc, hcap, hc'⟩ := exists_capital h hk
    rw [wordAt, wordAt, hc, hc', Option.any_some, Option.any_some, isWordChar_of_isCapital hcap,
      (toLower_of_isCapital hcap).1]
  · rw [wordAt, wordAt, getElem?_lowered_outside h hk]

private theorem capitalAt_lowered (k : Nat) :
    capitalAt (lowered text i j) k = true ↔ capitalAt text k = true ∧ ¬(i ≤ k ∧ k < j) := by
  by_cases hk : i ≤ k ∧ k < j
  · obtain ⟨c, hc, hcap, hc'⟩ := exists_capital h hk
    simp [capitalAt, hc', (toLower_of_isCapital hcap).2.1, hk]
  · simp [capitalAt, getElem?_lowered_outside h hk, hk]

private theorem wordBetween_lowered {i' j' : Nat} :
    WordBetween (lowered text i j) i' j' ↔ WordBetween text i' j' := by
  simp only [WordBetween, wordAt_lowered h]

/-- The words that are reported afterwards are the other ones. -/
theorem loudBetween_lowered {i' j' : Nat} :
    LoudBetween (lowered text i j) i' j' ↔ LoudBetween text i' j' ∧ (i', j') ≠ (i, j) := by
  constructor
  · rintro ⟨hword, hlong, hcapital⟩
    have hcap := fun k hk hik => (capitalAt_lowered h k).mp (hcapital k hk hik)
    refine ⟨⟨(wordBetween_lowered h).mp hword, hlong, fun k hk hik => (hcap k hk hik).1⟩, ?_⟩
    intro heq
    obtain ⟨rfl, rfl⟩ := Prod.mk.inj heq
    exact (hcap i' hword.1 (Nat.le_refl _)).2 ⟨Nat.le_refl _, hword.1⟩
  · rintro ⟨⟨hword, hlong, hcapital⟩, hne⟩
    refine ⟨(wordBetween_lowered h).mpr hword, hlong, fun k hk hik => ?_⟩
    refine (capitalAt_lowered h k).mpr ⟨hcapital k hk hik, fun hinside => ?_⟩
    -- two words that share a character are the same word
    rcases Nat.lt_trichotomy i' i with hlt | rfl | hgt
    · have := hword.stop_lt_start h.1 hlt
      omega
    · exact hne (Prod.ext rfl (hword.stop_unique h.1))
    · have := h.1.stop_lt_start hword hgt
      omega

private theorem loudBounds_lowered :
    loudBounds (lowered text i j) = (loudBounds text).filter fun b => b != (i, j) := by
  have hpairs : pointPairs (lowered text i j) = pointPairs text := by
    rw [pointPairs, length_lowered (Nat.le_of_lt h.1.1) h.1.stop_le, pointPairs]
  rw [loudBounds, hpairs, loudBounds, List.filter_filter]
  refine List.filter_congr fun b _ => ?_
  rw [Bool.eq_iff_iff, Bool.and_eq_true, decide_eq_true_eq, decide_eq_true_eq, bne_iff_ne,
    loudBetween_lowered h, and_comm]

private theorem stride_lowered {k : Nat} {c c' : Char} (hc : (lowered text i j)[k]? = some c)
    (hc' : text[k]? = some c') :
    stride c (lowered text i j)[k + 1]? = stride c' text[k + 1]? := by
  have hfeed : (lowered text i j)[k + 1]? = some '\n' ↔ text[k + 1]? = some '\n' := by
    by_cases hk : i ≤ k + 1 ∧ k + 1 < j
    · obtain ⟨b, hb, hcap, hb'⟩ := exists_capital h hk
      rw [hb, hb', Option.some.injEq, Option.some.injEq]
      constructor
      · intro heq
        exact absurd (toLower_of_isCapital hcap).1 (by rw [heq]; decide)
      · rintro rfl
        exact absurd hcap (by decide)
    · rw [getElem?_lowered_outside h hk]
  by_cases hk : i ≤ k ∧ k < j
  · obtain ⟨b, hb, hcap, hb'⟩ := exists_capital h hk
    obtain rfl : b = c' := Option.some.inj (hb.symm.trans hc')
    obtain rfl : b.toLower = c := Option.some.inj (hb'.symm.trans hc)
    rw [stride_of_isWordChar (toLower_of_isCapital hcap).1,
      stride_of_isWordChar (isWordChar_of_isCapital hcap)]
  · rw [getElem?_lowered_outside h hk, hc', Option.some.injEq] at hc
    subst hc
    exact stride_congr fun _ => hfeed

private theorem positionAt_lowered (k : Nat) :
    positionAt (lowered text i j) k = positionAt text k :=
  positionAt_congr (length_lowered (Nat.le_of_lt h.1.1) h.1.stop_le)
    (fun _ _ _ hc hc' => stride_lowered h hc hc') k

private theorem lineCount_lowered : lineCount (lowered text i j) = lineCount text := by
  rw [lineCount, lineCount, breaks_eq_line, breaks_eq_line, positionAt_lowered h,
    length_lowered (Nat.le_of_lt h.1.1) h.1.stop_le]

private theorem wordOf_lowered {b : Nat × Nat} (hb : LoudBetween text b.1 b.2) (hne : b ≠ (i, j)) :
    wordOf (lowered text i j) b = wordOf text b := by
  have hloud := (loudBetween_lowered h).mpr ⟨hb, hne⟩
  have hchars : (lowered text i j).extract b.1 b.2 = text.extract b.1 b.2 := by
    refine List.ext_getElem? fun k => ?_
    rcases Nat.lt_or_ge k (b.2 - b.1) with hk | hk
    · rw [getElem?_extract hk, getElem?_extract hk]
      refine getElem?_lowered_outside h fun hinside => ?_
      have hcap := hloud.2.2 (b.1 + k) (by omega) (by omega)
      exact ((capitalAt_lowered h _).mp hcap).2 hinside
    · have hstop := hb.1.stop_le
      have hstop' := hloud.1.stop_le
      rw [List.getElem?_eq_none (by rw [length_extract hstop']; exact hk),
        List.getElem?_eq_none (by rw [length_extract hstop]; exact hk)]
  rw [wordOf, wordOf, positionAt_lowered h, positionAt_lowered h, hchars]

private theorem offsetAt_bounds :
    offsetAt text (positionAt text i) = i ∧ offsetAt text (positionAt text j) = j := by
  have hij := h.1.1
  have hj := h.1.stop_le
  have hstart := h.1.wordAt_start
  have hlast : wordAt text (j - 1) = true := h.1.2.1 (j - 1) (by omega) (by omega)
  constructor
  · rw [offsetAt_positionAt (by omega), if_neg]
    intro hin
    cases i with
    | zero => exact hin
    | succ m => simp [wordAt, hin.2, isWordChar] at hstart
  · rw [offsetAt_positionAt hj, if_neg]
    intro hin
    cases j with
    | zero => exact hin
    | succ m => simp [wordAt, hin.1, isWordChar] at hlast

/-- An edit over the span of a reported word replaces the word. -/
theorem apply_over_word (new : List Char) :
    Edit.apply text (.replace ⟨positionAt text i, positionAt text j⟩ new) =
      text.take i ++ new ++ text.drop j := by
  obtain ⟨hi, hj⟩ := offsetAt_bounds h
  simp only [Edit.apply, hi, hj, Nat.max_eq_left (Nat.le_of_lt h.1.1)]

end Loud

end Text

namespace Document

open Text (length16 loudBounds lowered LoudBetween)

private theorem getElem?_validate {d : Document} {settings : Settings} {related : Bool}
    (hcap : (loudBounds d.text).length ≤ settings.maxNumberOfProblems) (n : Nat) :
    (d.validate settings related)[n]? = (loudBounds d.text)[n]?.map (d.finding related) := by
  rw [validate_eq, List.take_of_length_le hcap, List.getElem?_map]

private theorem validate_lowered {d e : Document} {settings : Settings} {related : Bool}
    (hcap : (loudBounds d.text).length ≤ settings.maxNumberOfProblems) {n i j : Nat}
    (hn : (loudBounds d.text)[n]? = some (i, j)) (huri : e.uri = d.uri)
    (htext : e.text = lowered d.text i j) :
    e.validate settings related = (d.validate settings related).eraseIdx n := by
  have hloud : LoudBetween d.text i j := Text.mem_loudBounds.mp (List.mem_of_getElem? hn)
  obtain ⟨hlt, hget⟩ := List.getElem?_eq_some_iff.mp hn
  have hnodup : (loudBounds d.text).Nodup :=
    (Text.pairwise_loudBounds d.text).imp_of_mem fun {b c} hb _ hbc heq => by
      have := (Text.mem_loudBounds.mp hb).1.1
      rw [← heq] at hbc
      omega
  have hbounds : loudBounds e.text = (loudBounds d.text).eraseIdx n := by
    rw [htext, Text.loudBounds_lowered hloud, ← hget, ← hnodup.erase_eq_filter,
      hnodup.erase_getElem]
  have hcap' : (loudBounds e.text).length ≤ settings.maxNumberOfProblems := by
    rw [hbounds]
    exact Nat.le_trans (List.length_eraseIdx_le _ _) hcap
  rw [validate_eq, validate_eq, List.take_of_length_le hcap, List.take_of_length_le hcap',
    List.eraseIdx_map, ← hbounds]
  refine List.map_congr_left fun b hb => ?_
  have hb' := Text.mem_loudBounds.mp hb
  rw [htext, Text.loudBetween_lowered hloud] at hb'
  rw [← ofWord_eq_finding e related hb,
    ← ofWord_eq_finding d related (Text.mem_loudBounds.mpr hb'.1), huri, htext,
    Text.wordOf_lowered hloud hb'.1 hb'.2]

/-- A document with room for all its diagnostics, and no longer than positions of 32 bits reach,
loses one of them, and nothing else, when its word is written in lower case over its span. The
characters that change are those of the word. -/
theorem validate_after_lowering (d : Document) (settings : Settings) (related : Bool)
    (hlength : length16 d.text < 4294967296)
    (hcap : (loudBounds d.text).length ≤ settings.maxNumberOfProblems) {n : Nat} {g : Diagnostic}
    (hg : (d.validate settings related)[n]? = some g) {word : List Char}
    (hword : g.message = String.ofList word ++ " is all uppercase.") (version : Int) :
    ∃ i j, (loudBounds d.text)[n]? = some (i, j) ∧ d.text.extract i j = word ∧
      let e := d.applyEdits [.replace g.span (word.map Char.toLower)] version
      e.text = d.text.take i ++ word.map Char.toLower ++ d.text.drop j ∧
      (∀ k, e.text[k]? ≠ d.text[k]? ↔ i ≤ k ∧ k < j) ∧
      e.lineCount = d.lineCount ∧
      e.validate settings related = (d.validate settings related).eraseIdx n := by
  rw [getElem?_validate hcap, Option.map_eq_some_iff] at hg
  obtain ⟨⟨i, j⟩, hn, rfl⟩ := hg
  have hmem := List.mem_of_getElem? hn
  have hloud : LoudBetween d.text i j := Text.mem_loudBounds.mp hmem
  have hchars : d.text.extract i j = word :=
    String.ofList_injective ((String.append_left_inj _).mp hword)
  subst hchars
  rw [span_finding_of_length hlength related hmem]
  have htext : (d.applyEdits [.replace ⟨Text.positionAt d.text i, Text.positionAt d.text j⟩
      ((d.text.extract i j).map Char.toLower)] version).text = lowered d.text i j :=
    Text.apply_over_word hloud _
  refine ⟨i, j, hn, rfl, htext, fun k => ?_, ?_, validate_lowered hcap hn rfl htext⟩
  · rw [htext]
    by_cases hk : i ≤ k ∧ k < j
    · obtain ⟨c, hc, hcapital, hc'⟩ := Text.exists_capital hloud hk
      rw [hc, hc', ne_eq, Option.some.injEq]
      exact iff_of_true (Text.toLower_of_isCapital hcapital).2.2 hk
    · exact iff_of_false (not_not_intro (Text.getElem?_lowered_outside hloud hk)) hk
  · rw [lineCount, htext, Text.lineCount_lowered hloud, lineCount]

/-- The second of two words, behind a character of two units and a line break of two characters. -/
theorem validate_after_lowering_second :
    let d : Document := ⟨⟨"file:///prog.cp"⟩, ['😀', 'A', 'B', '\r', '\n', '😀', 'C', 'D'], 1⟩
    let g : Diagnostic := ⟨⟨⟨1, 2⟩, ⟨1, 4⟩⟩, "CD is all uppercase.", none⟩
    let e := d.applyEdits [.replace g.span ['c', 'd']] 2
    length16 d.text < 4294967296 ∧ (loudBounds d.text).length ≤ 2 ∧
      (d.validate ⟨2⟩ false)[1]? = some g ∧
      g.message = String.ofList ['C', 'D'] ++ " is all uppercase." ∧ e.lineCount = d.lineCount ∧
      e.validate ⟨2⟩ false = (d.validate ⟨2⟩ false).eraseIdx 1 := by
  intro d g e
  have hlength : length16 d.text < 4294967296 := by decide
  have hcap : (loudBounds d.text).length ≤ 2 := by decide
  have hg : (d.validate ⟨2⟩ false)[1]? = some g := by rfl
  have hword : g.message = String.ofList ['C', 'D'] ++ " is all uppercase." := by rfl
  obtain ⟨i, j, -, -, -, -, hlines, hvalidate⟩ :=
    validate_after_lowering d ⟨2⟩ false hlength hcap hg hword 2
  exact ⟨hlength, hcap, hg, hword, hlines, hvalidate⟩

private theorem apply_at_blanks (blanks : Nat) (rest new : List Char) :
    Edit.apply (List.replicate (blanks + 2) ' ' ++ rest) (.replace ⟨⟨0, 0⟩, ⟨0, 2⟩⟩ new) =
      new ++ (List.replicate blanks ' ' ++ rest) := by
  have hblank : ∀ (text : List Char) (column : Nat),
      Text.offsetAt (' ' :: text) ⟨0, column + 1⟩ = Text.offsetAt text ⟨0, column⟩ + 1 :=
    fun text column => Text.offsetAt_cons_of_le (by decide) (Nat.le_add_left 1 column) text
  have hzero : ∀ text : List Char, Text.offsetAt text ⟨0, 0⟩ = 0 := Text.offsetAt_zero
  simp [Edit.apply, List.replicate_succ, hblank _ 1, hblank _ 0, hzero]

/-- The bound on the length of the text cannot be left out: the edit falls on two blanks at the
start of the text, and the word stays as it was. -/
theorem lowering_misses_word :
    let d : Document := ⟨⟨"file:///prog.cp"⟩, List.replicate 4294967296 ' ' ++ ['A', 'B'], 1⟩
    let g : Diagnostic := ⟨⟨⟨0, 0⟩, ⟨0, 2⟩⟩, "AB is all uppercase.", none⟩
    let e := d.applyEdits [.replace g.span ['a', 'b']] 2
    d.validate .standard false = [g] ∧
      e.text = ['a', 'b'] ++ (List.replicate 4294967294 ' ' ++ ['A', 'B']) ∧
      e.text ≠ List.replicate 4294967296 ' ' ++ ['a', 'b'] := by
  intro d g e
  have htext : e.text = ['a', 'b'] ++ (List.replicate 4294967294 ' ' ++ ['A', 'B']) :=
    apply_at_blanks 4294967294 ['A', 'B'] ['a', 'b']
  refine ⟨validate_behind_blanks _ 4294967296 1, htext, fun heq => ?_⟩
  rw [htext, List.replicate_succ, List.cons_append, List.cons_append] at heq
  exact absurd (List.cons.inj heq).1 (by decide)

end Document

end ClassPad
