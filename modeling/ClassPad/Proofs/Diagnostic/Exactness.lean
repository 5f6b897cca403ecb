import Mathlib.Data.Set.Card
import ClassPad.Proofs.Diagnostic.Bounds
import ClassPad.Proofs.Position.Bytes

/-!
What the diagnostics of a document are. There is one for each reported word, up to the limit and
from left to right, and it spans the word on one line. A search for two or more capitals between
word boundaries, which takes the leftmost match and goes on at its end, finds the same words.

Positions are sent with numbers of 32 bits. Unless the text is too long for them, the diagnostics
are in the order of their words; in a longer text a span may even end before it starts.
-/

set_option autoImplicit false
set_option relaxedAutoImplicit false

namespace ClassPad

namespace Text

/-! Searching -/

/-- Whether exactly one of the characters next to a point is a word character. -/
def boundaryAt (text : List Char) (i : Nat) : Bool :=
  (decide (i ≠ 0) && wordAt text (i - 1)) != wordAt text i

def Matches (text : List Char) (i j : Nat) : Prop :=
  boundaryAt text i = true ∧ i + 2 ≤ j ∧ (∀ k < j, i ≤ k → capitalAt text k = true) ∧
    boundaryAt text j = true

/-- What a search from a point finds: the leftmost match, the longest of those that start there,
and then what a search from its end finds. -/
inductive Search (text : List Char) : Nat → List (Nat × Nat) → Prop
  | none {point : Nat} : (∀ i j, point ≤ i → ¬Matches text i j) → Search text point []
  | next {point i j : Nat} {rest : List (Nat × Nat)} : point ≤ i → Matches text i j →
      (∀ i' j', point ≤ i' → Matches text i' j' → i < i' ∨ i = i' ∧ j' ≤ j) →
      Search text j rest → Search text point ((i, j) :: rest)

private theorem matches_iff {text : List Char} {i j : Nat} :
    Matches text i j ↔ LoudBetween text i j := by
  constructor
  · rintro ⟨hstart, hlong, hcapital, hstop⟩
    have hword : ∀ k < j, i ≤ k → wordAt text k = true := fun k hk hik =>
      wordAt_of_capitalAt (hcapital k hk hik)
    have hfirst := hword i (by omega) (Nat.le_refl i)
    have hlast := hword (j - 1) (by omega) (by omega)
    refine ⟨⟨by omega, hword, ?_, ?_⟩, hlong, hcapital⟩
    · simp only [boundaryAt, hfirst, bne_iff_ne, ne_eq, Bool.not_eq_true, Bool.and_eq_false_iff,
        decide_eq_false_iff_not, not_not] at hstart
      exact hstart
    · have hj : j ≠ 0 := by omega
      simpa [boundaryAt, hlast, hj] using hstop
  · rintro ⟨⟨hij, hword, hfresh, hstop⟩, hlong, hcapital⟩
    have hfirst := hword i (by omega) (Nat.le_refl i)
    have hlast := hword (j - 1) (by omega) (by omega)
    refine ⟨?_, hlong, hcapital, ?_⟩
    · rcases hfresh with rfl | hfresh
      · simp [boundaryAt, hfirst]
      · simp [boundaryAt, hfirst, hfresh]
    · have hj : j ≠ 0 := by omega
      simp [boundaryAt, hstop, hlast, hj]

private theorem since_loudBounds_cons {text : List Char} {i j : Nat} (h : LoudBetween text i j) :
    since i (loudBounds text) = (i, j) :: since j (loudBounds text) := by
  have hmem : (i, j) ∈ loudBounds text := mem_loudBounds.mpr h
  exact since_eq_cons (pairwise_loudBounds text) (fun _ hb => (mem_loudBounds.mp hb).1.1) hmem
    (Nat.le_refl j) (Nat.le_succ j)

private theorem eq_since_of_search {text : List Char} {point : Nat} {found : List (Nat × Nat)}
    (h : Search text point found) : found = since point (loudBounds text) := by
  induction h with
  | none hnone =>
    refine (List.filter_eq_nil_iff.mpr fun b hb hle => ?_).symm
    exact hnone b.1 b.2 (by simpa using hle) (matches_iff.mpr (mem_loudBounds.mp hb))
  | @next point i j rest hle hmatch hleast _ ih =>
    have hskip : since point (loudBounds text) = since i (loudBounds text) := by
      refine List.filter_congr fun b hb => decide_eq_decide.mpr ⟨fun hb' => ?_, hle.trans⟩
      have := hleast b.1 b.2 hb' (matches_iff.mpr (mem_loudBounds.mp hb))
      omega
    rw [hskip, since_loudBounds_cons (matches_iff.mp hmatch), ih]

private theorem search_since (text : List Char) (point : Nat) :
    Search text point (since point (loudBounds text)) := by
  have hrun : ∀ (found : List (Nat × Nat)) (point : Nat), since point (loudBounds text) = found →
      Search text point found := by
    intro found
    induction found with
    | nil =>
      intro point hnil
      refine .none fun i j hle hmatch => ?_
      have hmem : (i, j) ∈ since point (loudBounds text) :=
        mem_since.mpr ⟨mem_loudBounds.mpr (matches_iff.mp hmatch), hle⟩
      simp [hnil] at hmem
    | cons b rest ih =>
      intro point hcons
      have hsorted : (b :: rest).Pairwise fun b c => b.2 < c.1 :=
        hcons ▸ (pairwise_loudBounds text).filter _
      obtain ⟨hb, hle⟩ := mem_since.mp (hcons ▸ List.mem_cons_self : b ∈ since point _)
      have hloud := mem_loudBounds.mp hb
      have hleast : ∀ i j, point ≤ i → Matches text i j → b.1 < i ∨ b.1 = i ∧ j ≤ b.2 := by
        intro i j hi hmatch
        have hmem : (i, j) ∈ b :: rest :=
          hcons ▸ mem_since.mpr ⟨mem_loudBounds.mpr (matches_iff.mp hmatch), hi⟩
        rcases List.mem_cons.mp hmem with rfl | hrest
        · exact .inr ⟨rfl, Nat.le_refl _⟩
        · exact .inl (Nat.lt_trans hloud.1.1 ((List.pairwise_cons.mp hsorted).1 _ hrest))
      have hskip : since point (loudBounds text) = since b.1 (loudBounds text) := by
        refine List.filter_congr fun c hc => decide_eq_decide.mpr ⟨fun hc' => ?_, hle.trans⟩
        have := hleast c.1 c.2 hc' (matches_iff.mpr (mem_loudBounds.mp hc))
        omega
      rw [hskip, since_loudBounds_cons hloud] at hcons
      exact .next hle (matches_iff.mpr hloud) hleast (ih b.2 (List.tail_eq_of_cons_eq hcons))
  exact hrun _ point rfl

/-- A search finds the reported words. -/
theorem search_iff {text : List Char} {found : List (Nat × Nat)} :
    Search text 0 found ↔ found = loudBounds text := by
  constructor
  · intro h
    rw [eq_since_of_search h, since_zero]
  · rintro rfl
    have := search_since text 0
    rwa [since_zero] at this

private theorem ncard_loudBetween (text : List Char) :
    Set.ncard {b : Nat × Nat | LoudBetween text b.1 b.2} = (loudBounds text).length := by
  have hnodup : (loudBounds text).Nodup := by
    refine (pairwise_loudBounds text).imp_of_mem fun {b c} hb hc hlt heq => ?_
    subst heq
    have := (mem_loudBounds.mp hb).1.1
    omega
  have hset : {b : Nat × Nat | LoudBetween text b.1 b.2} = ↑(loudBounds text).toFinset := by
    ext b
    simp [mem_loudBounds]
  rw [hset, Set.ncard_coe_finset, List.toFinset_card_of_nodup hnodup]

/-! Positions within a word -/

private theorem toNat_of_isWordChar {c : Char} (h : isWordChar c = true) :
    48 ≤ c.toNat ∧ c.toNat ≤ 122 := by
  have hle : ∀ a b : Char, a ≤ b ↔ a.toNat ≤ b.toNat := fun a b => Iff.rfl
  simp only [isWordChar, Bool.or_eq_true, Bool.and_eq_true, decide_eq_true_eq, hle] at h
  rcases h with ((h | h) | h) | rfl
  · exact ⟨h.1, Nat.le_trans h.2 (by decide)⟩
  · exact ⟨Nat.le_trans (by decide) h.1, Nat.le_trans h.2 (by decide)⟩
  · exact ⟨Nat.le_trans (by decide) h.1, h.2⟩
  · decide

theorem stride_of_isWordChar {c : Char} (h : isWordChar c = true) (next : Option Char) :
    stride c next = ⟨0, 1⟩ := by
  obtain ⟨hlow, hhigh⟩ := toNat_of_isWordChar h
  have hfeed : c ≠ '\n' := by
    rintro rfl
    exact absurd hlow (by decide)
  have hreturn : c ≠ '\r' := by
    rintro rfl
    exact absurd hlow (by decide)
  have hnarrow : c.toNat < 0x10000 := by omega
  simp [stride, endsLine, units16, hfeed, hreturn, hnarrow]

/-- The end of a word is on the line of its start, as many columns further as it has characters. -/
theorem positionAt_stop {text : List Char} {i j : Nat} (hij : i ≤ j)
    (h : ∀ k < j, i ≤ k → wordAt text k = true) :
    positionAt text j = ⟨(positionAt text i).line, (positionAt text i).character + (j - i)⟩ := by
  induction j, hij using Nat.le_induction with
  | base => simp
  | succ j hij ih =>
    have hword := h j (Nat.lt_succ_self j) hij
    have hj : j < text.length := lt_length_of_wordAt hword
    have hc : text[j]? = some text[j] := List.getElem?_eq_getElem hj
    rw [wordAt, hc, Option.any_some] at hword
    rw [positionAt_succ hc, stride_of_isWordChar hword,
      ih fun k hk hik => h k (Nat.lt_succ_of_lt hk) hik]
    simp only [Position.advance, if_true, Position.mk.injEq, true_and]
    omega

/-! Words behind blanks -/

private theorem wordsFrom_blanks (blanks : Nat) (here : Position) (rest : List Char) :
    wordsFrom here here [] (List.replicate blanks ' ' ++ rest) =
      wordsFrom (here.advance ⟨0, blanks⟩) (here.advance ⟨0, blanks⟩) [] rest := by
  induction blanks generalizing here with
  | zero => rw [List.replicate_zero, List.nil_append, show (⟨0, 0⟩ : Position) = .zero from rfl,
      Position.advance_zero]
  | succ blanks ih =>
    have hblank : isWordChar ' ' = false := by decide
    have hstride : ∀ next, stride ' ' next = ⟨0, 1⟩ := fun next => by
      simp [stride, endsLine, units16]
    rw [List.replicate_succ, List.cons_append, wordsFrom_of_gap hblank, hstride, ih,
      Position.advance_assoc]
    simp [closeRun, Position.advance, Nat.add_comm]

private theorem loudWords_behind_blanks (blanks : Nat) :
    loudWords (List.replicate blanks ' ' ++ ['A', 'B']) =
      [⟨⟨⟨0, blanks⟩, ⟨0, blanks + 2⟩⟩, ['A', 'B']⟩] := by
  rw [loudWords, words, wordsFrom_blanks, Position.zero_advance]
  rfl

end Text

namespace Document

open Text (loudBounds LoudBetween Search positionAt byteOfIndex length16)

/-- The diagnostic of the word between two points, by the byte offsets of the points. -/
def finding (d : Document) (related : Bool) (b : Nat × Nat) : Diagnostic :=
  let span : Span :=
    ⟨d.sentPosition (byteOfIndex d.text b.1), d.sentPosition (byteOfIndex d.text b.2)⟩
  { span
    message := String.ofList (d.text.extract b.1 b.2) ++ " is all uppercase."
    notes := if related then some (Diagnostic.remarks.map fun m => ⟨d.uri, span, m⟩) else none }

theorem span_finding (d : Document) (related : Bool) {b : Nat × Nat} (hb : b ∈ loudBounds d.text) :
    (d.finding related b).span = ⟨(positionAt d.text b.1).sent, (positionAt d.text b.2).sent⟩ := by
  have hloud := (Text.mem_loudBounds.mp hb).1
  have hlt := hloud.1
  have hstop := hloud.stop_le
  simp only [finding, sentPosition]
  rw [Text.positionOfByte_byteOfIndex hstop, Text.positionOfByte_byteOfIndex (by omega)]

theorem span_finding_of_length {d : Document} (h : length16 d.text < 4294967296) (related : Bool)
    {b : Nat × Nat} (hb : b ∈ loudBounds d.text) :
    (d.finding related b).span = ⟨positionAt d.text b.1, positionAt d.text b.2⟩ := by
  rw [span_finding d related hb, Text.sent_positionAt h, Text.sent_positionAt h]

theorem ofWord_eq_finding (d : Document) (related : Bool) {b : Nat × Nat}
    (hb : b ∈ loudBounds d.text) :
    Diagnostic.ofWord d.uri related (Text.wordOf d.text b) = d.finding related b := by
  have hspan := span_finding d related hb
  simp only [finding] at hspan ⊢
  rw [hspan]
  rfl

theorem validate_eq (d : Document) (settings : Settings) (related : Bool) :
    d.validate settings related =
      ((loudBounds d.text).take settings.maxNumberOfProblems).map (d.finding related) := by
  rw [validate, Text.loudWords_eq, ← List.map_take, List.map_map]
  exact List.map_congr_left fun b hb => ofWord_eq_finding d related (List.mem_of_mem_take hb)

theorem length_validate (d : Document) (settings : Settings) (related : Bool) :
    (d.validate settings related).length =
      min settings.maxNumberOfProblems
        (Set.ncard {b : Nat × Nat | LoudBetween d.text b.1 b.2}) := by
  rw [validate_eq, List.length_map, List.length_take, Text.ncard_loudBetween]

theorem validate_eq_nil_iff {d : Document} {settings : Settings} {related : Bool}
    (h : 1 ≤ settings.maxNumberOfProblems) :
    d.validate settings related = [] ↔ ∀ i j, ¬LoudBetween d.text i j := by
  have hlimit : settings.maxNumberOfProblems ≠ 0 := Nat.one_le_iff_ne_zero.mp h
  rw [validate_eq, List.map_eq_nil_iff, List.take_eq_nil_iff, or_iff_right hlimit,
    List.eq_nil_iff_forall_not_mem, Prod.forall]
  simp only [Text.mem_loudBounds]

theorem notes_of_mem_validate {d : Document} {settings : Settings} {related : Bool}
    {g : Diagnostic} (h : g ∈ d.validate settings related) :
    g.notes = if related then some (Diagnostic.remarks.map fun m => ⟨d.uri, g.span, m⟩)
      else none := by
  obtain ⟨w, -, rfl⟩ := List.mem_map.mp h
  rfl

private theorem stop_finding (d : Document) (related : Bool) {b : Nat × Nat}
    (hb : b ∈ loudBounds d.text) :
    (d.finding related b).span.stop = ⟨(d.finding related b).span.start.line,
      ((d.finding related b).span.start.character + (b.2 - b.1)) % 4294967296⟩ := by
  obtain ⟨hlt, hword, -⟩ := (Text.mem_loudBounds.mp hb).1
  rw [span_finding d related hb]
  simp only [Text.positionAt_stop (Nat.le_of_lt hlt) hword, Position.sent, Nat.mod_add_mod]

private theorem pairwise_validate {d : Document} (h : length16 d.text < 4294967296)
    (settings : Settings) (related : Bool) :
    (d.validate settings related).Pairwise fun g h => g.span.stop < h.span.start := by
  rw [validate_eq, List.pairwise_map]
  have hapart := (Text.pairwise_loudBounds d.text).sublist
    (List.take_sublist settings.maxNumberOfProblems _)
  refine hapart.imp_of_mem fun {b c} hb hc hlt => ?_
  have hb' := List.mem_of_mem_take hb
  have hc' := List.mem_of_mem_take hc
  have hword := (Text.mem_loudBounds.mp hc').1
  have hstart := Text.lt_length_of_wordAt hword.wordAt_start
  rw [span_finding_of_length h related hb', span_finding_of_length h related hc']
  exact Text.positionAt_lt hlt (Nat.le_of_lt hstart)

/-- The diagnostics of a document are those of the words of two or more capitals, up to the limit
and from left to right; a search for such words finds the same. The span of each is on one line, and
its columns are those of its word as far as 32 bits go. If the UTF-16 length of the text has 32
bits, each spans its word, and no two of them touch. -/
theorem validate_exact (d : Document) (settings : Settings) (related : Bool) :
    d.validate settings related =
      ((loudBounds d.text).take settings.maxNumberOfProblems).map (d.finding related) ∧
    (∀ i j, (i, j) ∈ loudBounds d.text ↔ LoudBetween d.text i j) ∧
    (loudBounds d.text).Pairwise (fun b c => b.2 < c.1) ∧
    (∀ found, Search d.text 0 found ↔ found = loudBounds d.text) ∧
    (∀ b ∈ loudBounds d.text, (d.finding related b).span.stop =
      ⟨(d.finding related b).span.start.line,
        ((d.finding related b).span.start.character + (b.2 - b.1)) % 4294967296⟩) ∧
    (length16 d.text < 4294967296 →
      (∀ b ∈ loudBounds d.text, (d.finding related b).span.stop =
        ⟨(d.finding related b).span.start.line,
          (d.finding related b).span.start.character + (b.2 - b.1)⟩) ∧
      (d.validate settings related).Pairwise fun g h => g.span.stop < h.span.start) := by
  refine ⟨validate_eq d settings related, fun i j => Text.mem_loudBounds,
    Text.pairwise_loudBounds d.text, fun found => Text.search_iff,
    fun b hb => stop_finding d related hb,
    fun h => ⟨fun b hb => ?_, pairwise_validate h settings related⟩⟩
  obtain ⟨hlt, hword, -⟩ := (Text.mem_loudBounds.mp hb).1
  rw [span_finding_of_length h related hb]
  exact Text.positionAt_stop (Nat.le_of_lt hlt) hword

theorem validate_behind_blanks (uri : Uri) (blanks : Nat) (version : Int) :
    (⟨uri, List.replicate blanks ' ' ++ ['A', 'B'], version⟩ : Document).validate .standard false =
      [⟨⟨Position.sent ⟨0, blanks⟩, Position.sent ⟨0, blanks + 2⟩⟩,
        "AB is all uppercase.", none⟩] := by
  rw [validate, Text.loudWords_behind_blanks]
  rfl

/-- The bound on the length of the text cannot be left out: the span of this word stops before it
starts. -/
theorem validate_inverted_span :
    let d : Document := ⟨⟨"file:///prog.cp"⟩, List.replicate 4294967295 ' ' ++ ['A', 'B'], 1⟩
    ∃ g, d.validate .standard false = [g] ∧ g.message = "AB is all uppercase." ∧
      g.span = ⟨⟨0, 4294967295⟩, ⟨0, 1⟩⟩ ∧
      g.span.stop ≠ ⟨g.span.start.line, g.span.start.character + 2⟩ ∧
      g.span.stop < g.span.start :=
  ⟨_, validate_behind_blanks _ 4294967295 1, rfl, rfl, by decide, by decide⟩

end Document

end ClassPad
