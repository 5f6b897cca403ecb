import ClassPad.Proofs.Diagnostic.Bounds
import ClassPad.Proofs.Position.Bytes

/-!
Diagnostics of a text in two parts. Where no word and no line break crosses the seam, the words of
the whole are those of the first part and then those of the second, moved on by the extent of the
first. So the diagnostics of the whole are those of the parts, up to the limit.
-/

set_option autoImplicit false
set_option relaxedAutoImplicit false

namespace ClassPad

/-- The span that is reached from `p` as the given one is from the start of the text. -/
def Span.shift (p : Position) (s : Span) : Span := ⟨p.advance s.start, p.advance s.stop⟩

namespace Text

def Word.shift (p : Position) (w : Word) : Word := ⟨w.span.shift p, w.chars⟩

/-! The start of the scan -/

private theorem closeRun_shift (p start here : Position) (run : List Char) :
    closeRun (p.advance start) (p.advance here) run =
      (closeRun start here run).map (Word.shift p) := by
  cases run <;> rfl

/-- A scan that starts further on finds the same words further on. -/
theorem wordsFrom_shift (p start here : Position) (run text : List Char) :
    wordsFrom (p.advance start) (p.advance here) run text =
      (wordsFrom start here run text).map (Word.shift p) := by
  induction text generalizing start here run with
  | nil => exact closeRun_shift p start here run
  | cons c rest ih =>
    cases hc : isWordChar c with
    | true =>
      have hstart : (if run.isEmpty then p.advance here else p.advance start) =
          p.advance (if run.isEmpty then here else start) := by
        split_ifs <;> rfl
      rw [wordsFrom_of_word hc, wordsFrom_of_word hc, hstart, Position.advance_assoc, ih]
    | false =>
      rw [wordsFrom_of_gap hc, wordsFrom_of_gap hc, List.map_append, closeRun_shift,
        Position.advance_assoc, ih]

private theorem wordsFrom_nil_run (start start' here : Position) (text : List Char) :
    wordsFrom start here [] text = wordsFrom start' here [] text := by
  cases text with
  | nil => rfl
  | cons c rest =>
    cases hc : isWordChar c with
    | true =>
      rw [wordsFrom_of_word hc, wordsFrom_of_word hc]
      rfl
    | false =>
      rw [wordsFrom_of_gap hc, wordsFrom_of_gap hc]
      rfl

private theorem wordsFrom_eq_shift (start here : Position) (text : List Char) :
    wordsFrom start here [] text = (words text).map (Word.shift here) := by
  have hshift := wordsFrom_shift here .zero .zero [] text
  rw [Position.advance_zero] at hshift
  rw [wordsFrom_nil_run start here, hshift, words]

private theorem wordsFrom_of_end {run text : List Char}
    (h : run = [] ∨ text.head?.any isWordChar = false) (start here : Position) :
    wordsFrom start here run text =
      closeRun start here run ++ (words text).map (Word.shift here) := by
  rw [← wordsFrom_eq_shift start]
  rcases h with rfl | hhead
  · rfl
  · cases text with
    | nil => simp [wordsFrom, closeRun]
    | cons c rest =>
      have hc : isWordChar c = false := hhead
      rw [wordsFrom_of_gap hc, wordsFrom_of_gap hc]
      rfl

/-! The seam -/

private theorem stride_head?_append {c : Char} {rest b : List Char}
    (h : ¬((c :: rest).getLast? = some '\r' ∧ b.head? = some '\n')) :
    stride c (rest ++ b).head? = stride c rest.head? := by
  cases rest with
  | cons d more => rfl
  | nil =>
    refine stride_congr fun hreturn => iff_of_false (fun hfeed => h ⟨?_, hfeed⟩) (by simp)
    rw [hreturn, List.getLast?_singleton]

/-- Whether a scan that comes with an open word is inside a word at the end of a text. -/
def openAtEnd (run text : List Char) : Bool := (text.getLast?.map isWordChar).getD !run.isEmpty

private theorem openAtEnd_of_word {c : Char} (hc : isWordChar c = true) (run rest : List Char) :
    openAtEnd run (c :: rest) = openAtEnd (c :: run) rest := by
  cases rest <;> simp [openAtEnd, List.getLast?_cons, hc]

private theorem openAtEnd_of_gap {c : Char} (hc : isWordChar c = false) (run rest : List Char) :
    openAtEnd run (c :: rest) = openAtEnd [] rest := by
  cases rest <;> simp [openAtEnd, List.getLast?_cons, hc]

private theorem openAtEnd_nil_run (text : List Char) :
    openAtEnd [] text = text.getLast?.any isWordChar := by
  unfold openAtEnd
  cases text.getLast? <;> rfl

/-- A scan over the first of two parts finds its words and goes on with those of the second, unless
a word is open at the seam and goes on behind it or a line break stands across. -/
theorem wordsFrom_append {run a b : List Char}
    (hword : ¬(openAtEnd run a = true ∧ b.head?.any isWordChar = true))
    (hbreak : ¬(a.getLast? = some '\r' ∧ b.head? = some '\n')) (start here : Position) :
    wordsFrom start here run (a ++ b) = wordsFrom start here run a ++
      (words b).map (Word.shift (here.advance (positionAt a a.length))) := by
  induction a generalizing run start here with
  | nil =>
    have hend : run = [] ∨ b.head?.any isWordChar = false := by
      simpa [openAtEnd, or_iff_not_imp_left] using hword
    rw [List.nil_append, wordsFrom_of_end hend, wordsFrom, positionAt_nil, Position.advance_zero]
  | cons c rest ih =>
    have hbreak' : ¬(rest.getLast? = some '\r' ∧ b.head? = some '\n') := by
      rintro ⟨hreturn, hfeed⟩
      exact hbreak ⟨by rw [List.getLast?_cons, hreturn, Option.getD_some], hfeed⟩
    have hmove : (here.advance (stride c rest.head?)).advance (positionAt rest rest.length) =
        here.advance (positionAt (c :: rest) (c :: rest).length) := by
      rw [Position.advance_assoc, List.length_cons, positionAt_cons_succ]
    cases hc : isWordChar c with
    | true =>
      rw [openAtEnd_of_word hc] at hword
      rw [List.cons_append, wordsFrom_of_word hc, wordsFrom_of_word hc,
        stride_head?_append hbreak, ih hword hbreak', hmove]
    | false =>
      rw [openAtEnd_of_gap hc] at hword
      rw [List.cons_append, wordsFrom_of_gap hc, wordsFrom_of_gap hc,
        stride_head?_append hbreak, ih hword hbreak', hmove, List.append_assoc]

section

variable {a b : List Char}
  (hword : ¬(a.getLast?.any isWordChar = true ∧ b.head?.any isWordChar = true))
  (hbreak : ¬(a.getLast? = some '\r' ∧ b.head? = some '\n'))

include hword hbreak

private theorem words_append :
    words (a ++ b) = words a ++ (words b).map (Word.shift (positionAt a a.length)) := by
  rw [← openAtEnd_nil_run] at hword
  have happend := wordsFrom_append hword hbreak .zero .zero
  rwa [Position.zero_advance] at happend

private theorem loudWords_append :
    loudWords (a ++ b) =
      loudWords a ++ (loudWords b).map (Word.shift (positionAt a a.length)) := by
  rw [loudWords, words_append hword hbreak, List.filter_append, List.filter_map]
  rfl

end

private theorem sent_of_mem_loudWords {text : List Char} (h : length16 text < 4294967296) {w : Word}
    (hw : w ∈ loudWords text) : w.span.sent = w.span := by
  rw [loudWords_eq, List.mem_map] at hw
  obtain ⟨b, -, rfl⟩ := hw
  simp only [wordOf, Span.sent, sent_positionAt h]

/-- Neither condition on the seam can be left out. -/
example : words ['A', 'B'] ≠ words ['A'] ++ (words ['B']).map (Word.shift (positionAt ['A'] 1)) ∧
    words ['\r', '\n', 'A'] ≠
      words ['\r'] ++ (words ['\n', 'A']).map (Word.shift (positionAt ['\r'] 1)) := by decide

end Text

/-! Diagnostics -/

def Diagnostic.shift (p : Position) (g : Diagnostic) : Diagnostic where
  span := g.span.shift p
  message := g.message
  notes := g.notes.map fun notes => notes.map fun n => { n with span := n.span.shift p }

private theorem Diagnostic.ofWord_shift {p : Position} {w : Text.Word}
    (hsent : w.span.sent = w.span)
    (hshift : (w.span.shift p).sent = w.span.shift p) (uri : Uri) (related : Bool) :
    ofWord uri related (w.shift p) = (ofWord uri related w).shift p := by
  cases related <;> simp [ofWord, shift, Text.Word.shift, hsent, hshift]

namespace Document

open Text (length16 loudWords positionAt)

def problems (d : Document) (related : Bool) : List Diagnostic :=
  (loudWords d.text).map (Diagnostic.ofWord d.uri related)

private theorem validate_eq_take (d : Document) (settings : Settings) (related : Bool) :
    d.validate settings related = (d.problems related).take settings.maxNumberOfProblems := by
  rw [validate, problems, List.map_take]

private theorem problems_append {d e : Document} (huri : e.uri = d.uri)
    (hlength : length16 (d.text ++ e.text) < 4294967296)
    (hword : ¬(d.text.getLast?.any Text.isWordChar = true ∧
      e.text.head?.any Text.isWordChar = true))
    (hbreak : ¬(d.text.getLast? = some '\r' ∧ e.text.head? = some '\n')) (related : Bool) :
    ({ d with text := d.text ++ e.text } : Document).problems related =
      d.problems related ++
        (e.problems related).map (Diagnostic.shift (positionAt d.text d.text.length)) := by
  have happend := Text.loudWords_append hword hbreak
  have hshift : ∀ w ∈ loudWords e.text,
      Diagnostic.ofWord d.uri related (w.shift (positionAt d.text d.text.length)) =
        (Diagnostic.ofWord e.uri related w).shift (positionAt d.text d.text.length) := by
    intro w hw
    have hmoved : w.shift (positionAt d.text d.text.length) ∈ loudWords (d.text ++ e.text) := by
      rw [happend]
      exact List.mem_append_right _ (List.mem_map_of_mem hw)
    have hpart : length16 e.text < 4294967296 := by
      rw [Text.length16_append] at hlength
      omega
    rw [huri, Diagnostic.ofWord_shift (Text.sent_of_mem_loudWords hpart hw)
      (Text.sent_of_mem_loudWords hlength hmoved)]
  simp only [problems]
  rw [happend, List.map_append, List.map_map, List.map_map]
  exact congrArg _ (List.map_congr_left hshift)

/-- The diagnostics of a text in two parts are those of the first and then those of the second,
moved on by the end of the first, up to the limit. At the seam no word may go on, nor may a line
break stand across, and the UTF-16 length of the whole has to have 32 bits. -/
theorem validate_append (d e : Document) (huri : e.uri = d.uri)
    (hlength : length16 (d.text ++ e.text) < 4294967296)
    (hword : ¬(d.text.getLast?.any Text.isWordChar = true ∧
      e.text.head?.any Text.isWordChar = true))
    (hbreak : ¬(d.text.getLast? = some '\r' ∧ e.text.head? = some '\n')) (settings : Settings)
    (related : Bool) :
    ({ d with text := d.text ++ e.text } : Document).validate settings related =
      (d.problems related ++ (e.problems related).map
        (Diagnostic.shift (Text.countedPosition d.text d.text.length))).take
          settings.maxNumberOfProblems := by
  rw [Text.countedPosition_eq_positionAt, validate_eq_take,
    problems_append huri hlength hword hbreak]

/-- The seam is on a line behind a character of two units, and the limit leaves out a word of the
second part. -/
theorem validate_append_on_line :
    let d : Document := ⟨⟨"file:///prog.cp"⟩, ['\r', '😀', 'A', 'B'], 1⟩
    let e : Document :=
      ⟨⟨"file:///prog.cp"⟩, ['+', 'C', 'D', '\r', '\n', 'E', 'F', ' ', 'G', 'H'], 1⟩
    e.uri = d.uri ∧ length16 (d.text ++ e.text) < 4294967296 ∧
      ¬(d.text.getLast?.any Text.isWordChar = true ∧
        e.text.head?.any Text.isWordChar = true) ∧
      ¬(d.text.getLast? = some '\r' ∧ e.text.head? = some '\n') ∧
      ({ d with text := d.text ++ e.text } : Document).validate ⟨3⟩ false =
        [⟨⟨⟨1, 2⟩, ⟨1, 4⟩⟩, "AB is all uppercase.", none⟩,
          ⟨⟨⟨1, 5⟩, ⟨1, 7⟩⟩, "CD is all uppercase.", none⟩,
          ⟨⟨⟨2, 0⟩, ⟨2, 2⟩⟩, "EF is all uppercase.", none⟩] := by
  intro d e
  have hlength : length16 (d.text ++ e.text) < 4294967296 := by decide
  have hword : ¬(d.text.getLast?.any Text.isWordChar = true ∧
      e.text.head?.any Text.isWordChar = true) := by decide
  have hbreak : ¬(d.text.getLast? = some '\r' ∧ e.text.head? = some '\n') := by decide
  refine ⟨rfl, hlength, hword, hbreak, ?_⟩
  rw [validate_append d e rfl hlength hword hbreak ⟨3⟩ false]
  rfl

end Document

end ClassPad
