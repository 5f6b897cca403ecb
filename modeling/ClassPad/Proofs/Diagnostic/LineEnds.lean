import ClassPad.Proofs.Diagnostic.Bounds

/-!
The three line breaks are alike. A text in which every line break is written as a line feed has the
same lines and the same words at the same positions, though the offsets of its characters differ, so
its diagnostics are the same.
-/

set_option autoImplicit false
set_option relaxedAutoImplicit false

namespace ClassPad

namespace Text

/-- The text with every line break written as a line feed. -/
def unifyBreaks : List Char → List Char
  | [] => []
  | '\r' :: '\n' :: rest => '\n' :: unifyBreaks rest
  | '\r' :: rest => '\n' :: unifyBreaks rest
  | c :: rest => c :: unifyBreaks rest

example : unifyBreaks ['a', '\r', '\r', '\n', '\n', '\r', 'b'] =
    ['a', '\n', '\n', '\n', '\n', 'b'] := by decide

private theorem not_mem_unifyBreaks (text : List Char) : '\r' ∉ unifyBreaks text := by
  fun_induction unifyBreaks text with
  | case1 => simp
  | case2 rest ih => simp [ih]
  | case3 rest hnext ih => simp [ih]
  | case4 c rest hpair hreturn ih =>
    have hc : '\r' ≠ c := fun heq => hreturn heq.symm
    simp [ih, hc]

private theorem advance_pair (p : Position) (next : Option Char) :
    (p.advance (stride '\r' (some '\n'))).advance (stride '\n' next) = p.advance ⟨1, 0⟩ := by
  simp [stride, endsLine, Position.advance]

private theorem wordsFrom_unifyBreaks (start here : Position) (run text : List Char) :
    wordsFrom start here run (unifyBreaks text) = wordsFrom start here run text := by
  have hfeed : isWordChar '\n' = false := by decide
  have hreturn : isWordChar '\r' = false := by decide
  have hstride : ∀ next, stride '\n' next = ⟨1, 0⟩ := fun next => by simp [stride, endsLine]
  fun_induction unifyBreaks text generalizing start here run with
  | case1 => rfl
  | case2 rest ih =>
    -- the run ends at the first character of the pair, and nothing is open at the second
    rw [wordsFrom_of_gap hfeed, wordsFrom_of_gap hreturn, wordsFrom_of_gap hfeed, List.head?_cons,
      advance_pair, hstride, ih]
    rfl
  | case3 rest hnext ih =>
    have hlone : stride '\r' rest.head? = ⟨1, 0⟩ := by
      rw [stride, if_pos (endsLine_lone_return hnext)]
    rw [wordsFrom_of_gap hfeed, wordsFrom_of_gap hreturn, hstride, hlone, ih]
  | case4 c rest hpair hne ih =>
    have hsame : stride c (unifyBreaks rest).head? = stride c rest.head? :=
      stride_congr fun hreturn => absurd hreturn hne
    cases hc : isWordChar c with
    | true => rw [wordsFrom_of_word hc, wordsFrom_of_word hc, hsame, ih]
    | false => rw [wordsFrom_of_gap hc, wordsFrom_of_gap hc, hsame, ih]

private theorem breaksFrom_unifyBreaks (seen : Nat) (text : List Char) :
    breaksFrom seen (unifyBreaks text) = breaksFrom seen text := by
  fun_induction unifyBreaks text generalizing seen with
  | case1 => rfl
  | case2 rest ih =>
    have hpair : endsLine '\r' ('\n' :: rest).head? = false := by simp [endsLine]
    rw [breaksFrom, breaksFrom, breaksFrom, hpair, if_neg Bool.false_ne_true, endsLine_feed,
      endsLine_feed, ih]
  | case3 rest hnext ih =>
    rw [breaksFrom, breaksFrom, endsLine_feed, endsLine_lone_return hnext, ih]
  | case4 c rest hpair hne ih =>
    have hsame : endsLine c (unifyBreaks rest).head? = endsLine c rest.head? :=
      endsLine_congr fun hreturn => absurd hreturn hne
    rw [breaksFrom, breaksFrom, hsame, ih]

end Text

/-- However the line breaks of a document are written, it has the same lines and the same
diagnostics as with line feeds alone. -/
theorem Document.validate_unifyBreaks (d : Document) (settings : Settings) (related : Bool) :
    let e : Document := { d with text := Text.unifyBreaks d.text }
    '\r' ∉ e.text ∧ e.lineCount = d.lineCount ∧
      e.validate settings related = d.validate settings related := by
  intro e
  have hlines : Text.lineCount e.text = Text.lineCount d.text := by
    rw [Text.lineCount, Text.lineCount, Text.breaks, Text.breaks, Text.breaksFrom_unifyBreaks]
  have hwords : Text.loudWords e.text = Text.loudWords d.text := by
    rw [Text.loudWords, Text.loudWords, Text.words, Text.words, Text.wordsFrom_unifyBreaks]
  refine ⟨Text.not_mem_unifyBreaks d.text, hlines, ?_⟩
  rw [Document.validate, Document.validate, hwords]

end ClassPad
