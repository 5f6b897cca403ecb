import ClassPad.Proofs.Edit.InPlace

/-!
Line counts under edits. A text in two parts has the line breaks of the parts, less one if a
carriage return before the seam and a line feed after it become one break. No edit starts or stops
inside a line break, so the part that it removes takes its own breaks along and no others. The new
text may fuse breaks at either of its ends or, if it is empty, where the two sides meet.
-/

set_option autoImplicit false
set_option relaxedAutoImplicit false

namespace ClassPad

namespace Text

/-- The number of line breaks of a text: a carriage return and the line feed after it are one, and
either of them alone is one. -/
def lineBreaks : List Char → Nat
  | [] => 0
  | '\r' :: '\n' :: rest => lineBreaks rest + 1
  | '\r' :: rest => lineBreaks rest + 1
  | '\n' :: rest => lineBreaks rest + 1
  | _ :: rest => lineBreaks rest

/-- One if a text ends with a carriage return and the next starts with a line feed. -/
def fused (a b : List Char) : Nat :=
  if a.getLast? = some '\r' ∧ b.head? = some '\n' then 1 else 0

/-- The number of line breaks that are lost where a text is put between two others. -/
def fusedAround (a new b : List Char) : Nat :=
  if new = [] then fused a b else fused a new + fused new b

private theorem breaks_eq_lineBreaks (text : List Char) : breaks text = lineBreaks text := by
  fun_induction lineBreaks text with
  | case1 => rfl
  | case2 rest ih =>
    have hpair : endsLine '\r' ('\n' :: rest).head? = false := by simp [endsLine]
    rw [breaks_cons, breaks_cons, hpair, endsLine_feed, ih]
    simp [Nat.add_comm]
  | case3 rest hnext ih =>
    rw [breaks_cons, endsLine_lone_return hnext, ih]
    simp [Nat.add_comm]
  | case4 rest ih =>
    rw [breaks_cons, endsLine_feed, ih]
    simp [Nat.add_comm]
  | case5 c rest hpair hreturn hfeed ih =>
    rw [breaks_cons, endsLine_of_not_break hfeed hreturn, ih]
    simp

/-! Seams -/

private theorem fused_append_left {a b : List Char} (h : b ≠ []) (next : List Char) :
    fused (a ++ b) next = fused b next := by
  rw [fused, fused, List.getLast?_append_of_ne_nil _ h]

private theorem fused_append_right {b : List Char} (h : b ≠ []) (a next : List Char) :
    fused a (b ++ next) = fused a b := by
  rw [fused, fused, List.head?_append_of_ne_nil _ h]

private theorem breaks_singleton_append (c : Char) (b : List Char) :
    breaks (c :: b) + fused [c] b = breaks [c] + breaks b := by
  rw [breaks_cons, breaks_cons, breaks_nil]
  by_cases hfuse : c = '\r' ∧ b.head? = some '\n'
  · obtain ⟨rfl, hfeed⟩ := hfuse
    simp [fused, endsLine, hfeed, Nat.add_comm]
  · have hzero : fused [c] b = 0 := by
      simpa [fused] using hfuse
    have hsame : endsLine c b.head? = endsLine c ([] : List Char).head? :=
      endsLine_congr fun hreturn => iff_of_false (fun hfeed => hfuse ⟨hreturn, hfeed⟩) (by simp)
    rw [hzero, hsame]
    omega

/-- Line breaks add up, but for two that fuse at the seam. -/
theorem breaks_append (a b : List Char) :
    breaks (a ++ b) + fused a b = breaks a + breaks b := by
  induction a with
  | nil => simp [fused]
  | cons c rest ih =>
    cases rest with
    | nil =>
      -- only the last character can be followed by something else than before
      exact breaks_singleton_append c b
    | cons d more =>
      have hfused : fused (c :: d :: more) b = fused (d :: more) b :=
        fused_append_left (a := [c]) (List.cons_ne_nil d more) b
      have hwhole := breaks_cons c (d :: more ++ b)
      have hfirst := breaks_cons c (d :: more)
      rw [List.cons_append, List.head?_cons] at hwhole
      rw [List.head?_cons] at hfirst
      rw [List.cons_append] at ih
      rw [hfused, List.cons_append, List.cons_append, hwhole, hfirst]
      omega

private theorem breaks_append_append (a new b : List Char) :
    breaks (a ++ new ++ b) + fusedAround a new b = breaks a + breaks new + breaks b := by
  unfold fusedAround
  split_ifs with hnew
  · subst hnew
    have hsides := breaks_append a b
    rwa [List.append_nil, breaks_nil, Nat.add_zero]
  · have hfirst := breaks_append a new
    have hsecond := breaks_append (a ++ new) b
    rw [fused_append_left hnew] at hsecond
    omega

private theorem insideBreak_append_length {a b : List Char} :
    insideBreak (a ++ b) a.length ↔ a.getLast? = some '\r' ∧ b.head? = some '\n' := by
  rcases List.eq_nil_or_concat a with rfl | ⟨rest, c, rfl⟩
  · simp [insideBreak]
  · have hnext : (rest ++ c :: b)[rest.length + 1]? = b.head? := by
      rw [List.getElem?_append_right (Nat.le_add_right _ _), Nat.add_sub_cancel_left,
        List.getElem?_cons_succ, List.head?_eq_getElem?]
    simp [insideBreak, hnext]

private theorem fused_of_properPoint {a b : List Char} (h : ProperPoint (a ++ b) a.length) :
    fused a b = 0 := by
  rw [fused, if_neg]
  rw [← insideBreak_append_length]
  exact h.2

private theorem fusedAround_of_properPoint {a text b : List Char}
    (hstart : ProperPoint (a ++ text ++ b) a.length)
    (hstop : ProperPoint (a ++ text ++ b) (a ++ text).length) : fusedAround a text b = 0 := by
  have hfirst : fused a (text ++ b) = 0 := by
    rw [List.append_assoc] at hstart
    exact fused_of_properPoint hstart
  have hsecond : fused (a ++ text) b = 0 := fused_of_properPoint hstop
  unfold fusedAround
  split_ifs with htext
  · rwa [htext, List.nil_append] at hfirst
  · rw [fused_append_right htext] at hfirst
    rw [fused_append_left htext] at hsecond
    omega

end Text

open Text (offsetAt lineBreaks fusedAround)

namespace Span

def before (span : Span) (text : List Char) : List Char := text.take (span.startIn text)

def inside (span : Span) (text : List Char) : List Char :=
  (text.take (span.stopIn text)).drop (span.startIn text)

def behind (span : Span) (text : List Char) : List Char := text.drop (span.stopIn text)

private theorem length_before (span : Span) (text : List Char) :
    (span.before text).length = span.startIn text := by
  rw [before, List.length_take, Nat.min_eq_left (span.properPoint_startIn text).1]

private theorem before_append_inside (span : Span) (text : List Char) :
    span.before text ++ span.inside text = text.take (span.stopIn text) := by
  have hbefore : span.before text = (text.take (span.stopIn text)).take (span.startIn text) := by
    rw [before, List.take_take, Nat.min_eq_left (span.startIn_le_stopIn text)]
  rw [hbefore, inside, List.take_append_drop]

private theorem length_before_append_inside (span : Span) (text : List Char) :
    (span.before text ++ span.inside text).length = span.stopIn text := by
  rw [before_append_inside, List.length_take, Nat.min_eq_left (span.properPoint_stopIn text).1]

private theorem parts (span : Span) (text : List Char) :
    span.before text ++ span.inside text ++ span.behind text = text := by
  rw [before_append_inside, behind, List.take_append_drop]

private theorem fusedAround_parts (span : Span) (text : List Char) :
    fusedAround (span.before text) (span.inside text) (span.behind text) = 0 := by
  have hstart := span.properPoint_startIn text
  have hstop := span.properPoint_stopIn text
  apply Text.fusedAround_of_properPoint
  · rwa [parts, length_before]
  · rwa [parts, length_before_append_inside]

end Span

namespace Edit

private theorem apply_replace_parts (text : List Char) (span : Span) (new : List Char) :
    apply text (.replace span new) = span.before text ++ new ++ span.behind text := rfl

/-- The line breaks inside the span go, those of the new text come, and some may fuse around it. -/
theorem lineCount_replace (text : List Char) (span : Span) (new : List Char) :
    (Text.lineCount (apply text (.replace span new)) : Int) =
      Text.lineCount text - lineBreaks (span.inside text) + lineBreaks new -
        fusedAround (span.before text) new (span.behind text) := by
  have hold := Text.breaks_append_append (span.before text) (span.inside text) (span.behind text)
  rw [span.fusedAround_parts, span.parts] at hold
  have hnew := Text.breaks_append_append (span.before text) new (span.behind text)
  rw [apply_replace_parts, Text.lineCount, Text.lineCount, ← Text.breaks_eq_lineBreaks,
    ← Text.breaks_eq_lineBreaks]
  omega

end Edit

/-- After any edits, the replacement of a span with any positions removes what stands between the
points that the positions mean. It changes the number of lines by the line breaks of the removed and
of the new text, less those that fuse around the new text. -/
theorem Document.lineCount_after_replacement (d : Document) (edits : List Edit) (span : Span)
    (new : List Char) (version : Int) :
    let old := d.applyEdits edits version
    let next := d.applyEdits (edits ++ [.replace span new]) version
    let p := span.before old.text
    let r := span.inside old.text
    let q := span.behind old.text
    old.text = p ++ r ++ q ∧ p.length = offsetAt old.text span.start ∧
      (p ++ r).length = max (offsetAt old.text span.stop) (offsetAt old.text span.start) ∧
      next.text = p ++ new ++ q ∧
      (next.lineCount : Int) =
        old.lineCount - lineBreaks r + lineBreaks new - fusedAround p new q := by
  intro old next p r q
  have hstep : next.text = Edit.apply old.text (.replace span new) := by
    simp only [next, old, applyEdits, List.foldl_append, List.foldl_cons, List.foldl_nil]
  refine ⟨(span.parts old.text).symm, span.length_before old.text,
    span.length_before_append_inside old.text, ?_, ?_⟩
  · rw [hstep, Edit.apply_replace_parts]
  · rw [lineCount, hstep]
    exact Edit.lineCount_replace old.text span new

/-- Breaks fuse on both sides of a new text, on one side only, and across a removed character. -/
example :
    let text := ['\r', 'a', '\n']
    let span : Span := ⟨⟨1, 0⟩, ⟨1, 1⟩⟩
    [['\n', '\r'], ['\n'], []].map
      (fun new => Text.lineCount (Edit.apply text (.replace span new))) = [3, 3, 2] := by decide

end ClassPad
