import ClassPad.Document
import ClassPad.Proofs.Position.Clamping

/-!
Edits in place. An edit of a span takes characters out of the text and puts others in at the same
point, and both are possible only at points that the text has. Whatever the positions of the edits
are, every one of them finds such points in the text that the edits before it have left, and no line
break of two characters is parted.
-/

set_option autoImplicit false
set_option relaxedAutoImplicit false

namespace ClassPad

namespace Text

/-- A text without the characters between two points. There is no result unless both are points of
the text, in this order. -/
def remove? (text : List Char) (start stop : Nat) : Option (List Char) :=
  if start ≤ stop ∧ stop ≤ text.length then some (text.take start ++ text.drop stop) else none

/-- A text with another one put in at a point. There is no result unless the text has the point. -/
def insert? (text : List Char) (point : Nat) (new : List Char) : Option (List Char) :=
  if point ≤ text.length then some (text.take point ++ new ++ text.drop point) else none

/-- The index of a character after `count` others have come in for those between two points;
nothing for a character between the points. -/
def movedTo (start stop count k : Nat) : Option Nat :=
  if k < start then some k else if k < stop then none else some (start + count + (k - stop))

private theorem getElem?_movedTo {text new : List Char} {start stop k m : Nat}
    (hstart : start ≤ stop)
    (hstop : stop ≤ text.length) (h : movedTo start stop new.length k = some m) :
    (text.take start ++ new ++ text.drop stop)[m]? = text[k]? := by
  have hlen : (text.take start ++ new).length = start + new.length := by
    rw [List.length_append, List.length_take]
    omega
  unfold movedTo at h
  split_ifs at h with hbefore hinside
  · obtain rfl : k = m := Option.some.inj h
    rw [List.append_assoc, List.getElem?_append_left (by rw [List.length_take]; omega),
      List.getElem?_take_of_lt hbefore]
  · obtain rfl : start + new.length + (k - stop) = m := Option.some.inj h
    rw [List.getElem?_append_right (by omega), hlen, List.getElem?_drop]
    congr 1
    omega

/-- Between points that are not inside line breaks, every line break of two characters is taken out
whole or stays whole. -/
theorem movedTo_pair {text new : List Char} {start stop k : Nat} (hstart : ProperPoint text start)
    (hstop : ProperPoint text stop) (hle : start ≤ stop) (hpair : insideBreak text (k + 1)) :
    (movedTo start stop new.length k = none ∧ movedTo start stop new.length (k + 1) = none) ∨
      ∃ m, movedTo start stop new.length k = some m ∧
        movedTo start stop new.length (k + 1) = some (m + 1) ∧
        insideBreak (text.take start ++ new ++ text.drop stop) (m + 1) := by
  have hne : start ≠ k + 1 := fun heq => hstart.2 (heq ▸ hpair)
  have hne' : stop ≠ k + 1 := fun heq => hstop.2 (heq ▸ hpair)
  -- two neighbours that both stay are found again where they have moved to
  have hkept : ∀ m, movedTo start stop new.length k = some m →
      movedTo start stop new.length (k + 1) = some (m + 1) →
      insideBreak (text.take start ++ new ++ text.drop stop) (m + 1) := by
    intro m hfirst hsecond
    have hreturn := getElem?_movedTo hle hstop.1 hfirst
    have hfeed := getElem?_movedTo hle hstop.1 hsecond
    exact ⟨hreturn.trans hpair.1, hfeed.trans hpair.2⟩
  rcases Nat.lt_or_gt_of_ne hne with hlow | hhigh
  · rcases Nat.lt_or_gt_of_ne hne' with hafter | hinside
    · have hfirst : movedTo start stop new.length k =
          some (start + new.length + (k - stop)) := by
        rw [movedTo, if_neg (by omega), if_neg (by omega)]
      have hsecond : movedTo start stop new.length (k + 1) =
          some (start + new.length + (k - stop) + 1) := by
        rw [movedTo, if_neg (by omega), if_neg (by omega), Option.some.injEq]
        omega
      exact Or.inr ⟨_, hfirst, hsecond, hkept _ hfirst hsecond⟩
    · left
      constructor <;> rw [movedTo, if_neg (by omega), if_pos (by omega)]
  · have hfirst : movedTo start stop new.length k = some k := by
      rw [movedTo, if_pos (by omega)]
    have hsecond : movedTo start stop new.length (k + 1) = some (k + 1) := by
      rw [movedTo, if_pos (by omega)]
    exact Or.inr ⟨_, hfirst, hsecond, hkept _ hfirst hsecond⟩

end Text

open Text (offsetAt ProperPoint properPoint_offsetAt insideBreak movedTo remove? insert?)

namespace Span

def startIn (span : Span) (text : List Char) : Nat := offsetAt text span.start

/-- The point of a text where a span stops, which is where it starts if its end lies before. -/
def stopIn (span : Span) (text : List Char) : Nat :=
  max (offsetAt text span.stop) (span.startIn text)

theorem properPoint_startIn (span : Span) (text : List Char) :
    ProperPoint text (span.startIn text) :=
  properPoint_offsetAt text span.start

theorem properPoint_stopIn (span : Span) (text : List Char) :
    ProperPoint text (span.stopIn text) := by
  unfold stopIn
  rcases Nat.le_total (offsetAt text span.stop) (span.startIn text) with hle | hge
  · rw [Nat.max_eq_right hle]
    exact span.properPoint_startIn text
  · rw [Nat.max_eq_left hge]
    exact properPoint_offsetAt text span.stop

theorem startIn_le_stopIn (span : Span) (text : List Char) :
    span.startIn text ≤ span.stopIn text :=
  Nat.le_max_right _ _

private theorem stopIn_of_le {span : Span} (h : span.start ≤ span.stop) (text : List Char) :
    span.stopIn text = offsetAt text span.stop :=
  Nat.max_eq_left (Text.monotone_offsetAt text h)

end Span

namespace Edit

def applyInPlace (text : List Char) : Edit → Option (List Char)
  | .replaceAll new => some new
  | .replace span new => do
    let rest ← remove? text (span.startIn text) (span.stopIn text)
    insert? rest (span.startIn text) new

/-- The replacement of a span by `new` turns a text into `next`. -/
structure Replaces (text : List Char) (span : Span) (new next : List Char) : Prop where
  start_le_stop : span.startIn text ≤ span.stopIn text
  stop_le : span.stopIn text ≤ text.length
  inserts : ∃ rest, remove? text (span.startIn text) (span.stopIn text) = some rest ∧
    span.startIn text ≤ rest.length ∧ insert? rest (span.startIn text) new = some next
  result : next = text.take (span.startIn text) ++ new ++ text.drop (span.stopIn text)
  /-- A line break of two characters is removed whole, or both of them stay next to each other. -/
  pairs : ∀ k, insideBreak text (k + 1) →
    (movedTo (span.startIn text) (span.stopIn text) new.length k = none ∧
      movedTo (span.startIn text) (span.stopIn text) new.length (k + 1) = none) ∨
    ∃ m, movedTo (span.startIn text) (span.stopIn text) new.length k = some m ∧
      movedTo (span.startIn text) (span.stopIn text) new.length (k + 1) = some (m + 1) ∧
      insideBreak next (m + 1)
  stop_eq : span.start ≤ span.stop → span.stopIn text = offsetAt text span.stop

private theorem apply_replace (text : List Char) (span : Span) (new : List Char) :
    apply text (.replace span new) =
      text.take (span.startIn text) ++ new ++ text.drop (span.stopIn text) := rfl

/-- Every replacement finds the points that it needs. -/
theorem replaces_apply (text : List Char) (span : Span) (new : List Char) :
    Replaces text span new (apply text (.replace span new)) := by
  have hstart := span.properPoint_startIn text
  have hstop := span.properPoint_stopIn text
  have hle := span.startIn_le_stopIn text
  have hlen : (text.take (span.startIn text)).length = span.startIn text := by
    rw [List.length_take]
    exact Nat.min_eq_left hstart.1
  have hroom : span.startIn text ≤
      (text.take (span.startIn text) ++ text.drop (span.stopIn text)).length := by
    rw [List.length_append, hlen]
    exact Nat.le_add_right _ _
  refine ⟨hle, hstop.1, ⟨_, if_pos ⟨hle, hstop.1⟩, hroom, ?_⟩, rfl, fun k hpair => ?_,
    fun h => Span.stopIn_of_le h text⟩
  · rw [insert?, if_pos hroom, List.take_left' hlen, List.drop_left' hlen, apply_replace]
  · exact Text.movedTo_pair hstart hstop hle hpair

private theorem applyInPlace_eq (text : List Char) (e : Edit) :
    e.applyInPlace text = some (e.apply text) := by
  cases e with
  | replaceAll new => rfl
  | replace span new =>
    obtain ⟨rest, hremove, -, hinsert⟩ := (replaces_apply text span new).inserts
    simp only [applyInPlace, hremove, Option.bind_eq_bind, Option.bind_some, hinsert]

private theorem foldlM_applyInPlace (text : List Char) (edits : List Edit) :
    edits.foldlM applyInPlace text = some (edits.foldl apply text) := by
  induction edits generalizing text with
  | nil => rfl
  | cons e rest ih =>
    rw [List.foldlM_cons, applyInPlace_eq, Option.bind_eq_bind, Option.bind_some, ih,
      List.foldl_cons]

end Edit

namespace Document

/-- Edits with any positions can be made in place, one after the other, and none of them parts a
line break. -/
theorem applyEdits_in_place (d : Document) (edits : List Edit) (version : Int) :
    edits.foldlM Edit.applyInPlace d.text = some (d.applyEdits edits version).text ∧
      ∀ n span new, edits[n]? = some (.replace span new) →
        Edit.Replaces (d.applyEdits (edits.take n) version).text span new
          (d.applyEdits (edits.take (n + 1)) version).text := by
  refine ⟨Edit.foldlM_applyInPlace d.text edits, ?_⟩
  intro n span new hn
  have hstep : (d.applyEdits (edits.take (n + 1)) version).text =
      Edit.apply (d.applyEdits (edits.take n) version).text (.replace span new) := by
    simp only [applyEdits, List.take_add_one, hn, Option.toList_some, List.foldl_append,
      List.foldl_cons, List.foldl_nil]
  rw [hstep]
  exact Edit.replaces_apply _ span new

/-- A span whose end lies before its start, and then one from inside a line break to inside a
character of two units, which removes the line break. -/
theorem applyEdits_in_place_reversed :
    let d : Document := ⟨⟨"file:///prog.cp"⟩, ['a', '\r', '\n', '😀', 'b'], 1⟩
    let edits : List Edit :=
      [.replace ⟨⟨1, 2⟩, ⟨0, 2⟩⟩ ['\n'], .replace ⟨⟨0, 2⟩, ⟨1, 1⟩⟩ ['c']]
    edits[1]? = some (.replace ⟨⟨0, 2⟩, ⟨1, 1⟩⟩ ['c']) ∧
      (d.applyEdits (edits.take 1) 2).text = ['a', '\r', '\n', '😀', '\n', 'b'] ∧
      (d.applyEdits edits 2).text = ['a', 'c', '😀', '\n', 'b'] ∧
      Edit.Replaces ['a', '\r', '\n', '😀', '\n', 'b'] ⟨⟨0, 2⟩, ⟨1, 1⟩⟩ ['c']
        ['a', 'c', '😀', '\n', 'b'] := by
  intro d edits
  have hsecond : edits[1]? = some (.replace ⟨⟨0, 2⟩, ⟨1, 1⟩⟩ ['c']) := rfl
  exact ⟨hsecond, rfl, rfl, (applyEdits_in_place d edits 2).2 1 _ _ hsecond⟩

end Document

end ClassPad
