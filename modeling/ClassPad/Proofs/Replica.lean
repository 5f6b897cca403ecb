import ClassPad.Document
import ClassPad.Proofs.Position

/-!
Two copies of a document. An author edits a copy of their own and sends each edit with the positions
of its points in that copy; edits are sent in batches, each with a version. The document that takes
the batches has the author's text and the batch's version after each of them.
-/

set_option autoImplicit false
set_option relaxedAutoImplicit false

namespace ClassPad

open Text (insideBreak countedPosition countedPosition_eq_positionAt offsetAt offsetAt_positionAt)

/-- An edit as its author makes it, between two points of the author's own copy. -/
inductive OwnEdit where
  | replaceAll (text : List Char)
  | replace (start stop : Nat) (text : List Char)

namespace OwnEdit

def apply (copy : List Char) : OwnEdit → List Char
  | .replaceAll new => new
  | .replace start stop new => copy.take start ++ new ++ copy.drop stop

/-- The points of an edit are points of the copy, in order and neither of them inside a line
break. -/
def Fits (copy : List Char) : OwnEdit → Prop
  | .replaceAll _ => True
  | .replace start stop _ =>
    start ≤ stop ∧ stop ≤ copy.length ∧ ¬insideBreak copy start ∧ ¬insideBreak copy stop

instance (copy : List Char) (e : OwnEdit) : Decidable (e.Fits copy) :=
  match e with
  | .replaceAll _ => inferInstanceAs (Decidable True)
  | .replace start stop _ =>
    inferInstanceAs (Decidable
      (start ≤ stop ∧ stop ≤ copy.length ∧ ¬insideBreak copy start ∧ ¬insideBreak copy stop))

/-- An edit as it is sent, with positions counted in the copy at that moment. -/
def sent (copy : List Char) : OwnEdit → Edit
  | .replaceAll new => .replaceAll new
  | .replace start stop new =>
    .replace ⟨countedPosition copy start, countedPosition copy stop⟩ new

def FitAll (copy : List Char) : List OwnEdit → Prop
  | [] => True
  | e :: rest => e.Fits copy ∧ FitAll (e.apply copy) rest

instance decidableFitAll (copy : List Char) (edits : List OwnEdit) :
    Decidable (FitAll copy edits) :=
  match edits with
  | [] => inferInstanceAs (Decidable True)
  | e :: rest =>
    have := decidableFitAll (e.apply copy) rest
    inferInstanceAs (Decidable (e.Fits copy ∧ FitAll (e.apply copy) rest))

def sentAll (copy : List Char) : List OwnEdit → List Edit
  | [] => []
  | e :: rest => e.sent copy :: sentAll (e.apply copy) rest

private theorem offsetAt_countedPosition {copy : List Char} {i : Nat} (hi : i ≤ copy.length)
    (hin : ¬insideBreak copy i) : offsetAt copy (countedPosition copy i) = i := by
  rw [countedPosition_eq_positionAt, offsetAt_positionAt hi, if_neg hin]

/-- A sent edit does to a text what its author does to the copy. -/
theorem apply_sent {copy : List Char} {e : OwnEdit} (fits : e.Fits copy) :
    (e.sent copy).apply copy = e.apply copy := by
  cases e with
  | replaceAll new => rfl
  | replace start stop new =>
    obtain ⟨hle, hstop, hin, hin'⟩ := fits
    simp only [sent, Edit.apply, apply]
    rw [offsetAt_countedPosition (hle.trans hstop) hin, offsetAt_countedPosition hstop hin',
      Nat.max_eq_left hle]

private theorem foldl_apply_sentAll {copy : List Char} {edits : List OwnEdit}
    (fits : FitAll copy edits) :
    (sentAll copy edits).foldl Edit.apply copy = edits.foldl apply copy := by
  induction edits generalizing copy with
  | nil => rfl
  | cons e rest ih =>
    simp only [sentAll, List.foldl_cons]
    rw [apply_sent fits.1]
    exact ih fits.2

private theorem fitAll_append {copy : List Char} {first second : List OwnEdit} :
    FitAll copy (first ++ second) ↔
      FitAll copy first ∧ FitAll (first.foldl apply copy) second := by
  induction first generalizing copy with
  | nil => simp [FitAll]
  | cons e rest ih => simp [FitAll, ih, and_assoc]

end OwnEdit

structure Batch where
  edits : List OwnEdit
  version : Int

namespace Batch

/-- The author's copy and the version after each of several batches. -/
def trail (copy : List Char) : List Batch → List (List Char × Int)
  | [] => []
  | b :: rest =>
    let next := b.edits.foldl OwnEdit.apply copy
    (next, b.version) :: trail next rest

def notifications (copy : List Char) : List Batch → List (List Edit × Int)
  | [] => []
  | b :: rest =>
    (OwnEdit.sentAll copy b.edits, b.version) ::
      notifications (b.edits.foldl OwnEdit.apply copy) rest

end Batch

namespace Document

def receive (d : Document) : List (List Edit × Int) → List Document
  | [] => []
  | (edits, version) :: rest =>
    let next := d.applyEdits edits version
    next :: receive next rest

/-- However an author groups edits that fit, the document has the author's text and the version of
the last batch after every batch. -/
theorem receive_notifications (d : Document) (batches : List Batch)
    (fits : OwnEdit.FitAll d.text (batches.flatMap Batch.edits)) :
    (d.receive (Batch.notifications d.text batches)).map (fun e => (e.text, e.version)) =
      Batch.trail d.text batches := by
  induction batches generalizing d with
  | nil => rfl
  | cons b rest ih =>
    rw [List.flatMap_cons, OwnEdit.fitAll_append] at fits
    obtain ⟨first, later⟩ := fits
    have htext : (d.applyEdits (OwnEdit.sentAll d.text b.edits) b.version).text =
        b.edits.foldl OwnEdit.apply d.text := OwnEdit.foldl_apply_sentAll first
    simp only [Batch.notifications, receive, Batch.trail, List.map_cons]
    rw [← htext] at later ⊢
    rw [ih _ later]
    rfl

/-- Edits that part, remove and join line breaks next to a character of two units. -/
theorem receive_notifications_joining_breaks :
    let d : Document := ⟨⟨"file:///prog.cp"⟩, ['a', '😀', '\r', '\n', 'b'], 1⟩
    let batches : List Batch :=
      [⟨[.replace 1 2 ['\r'], .replace 2 4 []], 2⟩,
        ⟨[.replace 2 2 ['\n'], .replace 3 4 ['😀'], .replace 4 4 ['X']], 7⟩]
    OwnEdit.FitAll d.text (batches.flatMap Batch.edits) ∧
      (d.receive (Batch.notifications d.text batches)).map (fun e => (e.text, e.version)) =
        [(['a', '\r', 'b'], 2), (['a', '\r', '\n', '😀', 'X'], 7)] := by
  intro d batches
  have fits : OwnEdit.FitAll d.text (batches.flatMap Batch.edits) := by decide
  exact ⟨fits, receive_notifications d batches fits⟩

end Document

end ClassPad
