import ClassPad.Domain.Direction
import ClassPad.Domain.Joining
import ClassPad.Domain.Mapping
import ClassPad.Domain.Punycode
import ClassPad.Text.Split

/-!
Names of hosts in ASCII. Each label of a name is brought to its canonical form in small letters; one
beyond ASCII is then written in ASCII letters, behind a fixed mark. A label that bears the mark from
the start has to stand for a label in canonical form.
-/

set_option autoImplicit false
set_option relaxedAutoImplicit false

namespace ClassPad.Domain

/-- A label in its two forms. -/
structure Label where
  ascii : List Char
  shown : List Char
deriving DecidableEq, Repr

def isForbidden (c : Char) : Bool :=
  decide (c.toNat ≤ 0x20) || c = '\x7f' ||
    ['#', '%', '/', ':', '<', '>', '?', '@', '[', '\\', ']', '^', '|'].contains c

namespace Label

/-- What a label in ASCII letters starts with. -/
def mark : List Char := ['x', 'n', '-', '-']

def isFit (label : List Char) : Bool :=
  decide (label.length ≤ 1000) && isWellJoined label && !label.any isForbidden

def ofAscii? (label : List Char) : Option Label :=
  if label.any isForbidden then none
  else if label.take 4 ≠ mark then some ⟨label, label⟩
  else if label.getLast? = some '-' ∨ 2004 < label.length then none
  else do
    let shown ← Punycode.decode? (label.drop 4)
    if shown.all stays && Text.Canonical.form shown == shown && isFit shown then
      some ⟨label, shown⟩
    else none

def ofShown? (label : List Char) : Option Label :=
  if label.all Punycode.isBasic then ofAscii? label
  else if label.take 4 ≠ mark ∧ isFit label then some ⟨mark ++ Punycode.encode label, label⟩
  else none

/-- The labels that a part of a name between dots comes to; the canonical form of a part may hold
dots of its own. -/
def ofPart? (part : List Char) : Option (List Label) :=
  if part.all Punycode.isBasic then (ofAscii? (part.map Char.toLower)).map ([·])
  else do
    let texts ← part.mapM mapped?
    (Text.splitAll '.' (Text.Canonical.form texts.flatten)).mapM ofShown?

end Label

def toAscii? (name : List Char) : Option (List Char) := do
  let labels := (← (Text.splitAll '.' name).mapM Label.ofPart?).flatten
  if labels.any (fun l => Direction.turns l.shown) && !labels.all (fun l => Direction.keeps l.shown)
  then none
  else some (List.intercalate ['.'] (labels.map Label.ascii))

end ClassPad.Domain
