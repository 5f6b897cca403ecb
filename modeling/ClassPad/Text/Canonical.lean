import ClassPad.Text.Canonical.Table

/-!
The canonical composed form of a text: characters are taken apart as far as they go, combining marks
are put in the order of their classes, and what can be put together again is. Texts that differ only
in how their characters are put together have the same form.
-/

set_option autoImplicit false
set_option relaxedAutoImplicit false

namespace ClassPad.Text.Canonical

def afterSign (rest : List Char) : List Char := tableText (rest.drop 1)

def decompositions : RunTable (List Char) := .ofText afterSign decompositionRuns

def classes : RunTable Nat := .ofText (fun rest => tableNumber (rest.drop 1)) classRuns

/-- The number of a pair of characters, by which pairs are ordered. -/
def pairNumber (a b : Nat) : Nat := a * 0x110000 + b

/-- The characters that pairs compose to, by the number of the pair. -/
def compositions : RunTable Char :=
  ⟨(RunTable.ofText afterSign compositionRuns).runs.map fun run =>
    match run.value with
    | [b, c] =>
      let number := pairNumber run.first b.toNat
      ⟨number, number, c⟩
    | _ => ⟨0, 0, Char.ofNat run.first⟩⟩

/-- The class of a character; zero for those that combine with nothing before them. -/
def classOf (c : Char) : Nat := (classes.get? c).getD 0

/-- The first syllable of Hangul, leading consonant, vowel, and the place before the first trailing
consonant. -/
def syllableBase : Nat := 0xAC00

@[inherit_doc syllableBase]
def leadBase : Nat := 0x1100

@[inherit_doc syllableBase]
def vowelBase : Nat := 0x1161

@[inherit_doc syllableBase]
def trailBase : Nat := 0x11A7

/-- The characters that a character is made of: a syllable's letters, or what the table says. -/
def decompose (c : Char) : List Char :=
  let n := c.toNat
  if syllableBase ≤ n ∧ n < syllableBase + 11172 then
    let i := n - syllableBase
    let pair := [Char.ofNat (leadBase + i / 588), Char.ofNat (vowelBase + i % 588 / 28)]
    if i % 28 = 0 then pair else pair ++ [Char.ofNat (trailBase + i % 28)]
  else (decompositions.get? c).getD [c]

/-- Puts a character before others, behind the marks among them that come before it. -/
def insertMark (c : Char) : List Char → List Char
  | [] => [c]
  | d :: rest =>
    if classOf d ≠ 0 ∧ classOf d < classOf c then d :: insertMark c rest else c :: d :: rest

/-- Puts the marks after each character in the order of their classes. -/
def order (text : List Char) : List Char := text.foldr insertMark []

def composePair? (a b : Char) : Option Char :=
  let m := a.toNat
  let n := b.toNat
  if leadBase ≤ m ∧ m < leadBase + 19 ∧ vowelBase ≤ n ∧ n < vowelBase + 21 then
    some (Char.ofNat (syllableBase + ((m - leadBase) * 21 + (n - vowelBase)) * 28))
  else if syllableBase ≤ m ∧ m < syllableBase + 11172 ∧ (m - syllableBase) % 28 = 0 ∧
      trailBase < n ∧ n < trailBase + 28 then
    some (Char.ofNat (m + (n - trailBase)))
  else (compositions.find? (pairNumber m n)).map Run.value

/-- Composes what follows a character that starts a sequence. The marks between the two, newest
first, did not compose; one of the class of a mark before it or of a lower one cannot reach past
that mark. -/
def composeFrom (starter : Char) (marks : List Char) : List Char → List Char
  | [] => starter :: marks.reverse
  | c :: rest =>
    let reaches := match marks with
      | [] => true
      | m :: _ => decide (classOf m < classOf c)
    match if reaches then composePair? starter c else none with
    | some composed => composeFrom composed marks rest
    | none =>
      if classOf c = 0 then starter :: marks.reverse ++ composeFrom c [] rest
      else composeFrom starter (c :: marks) rest

def compose : List Char → List Char
  | [] => []
  | c :: rest => if classOf c = 0 then composeFrom c [] rest else c :: compose rest

/-- The canonical composed form of a text. -/
def form (text : List Char) : List Char := compose (order (text.flatMap decompose))

end ClassPad.Text.Canonical
