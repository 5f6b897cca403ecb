/-!
Labels beyond ASCII in ASCII letters. The ASCII characters of a label come first; the others follow
as numbers that say which character comes next and where it goes, written with digits of growing
weight whose least size adapts to the numbers before.
-/

set_option autoImplicit false
set_option relaxedAutoImplicit false

namespace ClassPad.Domain.Punycode

/-- A digit from 0 to 35: the letters, then the numerals. -/
def digitChar (d : Nat) : Char :=
  if d < 26 then Char.ofNat ('a'.toNat + d) else Char.ofNat ('0'.toNat + d - 26)

def digitValue? (c : Char) : Option Nat :=
  if 'a' ≤ c ∧ c ≤ 'z' then some (c.toNat - 'a'.toNat)
  else if 'A' ≤ c ∧ c ≤ 'Z' then some (c.toNat - 'A'.toNat)
  else if '0' ≤ c ∧ c ≤ '9' then some (c.toNat - '0'.toNat + 26)
  else none

/-- The least digit that is not the last one, at a weight and a bias. -/
def threshold (k bias : Nat) : Nat :=
  if k ≤ bias then 1 else if bias + 26 ≤ k then 26 else k - bias

theorem threshold_pos (k bias : Nat) : 1 ≤ threshold k bias := by
  unfold threshold
  split
  · omega
  · split <;> omega

/-- Divides a number by 35 until it is small, and counts how often. -/
def shrink (delta k : Nat) : Nat × Nat :=
  if 455 < delta then shrink (delta / 35) (k + 36) else (delta, k)
termination_by delta
decreasing_by exact Nat.div_lt_self (by omega) (by omega)

/-- The bias after a number, given how many characters there are then. -/
def adapt (delta points : Nat) (first : Bool) : Nat :=
  let delta := if first then delta / 700 else delta / 2
  let (small, k) := shrink (delta + delta / points) 0
  k + 36 * small / (small + 38)

def digits (bias k q : Nat) : List Char :=
  let t := threshold k bias
  if q < t then [digitChar q]
  else digitChar (t + (q - t) % (36 - t)) :: digits bias (k + 36) ((q - t) / (36 - t))
termination_by q
decreasing_by
  have h := threshold_pos k bias
  calc (q - threshold k bias) / (36 - threshold k bias)
      ≤ q - threshold k bias := Nat.div_le_self _ _
    _ < q := by omega

/-- The state while the characters beyond ASCII are written. -/
structure Writing where
  delta : Nat
  bias : Nat
  placed : Nat
  written : List Char

def writePoint (label : List Char) (basic : Nat) (state : Writing) (m : Nat) : Writing :=
  label.foldl (fun s c =>
    if c.toNat < m then { s with delta := s.delta + 1 }
    else if c.toNat = m then
      { delta := 0
        bias := adapt s.delta (s.placed + 1) (s.placed = basic)
        placed := s.placed + 1
        written := s.written ++ digits s.bias 36 s.delta }
    else s) state

def writePoints (label : List Char) (basic : Nat) : Writing → Nat → List Nat → Writing
  | state, _, [] => state
  | state, next, m :: rest =>
    let before := { state with delta := state.delta + (m - next) * (state.placed + 1) }
    let after := writePoint label basic before m
    writePoints label basic { after with delta := after.delta + 1 } (m + 1) rest

def isBasic (c : Char) : Bool := decide (c.toNat < 0x80)

def encode (label : List Char) : List Char :=
  let basic := label.filter isBasic
  let points := ((label.filter fun c => !isBasic c).map Char.toNat).mergeSort.eraseDups
  let start : Writing := ⟨0, 72, basic.length, if basic.isEmpty then [] else basic ++ ['-']⟩
  (writePoints label basic.length start 0x80 points).written

/-- Numbers in an encoded label fit in 32 bits. -/
def limit : Nat := 4294967295

/-- Reads one number and adds it to a sum, which has to stay within the limit; gives the sum and
what follows. -/
def readNumber (bias : Nat) : List Char → Nat → Nat → Nat → Option (Nat × List Char)
  | [], _, _, _ => none
  | c :: rest, k, weight, sum =>
    match digitValue? c with
    | none => none
    | some d =>
      if limit < sum + d * weight then none
      else
        let t := threshold k bias
        if d < t then some (sum + d * weight, rest)
        else if limit < weight * (36 - t) then none
        else readNumber bias rest (k + 36) (weight * (36 - t)) (sum + d * weight)

theorem length_readNumber (bias : Nat) (text : List Char) (k weight sum : Nat)
    (r : Nat × List Char) (h : readNumber bias text k weight sum = some r) :
    r.2.length < text.length := by
  induction text generalizing k weight sum with
  | nil => simp [readNumber] at h
  | cons c rest ih =>
    unfold readNumber at h
    split at h
    · simp at h
    · split at h
      · simp at h
      · simp only at h
        split at h
        · cases h
          simp
        · split at h
          · simp at h
          · have shorter := ih _ _ _ h
            simp only [List.length_cons]
            omega

def insertAt (label : List Char) (place : Nat) (c : Char) : List Char :=
  label.take place ++ c :: label.drop place

/-- Reads the numbers of a label, each of which puts one more character into it. -/
def readPoints (label : List Char) (text : List Char) (code place bias : Nat) :
    Option (List Char) :=
  match text with
  | [] => some label
  | c :: rest =>
    match _h : readNumber bias (c :: rest) 36 1 place with
    | none => none
    | some (sum, after) =>
      let count := label.length + 1
      let point := code + sum / count
      if limit < point ∨ 0x110000 ≤ point ∨ (0xD800 ≤ point ∧ point < 0xE000) then none
      else
        readPoints (insertAt label (sum % count) (Char.ofNat point)) after point (sum % count + 1)
          (adapt (sum - place) count (place = 0))
termination_by text.length
decreasing_by exact length_readNumber _ _ _ _ _ _ (by assumption)

/-- The label that ASCII letters stand for: its ASCII characters before the last hyphen, the numbers
of the others behind it. -/
def decode? (text : List Char) : Option (List Char) :=
  let numbers := (text.reverse.takeWhile (· != '-')).reverse
  let basic := text.take (text.length - numbers.length - 1)
  if text.contains '-' ∧ basic.isEmpty then none
  else readPoints basic numbers 0x80 0 72

end ClassPad.Domain.Punycode
