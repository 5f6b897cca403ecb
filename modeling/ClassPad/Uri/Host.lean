import ClassPad.Domain.Name
import ClassPad.Text.Quoted
import ClassPad.Text.Utf8
import ClassPad.Uri.Percent

/-!
Hosts of an address: numeric addresses in their canonical form, names in their ASCII form.
-/

set_option autoImplicit false
set_option relaxedAutoImplicit false

namespace ClassPad.Uri

/-- Why a text is no address. -/
inductive Error where
  | noScheme
  | emptyHost
  | badDomain
  | badHostChar
  | badPort
  | badIpv4
  | badIpv6
deriving DecidableEq, Repr

def Error.message : Error → String
  | .noScheme => "relative URL without a base"
  | .emptyHost => "empty host"
  | .badDomain => "invalid international domain name"
  | .badHostChar => "invalid domain character"
  | .badPort => "invalid port number"
  | .badIpv4 => "invalid IPv4 address"
  | .badIpv6 => "invalid IPv6 address"

private def digitIn (base : Nat) (c : Char) : Option Nat :=
  let value :=
    if '0' ≤ c ∧ c ≤ '9' then some (c.toNat - '0'.toNat)
    else if 'a' ≤ c ∧ c ≤ 'f' then some (c.toNat - 'a'.toNat + 10)
    else if 'A' ≤ c ∧ c ≤ 'F' then some (c.toNat - 'A'.toNat + 10)
    else none
  value.bind fun v => if v < base then some v else none

private def numberIn (base : Nat) (digits : List Char) : Option Nat :=
  digits.foldl (fun acc c => acc.bind fun n => (digitIn base c).map fun d => n * base + d) (some 0)

/-- A part of a numeric address: hexadecimal after `0x`, octal after another zero. -/
def ipv4Number? (part : List Char) : Option Nat :=
  match part with
  | [] => none
  | '0' :: 'x' :: rest => numberIn 16 rest
  | '0' :: 'X' :: rest => numberIn 16 rest
  | '0' :: rest => if rest.isEmpty then some 0 else numberIn 8 rest
  | part => numberIn 10 part

private def labels (name : List Char) : List (List Char) :=
  let parts := Text.splitAll '.' name
  match parts.getLast? with
  | some [] => if 1 < parts.length then parts.dropLast else parts
  | _ => parts

/-- A name is meant as a numeric address if its last label is a number. -/
def endsInNumber (name : List Char) : Bool :=
  match (labels name).getLast? with
  | none => false
  | some part => (!part.isEmpty && part.all Char.isDigit) ||
      ((part.take 2 = ['0', 'x'] || part.take 2 = ['0', 'X']) && (ipv4Number? part).isSome)

def ipv4? (name : List Char) : Except Error (List Char) :=
  match (labels name).mapM ipv4Number? with
  | none => .error .badIpv4
  | some parts =>
    let init := parts.dropLast
    let last := parts.getLast?.getD 0
    if 4 < parts.length ∨ init.any (255 < ·) ∨ Nat.pow 256 (5 - parts.length) ≤ last then
      .error .badIpv4
    else
      let high := (init.zipIdx.map fun (p, i) => p * Nat.pow 256 (3 - i)).foldl (· + ·) 0
      let n := high + last
      let bytes := [n / 16777216, n / 65536 % 256, n / 256 % 256, n % 256]
      .ok ((".".intercalate (bytes.map toString)).toList)

/-- The sixteen-bit pieces written in a text without `::`. -/
private def ipv6Pieces (text : List Char) : Option (List Nat) :=
  if text.isEmpty then some []
  else
    let parts := Text.splitAll ':' text
    let hex (part : List Char) : Option Nat :=
      if part.isEmpty ∨ 4 < part.length then none else numberIn 16 part
    let tail4 (part : List Char) : Option (List Nat) :=
      let bytes := Text.splitAll '.' part
      let byte (b : List Char) : Option Nat :=
        if b.isEmpty || !b.all Char.isDigit || (decide (1 < b.length) && b.head? = some '0') then
          none
        else (numberIn 10 b).bind fun n => if n ≤ 255 then some n else none
      match bytes.mapM byte with
      | some [a, b, c, d] => some [a * 256 + b, c * 256 + d]
      | _ => none
    match parts.getLast? with
    | some last =>
      if last.contains '.' then do
        let front ← parts.dropLast.mapM hex
        let back ← tail4 last
        some (front ++ back)
      else parts.mapM hex
    | none => none

private def splitDouble : List Char → Option (List Char × List Char)
  | ':' :: ':' :: rest => some ([], rest)
  | c :: rest => (splitDouble rest).map fun r => (c :: r.1, r.2)
  | [] => none

private def ipv6Parts (text : List Char) : Option (List Nat) :=
  match splitDouble text with
  | none => (ipv6Pieces text).bind fun ps => if ps.length = 8 then some ps else none
  | some (before, after) => do
    if before.contains '.' then none
    else
      let a ← ipv6Pieces before
      let b ← ipv6Pieces after
      if 7 < a.length + b.length then none
      else some (a ++ List.replicate (8 - a.length - b.length) 0 ++ b)

/-- The first longest run of zeros with at least two of them: where it starts and its length. -/
private def zeroRun (pieces : List Nat) : Option (Nat × Nat) :=
  (List.range 8).foldl (fun best i =>
    let n := ((pieces.drop i).takeWhile (· = 0)).length
    match best with
    | none => if 2 ≤ n then some (i, n) else none
    | some (j, m) => if m < n then some (i, n) else some (j, m)) none

private def renderIpv6 (pieces : List Nat) : List Char :=
  let hex (ps : List Nat) : List Char :=
    (":".intercalate (ps.map fun p => String.ofList (Text.hexDigits p))).toList
  match zeroRun pieces with
  | none => hex pieces
  | some (i, n) => hex (pieces.take i) ++ [':', ':'] ++ hex (pieces.drop (i + n))

def bracketed? (host : List Char) : Except Error (List Char) :=
  if host.getLast? = some ']' ∧ 1 < host.length then
    match ipv6Parts (host.drop 1).dropLast with
    | some pieces => .ok ('[' :: renderIpv6 pieces ++ [']'])
    | none => .error .badIpv6
  else .error .badIpv6

/-- The host of an address with a well-known scheme. -/
def specialHost (host : List Char) : Except Error (List Char) :=
  if host.head? = some '[' then bracketed? host
  else
    match Text.ofUtf8? (percentDecode host) with
    | none => .error .badDomain
    | some name =>
      match Domain.toAscii? name with
      | none => .error .badDomain
      | some [] => .error .emptyHost
      | some ascii => if endsInNumber ascii then ipv4? ascii else .ok ascii

def otherHost (host : List Char) : Except Error (List Char) :=
  if host.head? = some '[' then bracketed? host
  else if host.any fun c => c = '\x00' || c = '\t' || c = '\n' || c = '\r' ||
      [' ', '#', '/', ':', '<', '>', '?', '@', '[', '\\', ']', '^', '|'].contains c then
    .error .badHostChar
  else .ok (percentEncode [] host)

end ClassPad.Uri
