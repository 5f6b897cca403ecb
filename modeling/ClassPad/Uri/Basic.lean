import ClassPad.Uri.Host
import ClassPad.Uri.Path

/-!
Addresses of documents in their normal form: scheme and host in lower case, the number that the
scheme implies left out after the host, dot segments of the path resolved, and what may not stand
in an address percent-encoded. Two spellings of one address have the same normal form, which is
what documents are known by.
-/

set_option autoImplicit false
set_option relaxedAutoImplicit false

namespace ClassPad

/-- An address in normal form. -/
structure Uri where
  text : String
deriving DecidableEq, Repr, Inhabited

namespace Uri

def schemeKind (scheme : List Char) : SchemeKind :=
  let s := String.ofList scheme
  if s = "file" then .file
  else if ["http", "https", "ws", "wss", "ftp"].contains s then .web
  else .other

def defaultPort (scheme : List Char) : Option Nat :=
  let s := String.ofList scheme
  if s = "http" ∨ s = "ws" then some 80
  else if s = "https" ∨ s = "wss" then some 443
  else if s = "ftp" then some 21
  else none

def scheme? (text : List Char) : Option (List Char × List Char) :=
  match text with
  | c :: _ =>
    let isSchemeChar (c : Char) : Bool := c.isAlphanum || c = '+' || c = '-' || c = '.'
    let name := text.takeWhile isSchemeChar
    match c.isAlpha, text.dropWhile isSchemeChar with
    | true, ':' :: rest => some (name.map Char.toLower, rest)
    | _, _ => none
  | [] => none

def endsAuthority (kind : SchemeKind) (c : Char) : Bool :=
  c = '/' || c = '?' || c = '#' || (kind != .other && c = '\\')

/-- Query and fragment of an address, from the first `?` or `#` on. -/
def renderTail (kind : SchemeKind) (text : List Char) : List Char :=
  match text with
  | '?' :: rest =>
    let query := rest.takeWhile (· != '#')
    let after := rest.dropWhile (· != '#')
    '?' :: percentEncode (querySet (kind != .other)) query ++
      (match after with
       | '#' :: fragment => '#' :: percentEncode fragmentSet fragment
       | _ => [])
  | '#' :: fragment => '#' :: percentEncode fragmentSet fragment
  | _ => []

def splitTail (text : List Char) : List Char × List Char :=
  let isTail (c : Char) : Bool := c = '?' || c = '#'
  (text.takeWhile (fun c => !isTail c), text.dropWhile (fun c => !isTail c))

/-- A file address: an optional host, then a path that is never empty. -/
def ofFile (rest : List Char) : Except Error (List Char) :=
  let isSlash (c : Char) : Bool := c = '/' || c = '\\'
  match counted rest with
  | a :: b :: _ =>
    if isSlash a && isSlash b then
      let after := Path.dropCounted 2 rest
      let hostText := counted (after.takeWhile fun c => !endsAuthority .file c)
      let behind := after.dropWhile fun c => !endsAuthority .file c
      if isDrive hostText then pure (render [] ['/'] after)
      else if hostText.isEmpty then pure (render [] ['/'] behind)
      else do
        let host ← specialHost hostText
        if host = "localhost".toList then pure (render [] ['/'] behind)
        else pure (render host ['/'] (behind.drop (if startsPath behind then 1 else 0)))
    else pure (render [] (if isSlash a then [] else ['/']) rest)
  | [a] => pure (render [] (if isSlash a then [] else ['/']) rest)
  | [] => pure (render [] ['/'] rest)
where
  startsPath : List Char → Bool
    | c :: _ => c = '/' || c = '\\'
    | [] => false
  render (host start text : List Char) : List Char :=
    let (pathText, tail) := splitTail text
    let path := Path.read .file start pathText
    "//".toList ++ (if path.onDrive then [] else host) ++ path.text ++
      renderTail .file (counted tail)

/-- User name and password before the last `@` of an authority, and what follows. -/
def userInfo (kind : SchemeKind) (text : List Char) : Except Error (List Char × List Char) :=
  let authority := text.takeWhile fun c => !endsAuthority kind c
  if authority.contains '@' then
    let back := authority.reverse.takeWhile (· != '@')
    let info := (authority.reverse.drop (back.length + 1)).reverse
    let rest := text.drop (info.length + 1)
    if info.isEmpty then
      match rest with
      | c :: _ => if endsAuthority kind c then .error .emptyHost else .ok ([], rest)
      | [] => .ok ([], rest)
    else
      let name := info.takeWhile (· != ':')
      let password := info.drop (name.length + 1)
      let shown := percentEncode userSet name ++
        (if password.isEmpty then [] else ':' :: percentEncode userSet password)
      .ok (if shown.isEmpty then [] else shown ++ ['@'], rest)
  else .ok ([], text)

/-- The host text of an authority and what follows it; a colon between brackets belongs to it. -/
def splitHost (kind : SchemeKind) (text : List Char) : List Char × List Char :=
  let n := measure false 0 text
  (text.take n, text.drop n)
where
  measure (inBrackets : Bool) (n : Nat) : List Char → Nat
    | [] => n
    | c :: rest =>
      if (c = ':' && !inBrackets) || endsAuthority kind c then n
      else measure (if c = '[' then true else if c = ']' then false else inBrackets) (n + 1) rest

/-- The number after a host's colon, unless it is the one that the scheme implies. -/
def portNumber (scheme : List Char) (text : List Char) : Except Error (List Char × List Char) :=
  let digits := text.takeWhile Char.isDigit
  let rest := text.dropWhile Char.isDigit
  let n := digits.foldl (fun n c => n * 10 + (c.toNat - '0'.toNat)) 0
  let stops := match rest with
    | [] => true
    | c :: _ => c = '/' || c = '\\' || c = '?' || c = '#'
  if 65535 < n || !stops then .error .badPort
  else if digits.isEmpty || some n = defaultPort scheme then .ok ([], rest)
  else .ok (':' :: (toString n).toList, rest)

def ofAuthority (scheme : List Char) (kind : SchemeKind) (rest : List Char) :
    Except Error (List Char) := do
  let (info, rest) ← userInfo kind rest
  let (hostText, rest) := splitHost kind rest
  if kind = .web ∧ hostText.isEmpty then throw .emptyHost
  let host ← if kind = .other then otherHost hostText else specialHost hostText
  if host.isEmpty ∧ rest.head? = some ':' then throw .emptyHost
  let (portText, rest) ← match rest with
    | ':' :: rest => portNumber scheme rest
    | rest => pure ([], rest)
  if host.isEmpty ∧ !info.isEmpty then throw .emptyHost
  let (pathText, tail) := splitTail rest
  let path := match kind, pathText with
    | .other, [] => Path.read kind [] []
    | .other, '/' :: _ => Path.read kind [] pathText
    | .other, _ => Path.read kind ['/'] pathText
    | _, _ => Path.read kind ['/'] (pathText.drop 1)
  pure ("//".toList ++ info ++ host ++ portText ++ path.text ++ renderTail kind tail)

def ofPlain (rest : List Char) : List Char :=
  let (pathText, tail) := splitTail rest
  match pathText with
  | '/' :: after =>
    let path := (Path.read .other ['/'] after).text
    (if path.take 2 = ['/', '/'] then '/' :: '.' :: path else path) ++ renderTail .other tail
  | _ => percentEncode [] pathText ++ renderTail .other tail

/-- Characters that are taken away from both ends of an address. -/
def isEdge (c : Char) : Bool := decide (c.toNat ≤ 0x20)

/-- The normal form of a text, if it is an address. -/
def parse (text : String) : Except Error Uri :=
  let trimmed := ((text.toList.dropWhile isEdge).reverse.dropWhile isEdge).reverse
  match scheme? (counted trimmed) with
  | none => .error .noScheme
  | some (scheme, rest) => do
    let body ← match schemeKind scheme with
      | .file => ofFile ((trimmed.dropWhile (· != ':')).drop 1)
      | .web => ofAuthority scheme .web (rest.dropWhile fun c => c = '/' || c = '\\')
      | .other =>
        match rest with
        | '/' :: '/' :: after => ofAuthority scheme .other after
        | rest => pure (ofPlain rest)
    pure ⟨String.ofList (scheme ++ ':' :: body)⟩

end Uri

end ClassPad
