import ClassPad.Text.Split
import ClassPad.Uri.Percent

/-!
Paths of an address. A path is built segment by segment; a dot segment takes back what stands before
it, but never the slash behind a drive letter. In a file address a drive letter that comes first is
followed by a colon and takes the place of the host, and slashes at the front count once.
-/

set_option autoImplicit false
set_option relaxedAutoImplicit false

namespace ClassPad.Uri

/-- What kind of scheme an address has; it decides how the rest is read. -/
inductive SchemeKind where
  | file
  | web
  | other
deriving DecidableEq

/-- Tabs and line breaks, which do not count in an address. -/
def isSkipped (c : Char) : Bool := c = '\t' || c = '\n' || c = '\r'

def counted (text : List Char) : List Char := text.filter fun c => !isSkipped c

def isDrive (segment : List Char) : Bool :=
  match segment with
  | [a, b] => a.isAlpha && (b = ':' || b = '|')
  | _ => false

def isNormalDrive (segment : List Char) : Bool :=
  match segment with
  | [a, b] => a.isAlpha && b = ':'
  | _ => false

def isDot (segment : List Char) : Bool :=
  [".", "%2e"].contains (String.ofList (segment.map Char.toLower))

def isDotDot (segment : List Char) : Bool :=
  ["..", "%2e.", ".%2e", "%2e%2e"].contains (String.ofList (segment.map Char.toLower))

/-- A path as far as it is built. -/
structure Path where
  text : List Char
  /-- Whether a drive letter took the place of the host. -/
  onDrive : Bool := false
deriving DecidableEq, Repr

namespace Path

def upToSlash (text : List Char) : List Char := (text.reverse.dropWhile (· != '/')).reverse

def behindSlash (text : List Char) : List Char := (text.reverse.takeWhile (· != '/')).reverse

/-- Whether the slash at the end of a path stays when the segment before it is taken back: it is the
first one, or it stands behind a drive letter. -/
def keepsSlash (text : List Char) : Bool :=
  let front := text.dropLast
  !front.contains '/' ||
    (match behindSlash front with
     | [a, b] => isDrive [a, b]
     | a :: b :: c :: _ => isDrive [a, b] && c = '\\'
     | _ => false)

def parent (kind : SchemeKind) (text : List Char) : List Char :=
  let text := if text.getLast? = some '/' && !keepsSlash text then text.dropLast else text
  if kind = .file && isNormalDrive (behindSlash text) then text else upToSlash text

def closed (text : List Char) : List Char :=
  if text.getLast? = some '/' then text else text ++ ['/']

def dropCounted : Nat → List Char → List Char
  | 0, text => text
  | _ + 1, [] => []
  | n + 1, c :: rest => if isSkipped c then dropCounted (n + 1) rest else dropCounted n rest

/-- A drive letter and what follows it in the same segment, if only a tab or line break divides the
two. -/
def brokenDrive? (segment : List Char) : Option (List Char × List Char) :=
  let drive := (counted segment).take 2
  let rest := dropCounted 2 segment
  if isNormalDrive drive && (rest.head?.map isSkipped).getD false && !(counted rest).isEmpty then
    some (drive, counted rest)
  else none

/-- A path with one more segment, which a slash follows unless it is the last one. -/
def push (kind : SchemeKind) (path : Path) (segment : List Char) (last : Bool) : Path :=
  let first := kind = .file && path.text.length = 1
  let slash := if last then [] else ['/']
  let plain := counted segment
  match if first then brokenDrive? segment else none with
  | some (drive, rest) =>
    { path with text := path.text ++ drive ++ '/' :: percentEncode pathSet rest ++ slash }
  | none =>
    if isDotDot plain then
      let above := parent kind path.text
      { path with text := if last then above else closed above }
    else if isDot plain then { path with text := closed path.text }
    else if first && isDrive plain then
      ⟨path.text ++ plain.take 1 ++ ':' :: slash, true⟩
    else { path with text := path.text ++ percentEncode pathSet plain ++ slash }

def pushAll (kind : SchemeKind) (path : Path) : List (List Char) → Path
  | [] => path
  | [segment] => push kind path segment true
  | segment :: rest => pushAll kind (push kind path segment false) rest

/-- Reads a path that begins with a given text. A backslash divides segments as a slash does, unless
the scheme is not known. -/
def read (kind : SchemeKind) (start : List Char) (text : List Char) : Path :=
  let text := text.map fun c => if c = '\\' && kind != .other then '/' else c
  let path := pushAll kind ⟨start, false⟩ (Text.splitAll '/' text)
  if kind = .file then { path with text := '/' :: path.text.dropWhile (· = '/') } else path

end Path

end ClassPad.Uri
