import ClassPad.Text.Split
import ClassPad.Text.Utf8

/-!
Files that a command reads, below the directory that it runs in. A path is walked step by step: each
step but the last has to lead to a directory.
-/

set_option autoImplicit false
set_option relaxedAutoImplicit false

namespace ClassPad.Cli

/-- Why a file could not be read. -/
inductive IoError where
  | notFound
  | notDirectory
  | isDirectory
  | nameTooLong
  | zeroByte
  | invalidUtf8
deriving DecidableEq, Repr

namespace IoError

/-- The number, the name and the words of an error of the operating system. -/
def system? : IoError → Option (Nat × String × String)
  | .notFound => some (2, "NotFound", "No such file or directory")
  | .notDirectory => some (20, "NotADirectory", "Not a directory")
  | .isDirectory => some (21, "IsADirectory", "Is a directory")
  | .nameTooLong => some (36, "InvalidFilename", "File name too long")
  | .zeroByte => none
  | .invalidUtf8 => none

/-- The name of an error that the operating system has no part in. -/
def ownName : IoError → String
  | .zeroByte => "InvalidInput"
  | _ => "InvalidData"

def message (e : IoError) : String :=
  match e.system? with
  | some (code, _, words) => words ++ " (os error " ++ toString code ++ ")"
  | none =>
    match e with
    | .zeroByte => "file name contained an unexpected NUL byte"
    | _ => "stream did not contain valid UTF-8"

end IoError

/-- What stands at a place. -/
inductive FileNode where
  | text (content : String)
  | bytes (content : List Nat)
  | directory
deriving DecidableEq, Repr

/-- A set of files and directories by their paths, as steps. The directories on the way to a file
are there without being listed. -/
structure FileTree where
  nodes : List (List String × FileNode) := []
deriving Repr

namespace FileTree

/-- The steps of a path; empty ones and single dots lead nowhere. -/
def steps (path : String) : List String := (Text.splitAll '/' path.toList).map String.ofList

/-- The place that steps lead to from another one, and the directories that they turn back from. -/
def settle (place : List String) : List String → List String × List (List String)
  | [] => (place, [])
  | step :: rest =>
    if step = "" || step = "." then settle place rest
    else if step = ".." then
      let (final, passed) := settle place.dropLast rest
      (final, place :: passed)
    else settle (place ++ [step]) rest

def ofNodes (nodes : List (String × FileNode)) : FileTree :=
  let named := nodes.map fun n => (settle [] (steps n.1), n.2)
  ⟨(named.map fun n => (n.1.1, n.2)) ++
    named.flatMap fun n => n.1.2.map fun place => (place, .directory)⟩

/-- The most bytes of a step, and one more than those of a path. -/
def longestStep : Nat := 255

@[inherit_doc longestStep]
def pathSpace : Nat := 4096

def nodeAt? (t : FileTree) (place : List String) : Option FileNode :=
  match t.nodes.lookup place with
  | some node => some node
  | none =>
    if place.isEmpty || t.nodes.any (fun n => place.isPrefixOf n.1) then some .directory else none

/-- The node at the end of the steps from a place, which is none outside the tree. Directories there
are taken to be empty. -/
def walk (t : FileTree) : Option (List String) → List String → Except IoError FileNode
  | none, [] => .ok .directory
  | none, step :: rest =>
    if step = "" || step = "." || step = ".." then walk t none rest
    else if longestStep < step.utf8ByteSize then .error .nameTooLong
    else .error .notFound
  | some place, [] =>
    match t.nodeAt? place with
    | some node => .ok node
    | none => .error .notFound
  | some place, step :: rest =>
    match t.nodeAt? place with
    | none => .error .notFound
    | some .directory =>
      if step = "" || step = "." then walk t (some place) rest
      else if step = ".." then
        walk t (if place.isEmpty then none else some place.dropLast) rest
      else if longestStep < step.utf8ByteSize then .error .nameTooLong
      else walk t (some (place ++ [step])) rest
    | some _ => .error .notDirectory

def read (t : FileTree) (path : String) : Except IoError String :=
  if path.toList.contains '\x00' then .error .zeroByte
  else if path.isEmpty then .error .notFound
  else if pathSpace ≤ path.utf8ByteSize then .error .nameTooLong
  else
    let start := if path.startsWith "/" then none else some []
    match t.walk start (steps path) with
    | .error e => .error e
    | .ok .directory => .error .isDirectory
    | .ok (.text content) => .ok content
    | .ok (.bytes content) =>
      match Text.ofUtf8? content with
      | some chars => .ok (String.ofList chars)
      | none => .error .invalidUtf8

end FileTree

end ClassPad.Cli
