import ClassPad.Cli.Error
import ClassPad.Cli.Style
import ClassPad.Diagnostic

/-!
The check of programs without an editor. Files are checked from left to right, and a file that
cannot be read ends the check; after the last one comes a summary.
-/

set_option autoImplicit false
set_option relaxedAutoImplicit false

namespace ClassPad.Cli

/-- A line that the check prints. -/
inductive CheckLine where
  | clean (path : String)
  | warning (path : String) (start : Position) (message : String)
  | note (message : String)
  /-- The empty line before the summary. -/
  | gap
  | allClear (files : Nat)
  | problems (total files : Nat)
deriving DecidableEq, Repr

/-- The number from one on of a line or a column that is counted from zero. It has 32 bits. -/
def ordinal (n : Nat) : Nat := (n + 1) % 4294967296

def CheckLine.render (colour : Bool) : CheckLine → String
  | .clean path => styled colour [.green] "ok" ++ " " ++ path
  | .warning path start message =>
    path ++ ":" ++ toString (ordinal start.line) ++ ":" ++ toString (ordinal start.character) ++
      ": " ++ styled colour [.bold, .yellow] "warning" ++ ": " ++ message
  | .note message => "    " ++ styled colour [.cyan] "note:" ++ " " ++ message
  | .gap => ""
  | .allClear files =>
    styled colour [.bold, .green] ("No problems found in " ++ toString files ++ " file(s)")
  | .problems total files => styled colour [.bold, .yellow] (problemSummary total files)

def CheckLine.renderAll (colour : Bool) (lines : List CheckLine) : String :=
  String.join (lines.map fun l => l.render colour ++ "\n")

/-- The address under which a file is checked; it is never shown. -/
def fileUri (path : String) : Uri := ⟨"file:///" ++ path⟩

def findings (limit : Nat) (verbose : Bool) (path text : String) : List Diagnostic :=
  Document.validate ⟨fileUri path, text.toList, 0⟩ ⟨limit⟩ verbose

def findingLines (path : String) (d : Diagnostic) : List CheckLine :=
  .warning path d.span.start d.message :: (d.notes.getD []).map fun n => .note n.message

def fileLines (verbose : Bool) (path : String) (found : List Diagnostic) : List CheckLine :=
  if found.isEmpty then (if verbose then [.clean path] else [])
  else found.flatMap (findingLines path)

/-- Checks files after others with some problems in some files, the lines newest first. The counts
have no upper bound; one of signed 32 bits agrees with them up to 2147483647 files. -/
def checkFiles (read : String → Except IoError String) (limit : Nat) (verbose : Bool)
    (total failing : Nat) (lines : List CheckLine) :
    List String → List CheckLine × Except IoError (Nat × Nat)
  | [] => (lines.reverse, .ok (total, failing))
  | path :: rest =>
    match read path with
    | .error e => (lines.reverse, .error e)
    | .ok text =>
      let found := findings limit verbose path text
      checkFiles read limit verbose (total + found.length)
        (if found.isEmpty then failing else failing + 1)
        ((fileLines verbose path found).reverse ++ lines) rest

/-- Checks files: what is printed, and why the check failed if it did. -/
def check (read : String → Except IoError String) (paths : List String) (limit : Nat)
    (verbose : Bool) : List CheckLine × Option Error :=
  if limit = 0 then ([], some (.validation .zeroLimit))
  else
    match checkFiles read limit verbose 0 0 [] paths with
    | (lines, .error e) => (lines, some (.io e))
    | (lines, .ok (total, failing)) =>
      if total = 0 then (lines ++ [.gap, .allClear paths.length], none)
      else
        (lines ++ [.gap, .problems total failing], some (.validation (.problems total failing)))

end ClassPad.Cli
