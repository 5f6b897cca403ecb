import ClassPad.Catalog.Source
import ClassPad.Cli.Files
import ClassPad.Text.Quoted

/-!
Errors of commands, as they are told to whoever calls the command and as they are reported when the
command ends.
-/

set_option autoImplicit false
set_option relaxedAutoImplicit false

namespace ClassPad.Cli

/-- Why a check failed. -/
inductive CheckFault where
  | zeroLimit
  /-- There are problems: their number, and the number of files that have some. -/
  | problems (total files : Nat)
deriving DecidableEq, Repr

def problemSummary (total files : Nat) : String :=
  toString total ++ " problem(s) found in " ++ toString files ++ " file(s)"

def CheckFault.message : CheckFault → String
  | .zeroLimit => "--max-problems must be greater than zero"
  | .problems total files => problemSummary total files

/-- Why a command failed. -/
inductive Error where
  | io (cause : IoError)
  | yaml (cause : Yaml.Error)
  | catalog (cause : CatalogError)
  | validation (cause : CheckFault)
deriving DecidableEq, Repr

namespace Error

def ofText : Catalog.TextError → Error
  | .unreadable e => .yaml e
  | .refused e => .catalog e

def message? : Error → Option String
  | .io e => some ("IO error: " ++ e.message)
  | .yaml e => e.message?.map fun m => "Catalog parsing error: " ++ m
  | .catalog e => some ("Catalog error: " ++ e.message)
  | .validation e => some ("Validation error: " ++ e.message)

/-- The wording of an error in a report, which also tells where in a text it was found. -/
def reportedMessage : Error → String
  | .yaml e => "Catalog parsing error: " ++ e.locatedMessage?.getD ""
  | e => e.message?.getD ""

/-- The cause that a report names apart. -/
def cause? : Error → Option String
  | .io e => some e.message
  | .yaml e => e.locatedMessage?
  | _ => none

def showIo (e : IoError) : String :=
  match e.system? with
  | some (code, name, words) =>
    "Os \x7b code: " ++ toString code ++ ", kind: " ++ name ++ ", message: " ++ Text.quoted words ++
      " \x7d"
  | none =>
    "Error \x7b kind: " ++ e.ownName ++ ", message: " ++ Text.quoted e.message ++ " \x7d"

def structureText : Error → String
  | .io e => "Io(" ++ showIo e ++ ")"
  | .yaml e =>
    let place := match e.mark? with
      | some mark =>
        ", line: " ++ toString (mark.line + 1) ++ ", column: " ++ toString (mark.column + 1)
      | none => ""
    "Yaml(Error(" ++ Text.quoted (e.message?.getD "") ++ place ++ "))"
  | .catalog e => "Catalog(" ++ Text.quoted e.message ++ ")"
  | .validation e => "Validation(" ++ Text.quoted e.message ++ ")"

def structureReport (e : Error) : String := "Error: " ++ e.structureText ++ "\n"

def setIn (text : String) : String := "    " ++ "\n    ".intercalate (text.splitOn "\n")

/-- The report that tells an error and its cause in words. -/
def plainReport (e : Error) : String :=
  let cause := match e.cause? with
    | some c => "\n\nCaused by:\n" ++ setIn c
    | none => ""
  "Error: " ++ e.reportedMessage ++ cause ++ "\n"

end Error

end ClassPad.Cli
