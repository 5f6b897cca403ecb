import ClassPad.Cli.Arguments
import ClassPad.Cli.Check
import ClassPad.Cli.Listing

/-!
Runs of the programs: what they print, how they report an error, and the status they end with.
-/

set_option autoImplicit false
set_option relaxedAutoImplicit false

namespace ClassPad.Cli

def version : String := "0.3.0"

/-- The end of a run. -/
structure Ending where
  code : Nat
  stdout : String := ""
  report : Option String := none
deriving DecidableEq, Repr

/-- Colour is used only where it is forced. -/
def usesColour (environment : List (String × String)) : Bool :=
  match environment.lookup "CLICOLOR_FORCE" with
  | some value => value ≠ "0"
  | none => false

/-- The report of an error: the tool shows its structure, the server tells it in words. -/
def Program.report (p : Program) (e : Error) : String :=
  match p with
  | .tool => e.structureReport
  | .server => e.plainReport

def Program.ending (p : Program) (stdout : String) : Option Error → Ending
  | none => ⟨0, stdout, none⟩
  | some e => ⟨1, stdout, some (p.report e)⟩

/-- Runs a command; the server finds nothing to read. -/
def Program.perform (p : Program) (read : String → Except IoError String) (colour : Bool) :
    Command → Ending
  | .check paths limit verbose =>
    let (lines, fault) := check read paths limit verbose
    p.ending (CheckLine.renderAll colour lines) fault
  | .listing kind path =>
    match listing read kind path colour with
    | .ok text => p.ending text none
    | .error e => p.ending "" (some e)
  | .serve config =>
    match loadCatalog read config.catalog with
    | .ok _ => p.ending "" none
    | .error e => p.ending "" (some e)

/-- Runs a program. Without acceptable arguments there is a reason instead. -/
def Program.run (p : Program) (read : String → Except IoError String)
    (environment : List (String × String)) (args : List String) : Except UsageError Ending :=
  match Command.read p environment args with
  | .ok command => .ok (p.perform read (usesColour environment) command)
  | .error .displayVersion => .ok ⟨0, p.name ++ " " ++ version ++ "\n", none⟩
  | .error e => .error e

end ClassPad.Cli
