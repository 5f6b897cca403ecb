import ClassPad.Cli.Run
import ClassPad.Rpc.Frame

/-!
The program `classpad`: it reads the files that a command names, runs the command, and prints what
comes of it. As a server it passes messages between its standard streams and the conversation.
-/

set_option autoImplicit false
set_option relaxedAutoImplicit false

namespace ClassPad.Main

open Cli

def ioErrorOf : IO.Error → IoError
  | .noFileOrDirectory _ _ _ => .notFound
  | .inappropriateType _ code _ => if code = 20 then .notDirectory else .isDirectory
  | .noSuchThing _ _ _ => .notFound
  | .invalidArgument _ code _ => if code = 36 then .nameTooLong else .zeroByte
  | _ => .isDirectory

def readText (path : String) : IO (Except IoError String) := do
  try
    let bytes ← IO.FS.readBinFile path
    match Text.ofUtf8? (bytes.toList.map UInt8.toNat) with
    | some chars => return .ok (String.ofList chars)
    | none => return .error .invalidUtf8
  catch e => return .error (ioErrorOf e)

def namedPaths : Command → List String
  | .check paths _ _ => paths
  | .listing _ path => path.toList
  | .serve config => config.catalog.toList

def readNamed (command : Command) : IO (String → Except IoError String) := do
  let texts ← (namedPaths command).mapM fun path => do return (path, ← readText path)
  return fun path => (texts.lookup path).getD (.error .notFound)

/-- The variables that matter. -/
def readEnvironment : IO (List (String × String)) := do
  let names := ["CLASSPAD_CATALOG", "CLASSPAD_LOG", "CLICOLOR_FORCE"]
  let found ← names.filterMapM fun name => do
    return (← IO.getEnv name).map fun value => (name, value)
  return found

/-- Reads a header: the length of the body, or nothing at the end of the stream. -/
partial def readHeader (input : IO.FS.Stream) (length : Option Nat) : IO (Option Nat) := do
  let line ← input.getLine
  if line.isEmpty then return none
  if Rpc.Frame.endsHeader line then
    match length with
    | some n => return some n
    | none => readHeader input none
  else readHeader input ((Rpc.Frame.length? line).or length)

/-- Reads a given number of bytes, or what there is of them. -/
partial def readBody (input : IO.FS.Stream) (length : Nat) (read : ByteArray) : IO ByteArray := do
  if length ≤ read.size then return read
  let more ← input.read (length - read.size).toUSize
  if more.isEmpty then return read else readBody input length (read ++ more)

partial def converse (input output : IO.FS.Stream) (c : Rpc.Conversation) : IO Unit := do
  match ← readHeader input none with
  | none => return
  | some length =>
    let body ← readBody input length ByteArray.empty
    let text := (Text.ofUtf8? (body.toList.map UInt8.toNat)).map String.ofList
    let (c, turn) := c.receiveText (text.getD "")
    output.putStr (Rpc.Frame.renderTurn turn)
    output.flush
    if c.phase = .exited then return else converse input output c

def perform (environment : List (String × String)) (command : Command) : IO UInt32 := do
  let read ← readNamed command
  let ending := Program.tool.perform read (usesColour environment) command
  match command, ending.report with
  | .serve config, none =>
    match loadCatalog read config.catalog with
    | .ok catalog =>
      converse (← IO.getStdin) (← IO.getStdout) { server := { catalog := catalog } }
    | .error _ => pure ()
  | _, _ =>
    IO.print ending.stdout
    match ending.report with
    | some report => IO.eprint report
    | none => pure ()
  return ending.code.toUInt32

end ClassPad.Main

open ClassPad ClassPad.Cli in
def main (args : List String) : IO UInt32 := do
  let environment ← Main.readEnvironment
  match Command.read .tool environment args with
  | .ok command => Main.perform environment command
  | .error .displayVersion =>
    IO.println (Program.tool.name ++ " " ++ version)
    return 0
  | .error .displayHelp =>
    IO.println "Usage: classpad <check|catalog|lsp> [options]"
    return 0
  | .error _ =>
    IO.eprintln "Usage: classpad <check|catalog|lsp> [options]"
    return 2
