import ClassPad.Json.Reader
import ClassPad.Settings

/-!
Arguments of the programs. Options are known by their full names or by a letter, take their values
after an equals sign or from the next argument, and may be given once. Environment variables stand
in for options that are not given.
-/

set_option autoImplicit false
set_option relaxedAutoImplicit false

namespace ClassPad.Cli

/-- Why arguments were not accepted, or what is shown instead of running. -/
inductive UsageError where
  | unknownArgument
  | invalidValue
  /-- An option is given twice. -/
  | argumentConflict
  /-- A value is given to an option that takes none. -/
  | tooManyValues
  | missingArgument
  | displayHelp
  | displayVersion
deriving DecidableEq, Repr

structure OptionSpec where
  name : String
  letter : Option Char := none
  /-- For an option that takes a value: which values are accepted. -/
  accepts : Option (String → Bool) := none
  /-- The variable that stands in for it. -/
  standIn : Option String := none

structure CommandSpec where
  options : List OptionSpec
  /-- For a command that takes operands: which ones are accepted. -/
  operands : Option (String → Bool) := none
  versioned : Bool := false

structure Given where
  flags : List String := []
  values : List (String × String) := []
  operands : List String := []

namespace Given

def has (g : Given) (name : String) : Bool := g.flags.contains name || (g.values.lookup name).isSome

def value? (g : Given) (name : String) : Option String := g.values.lookup name

def addFlag (g : Given) (o : OptionSpec) : Except UsageError Given :=
  if g.has o.name then .error .argumentConflict else .ok { g with flags := o.name :: g.flags }

def addValue (g : Given) (o : OptionSpec) (value : String) : Except UsageError Given :=
  if g.has o.name then .error .argumentConflict
  else if (o.accepts.map fun p => p value).getD true then
    .ok { g with values := (o.name, value) :: g.values }
  else .error .invalidValue

end Given

/-- The state between two arguments. -/
structure Reading where
  given : Given := {}
  /-- The last option, if its value is still to come or to be looked at. -/
  pending : Option (OptionSpec × Option String) := none
  operandsOnly : Bool := false

namespace Reading

/-- Looks at the value of the last option. -/
def resolve (r : Reading) : Except UsageError Reading :=
  match r.pending with
  | none => .ok r
  | some (_, none) => .error .invalidValue
  | some (o, some value) => do .ok { r with given := ← r.given.addValue o value, pending := none }

def takeOption (r : Reading) (o : OptionSpec) (attached : Option String) :
    Except UsageError Reading := do
  match o.accepts, attached with
  | none, some _ => .error .tooManyValues
  | none, none =>
    let r ← r.resolve
    .ok { r with given := ← r.given.addFlag o }
  | some _, some value =>
    let r ← r.resolve
    .ok { r with given := ← r.given.addValue o value }
  | some _, none =>
    let r ← r.resolve
    .ok { r with pending := some (o, none) }

def takeOperand (r : Reading) (spec : CommandSpec) (text : String) : Except UsageError Reading :=
  match spec.operands with
  | none => .error .unknownArgument
  | some accepts =>
    if accepts text then
      .ok { r with given := { r.given with operands := r.given.operands ++ [text] } }
    else .error .invalidValue

/-- Shows something instead of running, once the last option is in order. -/
def display {α : Type} (r : Reading) (what : UsageError) : Except UsageError α := do
  let _ ← r.resolve
  .error what

def takeName (r : Reading) (spec : CommandSpec) (text : String) : Except UsageError Reading :=
  let name := text.toList.takeWhile (· ≠ '=')
  let attached := match text.toList.dropWhile (· ≠ '=') with
    | [] => none
    | _ :: value => some (String.ofList value)
  let name := String.ofList name
  match spec.options.find? fun o => o.name = name with
  | some o => r.takeOption o attached
  | none =>
    if name = "help" then
      (if attached.isSome then .error .tooManyValues else r.display .displayHelp)
    else if name = "version" && spec.versioned then
      (if attached.isSome then .error .tooManyValues else r.display .displayVersion)
    else .error .unknownArgument

/-- Takes options by their letters; what follows the letter of an option with a value is the
value. -/
def takeLetters (r : Reading) (spec : CommandSpec) : List Char → Except UsageError Reading
  | [] => .ok r
  | c :: rest =>
    match spec.options.find? fun o => o.letter = some c with
    | some o =>
      if o.accepts.isSome then
        match rest with
        | [] => r.takeOption o none
        | '=' :: value => r.takeOption o (some (String.ofList value))
        | value => r.takeOption o (some (String.ofList value))
      else do takeLetters (← r.takeOption o none) spec rest
    | none =>
      if c = 'h' then r.display .displayHelp
      else if c = 'V' && spec.versioned then r.display .displayVersion
      else .error .unknownArgument

def take (r : Reading) (spec : CommandSpec) (arg : String) : Except UsageError Reading :=
  if r.operandsOnly then r.takeOperand spec arg
  else
    match arg.toList with
    | ['-', '-'] => .ok { r with operandsOnly := true }
    | '-' :: '-' :: name => r.takeName spec (String.ofList name)
    | '-' :: c :: rest => r.takeLetters spec (c :: rest)
    | _ =>
      match r.pending with
      | some (o, none) => .ok { r with pending := some (o, some arg) }
      | _ => r.takeOperand spec arg

end Reading

/-- Takes the variables that stand in for options that are not given. -/
def Given.addVariables (environment : List (String × String)) (g : Given) (o : OptionSpec) :
    Except UsageError Given :=
  match o.standIn.bind fun name => environment.lookup name with
  | none => .ok g
  | some value => if g.has o.name then .ok g else g.addValue o value

def CommandSpec.read (spec : CommandSpec) (environment : List (String × String))
    (args : List String) : Except UsageError Given := do
  let r ← args.foldlM (fun r arg => Reading.take r spec arg) ({} : Reading)
  let r ← r.resolve
  spec.options.foldlM (Given.addVariables environment) r.given

def isPath (s : String) : Bool := !s.isEmpty

/-- An unsigned integer of 32 bits in base ten, perhaps with a plus sign. -/
def natural32? (s : String) : Option Nat :=
  let digits := match s.toList with
    | '+' :: rest => rest
    | cs => cs
  if digits.isEmpty || !digits.all Char.isDigit then none
  else
    let value := Json.digitsValue digits
    if value < Nat.pow 2 32 then some value else none

structure ServerConfig where
  /-- Accepted for the sake of editors; the server always talks over its standard streams. -/
  stdio : Bool
  catalog : Option String
  logFilter : String
deriving DecidableEq, Repr

def catalogOption : OptionSpec :=
  { name := "catalog", accepts := some isPath, standIn := some "CLASSPAD_CATALOG" }

def serverSpec (versioned : Bool) : CommandSpec where
  options :=
    [ { name := "stdio" },
      catalogOption,
      { name := "log-level", accepts := some fun _ => true, standIn := some "CLASSPAD_LOG" } ]
  versioned := versioned

def ServerConfig.ofGiven (g : Given) : ServerConfig where
  stdio := g.has "stdio"
  catalog := g.value? "catalog"
  logFilter := (g.value? "log-level").getD "classpad_lsp=info"

def checkSpec : CommandSpec where
  options :=
    [ { name := "max-problems", letter := some 'm',
        accepts := some fun v => (natural32? v).isSome },
      { name := "verbose", letter := some 'v' } ]
  operands := some isPath

def listingSpec : CommandSpec where
  options :=
    [{ name := "kind", letter := some 'k', accepts := some fun _ => true }, catalogOption]

/-- What a program is asked to do. -/
inductive Command where
  | check (paths : List String) (limit : Nat) (verbose : Bool)
  | listing (kind path : Option String)
  | serve (config : ServerConfig)
deriving DecidableEq, Repr

inductive Program where
  /-- The tool with all commands. -/
  | tool
  /-- The server alone. -/
  | server
deriving DecidableEq, Repr

def Program.name : Program → String
  | .tool => "classpad"
  | .server => "classpad-lsp"

namespace Command

def readNamed (environment : List (String × String)) (name : String) (args : List String) :
    Except UsageError Command := do
  match name with
  | "check" =>
    let g ← checkSpec.read environment args
    if g.operands.isEmpty then .error .missingArgument
    let limit := ((g.value? "max-problems").bind natural32?).getD Settings.defaultLimit
    .ok (.check g.operands limit (g.has "verbose"))
  | "catalog" =>
    let g ← listingSpec.read environment args
    .ok (.listing (g.value? "kind") (g.value? "catalog"))
  | "lsp" => .ok (.serve (.ofGiven (← (serverSpec false).read environment args)))
  | "help" => .error .displayHelp
  | _ => .error .unknownArgument

def read (program : Program) (environment : List (String × String)) (args : List String) :
    Except UsageError Command :=
  match program with
  | .server => do .ok (.serve (.ofGiven (← (serverSpec true).read environment args)))
  | .tool =>
    match args with
    | [] => .error .missingArgument
    | arg :: rest =>
      if arg.startsWith "-" && arg ≠ "-" then
        match Reading.take {} { options := [], versioned := true } arg with
        | .error e => .error e
        | .ok _ => .error .missingArgument
      else readNamed environment arg rest

end Command

end ClassPad.Cli
