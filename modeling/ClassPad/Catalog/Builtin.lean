import ClassPad.Catalog.Basic

/-!
The catalog of ClassPad Basic. Functions and control structures have places to fill in, numbered in
the order in which the cursor visits them; it ends at number zero. A keyword that closes a control
structure takes its line one level out.
-/

set_option autoImplicit false
set_option relaxedAutoImplicit false

namespace ClassPad.Catalog.Builtin

/-- A place to fill in, with the text that stands there first. -/
def slot (number : Nat) (name : String) : String :=
  "$\x7b" ++ toString number ++ ":" ++ name ++ "\x7d"

def stop (number : Nat) : String := "$\x7b" ++ toString number ++ "\x7d"

/-- A call with a place for each argument. -/
def call (name : String) (arguments : List String) : String :=
  name ++ "(" ++ ",".intercalate ((arguments.zipIdx 1).map fun a => slot a.2 a.1) ++ ")"

def function (label detail documentation insertText : String) : Entry :=
  ⟨label, .function, some detail, some documentation, insertText, none⟩

def snippet (label detail documentation insertText : String) : Entry :=
  ⟨label, .snippet, some detail, some documentation, insertText, none⟩

def plain (kind : EntryKind) (label insertText : String) (detail : Option String) : Entry :=
  ⟨label, kind, detail, none, insertText, none⟩

def explained (label detail documentation insertText : String) : Entry :=
  ⟨label, .keyword, some detail, some documentation, insertText, none⟩

def closing (label insertText : String) : Entry :=
  ⟨label, .keyword, none, none, insertText, some .outdent⟩

def constant (label detail insertText : String) : Entry :=
  ⟨label, .variable, some detail, none, insertText, none⟩

def functions : List Entry :=
  [ function "diff" "diff(Exp/List[,variable[,order[,point]]])"
      ("Differentiates an expression with respect to a variable. The optional order selects " ++
        "higher derivatives and the optional point evaluates the derivative there.")
      (call "diff" ["expression", "x"]),
    function "integral" "∫(Exp/List[,variable[,lower,upper]])"
      ("Integrates an expression with respect to a variable. Supplying lower and upper bounds " ++
        "computes a definite integral.")
      (call "∫" ["expression", "x", "lower", "upper"]),
    function "lim" "lim(Exp/List,variable,point[,direction])"
      ("Limit of an expression as the variable approaches the point. Direction 1 approaches " ++
        "from the right, -1 from the left.")
      (call "lim" ["expression", "x", "point"]),
    function "sum" "Σ(Exp/List,variable,lower,upper)"
      "Sum of an expression as the variable runs from lower to upper."
      (call "Σ" ["expression", "k", "lower", "upper"]),
    function "prod" "Π(Exp/List,variable,lower,upper)"
      "Product of an expression as the variable runs from lower to upper."
      (call "Π" ["expression", "k", "lower", "upper"]),
    function "solve" "solve(Exp/Eq/Ineq[,variable])"
      "Solves an equation or inequality for the given variable."
      (call "solve" ["equation", "x"]),
    function "factor" "factor(Exp/Eq/Ineq/List/Mat)"
      "Factors an expression."
      (call "factor" ["expression"]),
    function "expand" "expand(Exp/Eq/Ineq/List/Mat)"
      "Expands an expression."
      (call "expand" ["expression"]),
    function "simplify" "simplify(Exp/Eq/Ineq/List/Mat)"
      "Simplifies an expression."
      (call "simplify" ["expression"]),
    function "approx" "approx(Exp/Eq/Ineq/List/Mat)"
      "Converts an exact result to its decimal approximation."
      (call "approx" ["expression"]),
    function "fMin" "fMin(Exp/Eq[,variable[,start,end]])"
      "Minimum of a function, optionally within the interval from start to end."
      (call "fMin" ["expression", "x"]),
    function "fMax" "fMax(Exp/Eq[,variable[,start,end]])"
      "Maximum of a function, optionally within the interval from start to end."
      (call "fMax" ["expression", "x"]),
    function "seq" "seq(Exp,variable,start,end[,step])"
      "Builds a list by evaluating the expression for each value of the variable."
      (call "seq" ["expression", "k", "start", "end"]),
    function "sqrt" "√(Exp)"
      "Square root of an expression."
      (call "√" ["expression"]) ]

def structures : List Entry :=
  [ snippet "If Then" "If ... Then ... IfEnd"
      "Conditional block."
      ("If " ++ slot 1 "condition" ++ "\nThen\n\t" ++ stop 0 ++ "\nIfEnd"),
    snippet "If Then Else" "If ... Then ... Else ... IfEnd"
      "Conditional block with an alternative branch."
      ("If " ++ slot 1 "condition" ++ "\nThen\n\t" ++ stop 2 ++ "\nElse\n\t" ++ stop 0 ++
        "\nIfEnd"),
    snippet "For Next" "For ... To ... Next"
      "Counted loop. Step defaults to 1."
      ("For " ++ slot 1 "1" ++ "⇒" ++ slot 2 "i" ++ " To " ++ slot 3 "10" ++ "\n\t" ++ stop 0 ++
        "\nNext"),
    snippet "For Step Next" "For ... To ... Step ... Next"
      "Counted loop with an explicit step."
      ("For " ++ slot 1 "1" ++ "⇒" ++ slot 2 "i" ++ " To " ++ slot 3 "10" ++ " Step " ++
        slot 4 "1" ++ "\n\t" ++ stop 0 ++ "\nNext"),
    snippet "While WhileEnd" "While ... WhileEnd"
      "Loop that runs while the condition holds, tested before each pass."
      ("While " ++ slot 1 "condition" ++ "\n\t" ++ stop 0 ++ "\nWhileEnd"),
    snippet "Do LpWhile" "Do ... LpWhile"
      "Loop that runs at least once and repeats while the condition holds."
      ("Do\n\t" ++ stop 0 ++ "\nLpWhile " ++ slot 1 "condition"),
    snippet "Switch SwitchEnd" "Switch ... Case ... Default ... SwitchEnd"
      "Multi-way branch on a value."
      ("Switch " ++ slot 1 "value" ++ "\nCase " ++ slot 2 "1" ++ ":\n\t" ++ stop 3 ++
        "\n\tBreak\nDefault:\n\t" ++ stop 0 ++ "\nSwitchEnd") ]

def keywords : List Entry :=
  [ plain .keyword "If" "If " none,
    plain .keyword "Then" "Then" none,
    plain .keyword "For" "For " none,
    plain .keyword "To" " To " none,
    plain .keyword "Step" " Step " none,
    plain .keyword "While" "While " none,
    plain .keyword "Do" "Do" none,
    plain .keyword "Switch" "Switch " none,
    explained "Local" "Local variable[,variable...]"
      "Declares variables local to the program."
      "Local ",
    plain .keyword "Return" "Return" none,
    plain .keyword "Break" "Break" none,
    plain .keyword "Skip" "Skip" none,
    plain .keyword "Stop" "Stop" none,
    plain .keyword "Goto" "Goto " (some "Goto label"),
    plain .keyword "Lbl" "Lbl " (some "Lbl label"),
    explained "Print" "Print Exp/\"string\""
      "Shows a value in the program output window."
      "Print ",
    explained "Input" "Input variable[,\"prompt\"[,\"title\"]]"
      "Asks the user for a value."
      "Input ",
    explained "Message" "Message \"string\"[,\"title\"]"
      "Displays a dialog with the given text."
      "Message ",
    plain .keyword "ClrText" "ClrText" none,
    plain .keyword "Wait" "Wait " (some "Wait [seconds]"),
    plain .keyword "DelVar" "DelVar " (some "DelVar variable[,variable...]"),
    closing "Else" "Else",
    closing "ElseIf" "ElseIf ",
    closing "IfEnd" "IfEnd",
    closing "Next" "Next",
    closing "WhileEnd" "WhileEnd",
    closing "LpWhile" "LpWhile ",
    closing "Case" "Case ",
    closing "Default" "Default:",
    closing "SwitchEnd" "SwitchEnd" ]

def operators : List Entry :=
  [ plain .operator "=>" "⇒" (some "⇒ (assign)"),
    plain .operator "!=" "≠" (some "≠"),
    plain .operator "<=" "≤" (some "≤"),
    plain .operator ">=" "≥" (some "≥"),
    plain .operator "and" " and " none,
    plain .operator "or" " or " none,
    plain .operator "xor" " xor " none,
    plain .operator "not" "not " none ]

def letters : List Entry :=
  [ constant "inf" "∞" "∞",
    constant "alpha" "α" "α",
    constant "beta" "β" "β",
    constant "gamma" "γ" "γ",
    constant "delta" "δ" "δ",
    constant "epsilon" "ε" "ε",
    constant "zeta" "ζ" "ζ",
    constant "eta" "η" "η",
    constant "theta" "θ" "θ",
    constant "iota" "ι" "ι",
    constant "kappa" "κ" "κ",
    constant "lambda" "λ" "λ",
    constant "mu" "μ" "μ",
    constant "nu" "ν" "ν",
    constant "xi" "ξ" "ξ",
    constant "omicron" "ο" "ο",
    constant "pi" "π" "π",
    constant "rho" "ρ" "ρ",
    constant "sigma" "σ" "σ",
    constant "tau" "τ" "τ",
    constant "upsilon" "υ" "υ",
    constant "phi" "φ" "φ",
    constant "chi" "χ" "χ",
    constant "psi" "ψ" "ψ",
    constant "omega" "ω" "ω",
    constant "Alpha" "Α" "Α",
    constant "Beta" "Β" "Β",
    constant "Gamma" "Γ" "Γ",
    constant "Delta" "Δ" "Δ",
    constant "Epsilon" "Ε" "Ε",
    constant "Zeta" "Ζ" "Ζ",
    constant "Eta" "Η" "Η",
    constant "Theta" "Θ" "Θ",
    constant "Iota" "Ι" "Ι",
    constant "Kappa" "Κ" "Κ",
    constant "Lambda" "Λ" "Λ",
    constant "Mu" "Μ" "Μ",
    constant "Nu" "Ν" "Ν",
    constant "Xi" "Ξ" "Ξ",
    constant "Omicron" "Ο" "Ο",
    constant "Pi" "Π" "Π",
    constant "Rho" "Ρ" "Ρ",
    constant "Sigma" "Σ" "Σ",
    constant "Tau" "Τ" "Τ",
    constant "Upsilon" "Υ" "Υ",
    constant "Phi" "Φ" "Φ",
    constant "Chi" "Χ" "Χ",
    constant "Psi" "Ψ" "Ψ",
    constant "Omega" "Ω" "Ω" ]

def entries : List Entry := functions ++ structures ++ keywords ++ operators ++ letters

end ClassPad.Catalog.Builtin

namespace ClassPad.Catalog

/-- The catalog that is used when no other is given. -/
def builtin : Catalog := ⟨Builtin.entries⟩

end ClassPad.Catalog
