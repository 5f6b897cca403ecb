/-!
Text in colour, by the escape sequences of terminals.
-/

set_option autoImplicit false
set_option relaxedAutoImplicit false

namespace ClassPad.Cli

/-- Ways to write a text. -/
inductive Style where
  | bold
  | dimmed
  | green
  | yellow
  | cyan
deriving DecidableEq, Repr

def Style.code : Style → String
  | .bold => "1"
  | .dimmed => "2"
  | .green => "32"
  | .yellow => "33"
  | .cyan => "36"

/-- The sequence that ends all styles. -/
def resetStyle : String := "\x1b[0m"

/-- A text in some styles, or as it is if there is to be no colour. After a reset inside the text
the styles start again. -/
def styled (colour : Bool) (styles : List Style) (text : String) : String :=
  if colour then
    let start := "\x1b[" ++ ";".intercalate (styles.map Style.code) ++ "m"
    start ++ (resetStyle ++ start).intercalate (text.splitOn resetStyle) ++ resetStyle
  else text

def padded (width : Nat) (text : String) : String :=
  text ++ String.ofList (List.replicate (width - text.length) ' ')

def styledPadded (colour : Bool) (styles : List Style) (width : Nat) (text : String) : String :=
  if colour then
    let start := "\x1b[" ++ ";".intercalate (styles.map Style.code) ++ "m"
    start ++ padded width ((resetStyle ++ start).intercalate (text.splitOn resetStyle)) ++
      resetStyle
  else padded width text

end ClassPad.Cli
