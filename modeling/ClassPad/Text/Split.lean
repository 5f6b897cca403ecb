/-!
Cutting a text at a separator.
-/

set_option autoImplicit false
set_option relaxedAutoImplicit false

namespace ClassPad.Text

/-- The parts of a text between the separators; there is always one more part than separators. -/
def splitAll (separator : Char) : List Char → List (List Char)
  | [] => [[]]
  | c :: rest =>
    match splitAll separator rest with
    | [] => [[]]
    | part :: parts => if c = separator then [] :: part :: parts else (c :: part) :: parts

end ClassPad.Text
