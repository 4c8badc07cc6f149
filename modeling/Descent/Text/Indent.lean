import Descent.Text.Alphabet

/-!
# Lines and indentation

A text is cut after each line boundary, and a carriage return takes a following
line feed with it.  `cutLines` keeps the boundaries, so that the lines make up
the text again (`flatten_cutLines`).  Indenting puts two spaces before each line
that holds a character which is not blank.
-/

namespace Descent.Text

/-! ## Lines -/

/-- The lines of a text, each with the boundary that ends it. -/
def cutLines : List Char → List (List Char)
  | [] => []
  | '\r' :: '\n' :: rest => ['\r', '\n'] :: cutLines rest
  | c :: rest =>
      if isLineBoundary c then [c] :: cutLines rest
      else match cutLines rest with
        | [] => [[c]]
        | line :: lines => (c :: line) :: lines

/-- Cutting a text into lines loses nothing. -/
theorem flatten_cutLines (text : List Char) : (cutLines text).flatten = text := by
  fun_induction cutLines text <;> simp_all

/-! ## Indentation -/

/-- The margin of one level. -/
def margin : List Char := [' ', ' ']

/-- A line behind the margin.  A blank line stays as it is. -/
def indentLine (line : List Char) : List Char :=
  if line.all isBlank then line else margin ++ line

/-- The text with every line behind the margin. -/
def indent (text : String) : String :=
  String.ofList ((cutLines text.toList).flatMap indentLine)

end Descent.Text
