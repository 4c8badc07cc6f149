/-!
# Classes of characters

Four overlapping classes decide where text is cut and what a blank is.

* *Blank* characters are the white space of Unicode together with the four
  information separators.
* *Line breaks* are the seven blanks that end a line for the parsers.
* *Inline blanks* are the blanks that are not line breaks.
* *Line boundaries* are where a text is cut into lines when it is indented: the
  line breaks and three of the information separators.

`isBlank_of_isLineBreak` and `isBlank_eq_or` place the line breaks inside the
blanks.  Digits and letters are the ASCII ones of `Char.isDigit` and
`Char.isAlpha`.
-/

namespace Descent.Text

/-! ## The classes -/

/-- White space of Unicode and the information separators U+001C to U+001F. -/
def isBlank (c : Char) : Bool :=
  let n := c.toNat
  (9 ≤ n && n ≤ 13) || (28 ≤ n && n ≤ 32) || n == 0x85 || n == 0xA0 || n == 0x1680 ||
    (0x2000 ≤ n && n ≤ 0x200A) || n == 0x2028 || n == 0x2029 || n == 0x202F || n == 0x205F ||
    n == 0x3000

/-- The line breaks, by code point. -/
def lineBreaks : List Char :=
  ['\n', '\x0b', '\x0c', '\r', '\u0085', '\u2028', '\u2029']

/-- The character ends a line. -/
def isLineBreak (c : Char) : Bool := lineBreaks.contains c

/-- A blank that stays on its line. -/
def isInlineBlank (c : Char) : Bool := isBlank c && !isLineBreak c

/-- The places where text is cut into lines, by code point. -/
def lineBoundaries : List Char :=
  ['\n', '\x0b', '\x0c', '\r', '\x1c', '\x1d', '\x1e', '\u0085', '\u2028', '\u2029']

/-- The character ends a line of a text that is cut into lines. -/
def isLineBoundary (c : Char) : Bool := lineBoundaries.contains c

/-- The ASCII digits, in order of value. -/
def digits : List Char := ['0', '1', '2', '3', '4', '5', '6', '7', '8', '9']

/-- Carriage return and line feed, read as one line break. -/
def crlf : String := "\r\n"

/-! ## How the classes lie in each other -/

/-- Every line break is a blank. -/
theorem isBlank_of_isLineBreak {c : Char} (h : isLineBreak c = true) : isBlank c = true := by
  have hmem := List.contains_iff_mem.mp h
  simp only [lineBreaks, List.mem_cons, List.not_mem_nil, or_false] at hmem
  rcases hmem with rfl | rfl | rfl | rfl | rfl | rfl | rfl <;> decide

/-- Every line boundary is a blank. -/
theorem isBlank_of_isLineBoundary {c : Char} (h : isLineBoundary c = true) :
    isBlank c = true := by
  have hmem := List.contains_iff_mem.mp h
  simp only [lineBoundaries, List.mem_cons, List.not_mem_nil, or_false] at hmem
  rcases hmem with rfl | rfl | rfl | rfl | rfl | rfl | rfl | rfl | rfl | rfl <;> decide

/-- A blank either breaks the line or stays on it. -/
theorem isBlank_eq_or (c : Char) : isBlank c = (isInlineBlank c || isLineBreak c) := by
  by_cases h : isLineBreak c = true
  · simp [isInlineBlank, h, isBlank_of_isLineBreak h]
  · simp [isInlineBlank, h]

/-- No character is both an inline blank and a line break. -/
theorem isLineBreak_of_isInlineBlank {c : Char} (h : isInlineBlank c = true) :
    isLineBreak c = false := by
  simp [isInlineBlank] at h
  exact h.2

end Descent.Text
