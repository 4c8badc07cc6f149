import Descent.Text.Printable

/-!
# Quoted literals

A text is written between quotes so that its form shows every character and
stays on one line.  The quotes are single ones, unless the text holds a single
quote and no double one.  Inside, the quote in use and the backslash are written
after a backslash.  Tab, line feed and carriage return have letters of their
own.  Every other character that is not printable is written by its code point,
with two, four or eight lower-case hexadecimal digits.
-/

namespace Descent.Text

/-- The last `width` hexadecimal digits of a number, in lower case. -/
def hexDigits : (width : Nat) → Nat → List Char
  | 0, _ => []
  | width + 1, n => hexDigits width (n / 16) ++ [(n % 16).digitChar]

@[simp] theorem length_hexDigits (width n : Nat) : (hexDigits width n).length = width := by
  induction width generalizing n with
  | zero => rfl
  | succ width ih => simp [hexDigits, ih]

/-! ## Characters -/

/-- The written form of a character that is not printable. -/
def escapeCode (c : Char) : List Char :=
  if c.toNat < 0x100 then '\\' :: 'x' :: hexDigits 2 c.toNat
  else if c.toNat < 0x10000 then '\\' :: 'u' :: hexDigits 4 c.toNat
  else '\\' :: 'U' :: hexDigits 8 c.toNat

/-- The written form of a character between the given quotes. -/
def quoteChar (quote c : Char) : List Char :=
  if c = quote ∨ c = '\\' then ['\\', c]
  else if c = '\t' then ['\\', 't']
  else if c = '\n' then ['\\', 'n']
  else if c = '\r' then ['\\', 'r']
  else if isPrintable c then [c]
  else escapeCode c

/-! ## Texts -/

/-- The quotes a text is written between. -/
def quoteFor (text : List Char) : Char :=
  if text.contains '\'' && !text.contains '"' then '"' else '\''

/-- The characters of the quoted literal of a text. -/
def quoteChars (text : List Char) : List Char :=
  let quote := quoteFor text
  quote :: text.flatMap (quoteChar quote) ++ [quote]

/-- The quoted literal of a text. -/
def quoted (text : String) : String := String.ofList (quoteChars text.toList)

end Descent.Text
