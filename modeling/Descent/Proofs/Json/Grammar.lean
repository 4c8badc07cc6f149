import Descent.Decimal

/-!
# JSON texts

A JSON text is the written form of a value: `null`, a truth value, a number, a string, an array
or an object.  Here the forms are given by the grammar alone, without a reader.  A *form* of a
kind of value is a relation between values and texts, and the form of a whole is put together
from the forms of its parts.

* Blanks may stand around every value and around the name of every member.
* A character of a string stands for itself or is written behind a backslash: by a letter, by the
  four hexadecimal digits of its code point, or, above U+FFFF, by a pair of such codes.  A half
  of a pair alone stands for no character.
* A number without a point and an exponent is whole.  Any other number is kept as a decimal.
* Arrays and objects keep their order, and objects all of their members.
-/

namespace Descent

/-- A JSON value. -/
inductive Json where
  | null
  | bool (value : Bool)
  | whole (value : Int)
  | decimal (value : Decimal)
  | string (value : String)
  | array (items : List Json)
  | object (members : List (String × Json))

namespace Json

/-- Which texts are written forms of which values. -/
abbrev Form (α : Type) := α → List Char → Prop

/-! ## Blanks -/

/-- The characters that may stand between the parts of a text. -/
def isBlank (c : Char) : Bool := c == ' ' || c == '\t' || c == '\n' || c == '\r'

/-- There is nothing but blanks. -/
def Blanks (t : List Char) : Prop := ∀ c ∈ t, isBlank c = true

/-! ## Strings -/

/-- The number that a hexadecimal digit stands for, in upper or lower case. -/
def hexDigit? (c : Char) : Option Nat := "0123456789abcdef".toList.idxOf? c.toLower

/-- The number that hexadecimal digits stand for. -/
def hexValue? (digits : List Char) : Option Nat :=
  digits.foldlM (fun n c => (hexDigit? c).map (16 * n + ·)) 0

/-- The character that a letter behind a backslash stands for. -/
def shortEscape? : Char → Option Char
  | '"' => some '"'
  | '\\' => some '\\'
  | '/' => some '/'
  | 'b' => some '\x08'
  | 'f' => some '\x0c'
  | 'n' => some '\n'
  | 'r' => some '\r'
  | 't' => some '\t'
  | _ => none

/-- The first half of a pair of codes. -/
def IsHigh (n : Nat) : Prop := 0xD800 ≤ n ∧ n < 0xDC00

/-- The second half of a pair of codes. -/
def IsLow (n : Nat) : Prop := 0xDC00 ≤ n ∧ n < 0xE000

instance (n : Nat) : Decidable (IsHigh n) := inferInstanceAs (Decidable (_ ∧ _))

instance (n : Nat) : Decidable (IsLow n) := inferInstanceAs (Decidable (_ ∧ _))

/-- The code point of a pair of codes. -/
def pairValue (high low : Nat) : Nat := 0x10000 + (high - 0xD800) * 0x400 + (low - 0xDC00)

/-- Four hexadecimal digits behind a backslash and a `u`. -/
inductive CodeForm : Form Nat where
  | mk {a b c d : Char} {n : Nat} (value : hexValue? [a, b, c, d] = some n) :
      CodeForm n ['\\', 'u', a, b, c, d]

/-- A character of a string. -/
inductive CharForm : Form Char where
  | plain {c : Char} (visible : 0x20 ≤ c.toNat) (notQuote : c ≠ '"') (notEscape : c ≠ '\\') :
      CharForm c [c]
  | short {c x : Char} (letter : shortEscape? x = some c) : CharForm c ['\\', x]
  | code {n : Nat} {t : List Char} (written : CodeForm n t) (scalar : n.isValidChar) :
      CharForm (Char.ofNat n) t
  | pair {n m : Nat} {t u : List Char} (first : CodeForm n t) (second : CodeForm m u)
      (high : IsHigh n) (low : IsLow m) : CharForm (Char.ofNat (pairValue n m)) (t ++ u)

/-- The characters of a string, one after the other. -/
inductive CharsForm : Form (List Char) where
  | nil : CharsForm [] []
  | cons {c : Char} {cs t ts : List Char} (first : CharForm c t) (others : CharsForm cs ts) :
      CharsForm (c :: cs) (t ++ ts)

/-- A string, between its quotes. -/
inductive StringForm : Form String where
  | mk {s : String} {t : List Char} (chars : CharsForm s.toList t) :
      StringForm s ('"' :: (t ++ ['"']))

/-! ## Numbers -/

/-- Digits, at least one. -/
structure Digits (ds : List Char) : Prop where
  /-- There is a digit. -/
  ne_nil : ds ≠ []
  /-- There is nothing else. -/
  isDigit : ∀ c ∈ ds, c.isDigit = true

/-- The digits of a whole number.  Zero stands before no other digit. -/
structure WholeDigits (ds : List Char) : Prop where
  /-- There are digits. -/
  digits : Digits ds
  /-- They begin with zero only where there is one of them. -/
  leading : ds.head? = some '0' → ds = ['0']

/-- A number with a sign. -/
def signed (negative : Bool) (n : Nat) : Int := if negative then -n else n

/-- A minus sign, or nothing. -/
inductive MinusForm : Form Bool where
  | absent : MinusForm false []
  | minus : MinusForm true ['-']

/-- A point and the digits behind it, or nothing. -/
inductive FractionForm : Form (Option (List Char)) where
  | absent : FractionForm none []
  | point {ds : List Char} (digits : Digits ds) : FractionForm (some ds) ('.' :: ds)

/-- The sign of an exponent. -/
inductive SignForm : Form Bool where
  | absent : SignForm false []
  | plus : SignForm false ['+']
  | minus : SignForm true ['-']

/-- The letter of an exponent, its sign and its digits, or nothing. -/
inductive ExponentForm : Form (Option Int) where
  | absent : ExponentForm none []
  | letter {x : Char} {negative : Bool} {sign ds : List Char} (isLetter : x = 'e' ∨ x = 'E')
      (signForm : SignForm negative sign) (digits : Digits ds) :
      ExponentForm (some (signed negative (Nat.ofDigitChars 10 ds 0))) (x :: (sign ++ ds))

/-- The number that the parts of a number stand for. -/
def numberValue (negative : Bool) (ds : List Char) : Option (List Char) → Option Int → Json
  | none, none => .whole (signed negative (Nat.ofDigitChars 10 ds 0))
  | fraction, exponent =>
      let places := fraction.getD []
      .decimal ⟨negative, Nat.ofDigitChars 10 (ds ++ places) 0, exponent.getD 0 - places.length⟩

/-- A number. -/
inductive NumberForm : Form Json where
  | mk {negative : Bool} {fraction : Option (List Char)} {exponent : Option Int}
      {minus ds behind ending : List Char} (sign : MinusForm negative minus)
      (digits : WholeDigits ds) (point : FractionForm fraction behind)
      (letter : ExponentForm exponent ending) :
      NumberForm (numberValue negative ds fraction exponent) (minus ++ (ds ++ (behind ++ ending)))

/-! ## Values -/

section

variable {α : Type}

/-- A form with blanks around it. -/
inductive Padded (R : Form α) : Form α where
  | mk {v : α} {before t after : List Char} (front : Blanks before) (form : R v t)
      (back : Blanks after) : Padded R v (before ++ (t ++ after))

/-- Forms with commas between them, at least one. -/
inductive Listed (R : Form α) : Form (List α) where
  | one {v : α} {t : List Char} (form : R v t) : Listed R [v] t
  | cons {v : α} {vs : List α} {t ts : List Char} (form : R v t) (others : Listed R vs ts) :
      Listed R (v :: vs) (t ++ ',' :: ts)

/-- Any number of forms between two brackets, with commas between them. -/
inductive Enclosed (opening closing : Char) (R : Form α) : Form (List α) where
  | empty {t : List Char} (blanks : Blanks t) :
      Enclosed opening closing R [] (opening :: (t ++ [closing]))
  | listed {vs : List α} {t : List Char} (forms : Listed R vs t) :
      Enclosed opening closing R vs (opening :: (t ++ [closing]))

end

/-- A name and a value with a colon between them. -/
inductive MemberForm (R : Form Json) : Form (String × Json) where
  | mk {name : String} {v : Json} {t u : List Char} (left : Padded StringForm name t)
      (right : Padded R v u) : MemberForm R (name, v) (t ++ ':' :: u)

/-- A value. -/
inductive ValueForm : Form Json where
  | null : ValueForm .null ['n', 'u', 'l', 'l']
  | true : ValueForm (.bool true) ['t', 'r', 'u', 'e']
  | false : ValueForm (.bool false) ['f', 'a', 'l', 's', 'e']
  | number {v : Json} {t : List Char} (form : NumberForm v t) : ValueForm v t
  | string {s : String} {t : List Char} (form : StringForm s t) : ValueForm (.string s) t
  | array {vs : List Json} {t : List Char} (form : Enclosed '[' ']' (Padded ValueForm) vs t) :
      ValueForm (.array vs) t
  | object {ms : List (String × Json)} {t : List Char}
      (form : Enclosed '\x7b' '\x7d' (MemberForm ValueForm) ms t) : ValueForm (.object ms) t

/-- The text is a JSON text of the value. -/
def IsText (v : Json) (t : List Char) : Prop := Padded ValueForm v t

end Json

end Descent
