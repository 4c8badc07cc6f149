import Descent.Decimal
import Descent.Locale
import Descent.Stop

/-!
# Conversions of numerals

What a numeral of a locale denotes is not for a grammar to say.  A grammar finds the numeral and
hands its text to a *conversion*, which gives a number or raises a fault.  A conversion may be any
function.  Faults of three kinds are *refusals*: they say that the text is no number.

The common conversion knows the symbols of its locale.  It deletes the group symbols, puts a point
for each decimal symbol, and takes what is left as a plain number.
-/

namespace Descent

/-! ## Conversions -/

/-- What a text denotes, for one locale. -/
abbrev Conversion := String → Except Fault Decimal

/-- The fault says that a text is no number. -/
def Fault.IsRefusal (f : Fault) : Prop :=
  f.kind = .numberFormat ∨ f.kind = .invalidOperation ∨ f.kind = .value

/-- Whatever the conversion does not take, it refuses. -/
def Conversion.OnlyRefuses (convert : Conversion) : Prop :=
  ∀ numeral f, convert numeral = .error f → f.IsRefusal

/-! ## Plain numbers -/

namespace Decimal

/-- The number of digits alone, or with one point among them. -/
def ofUnsigned? (negative : Bool) (text : List Char) : Option Decimal :=
  if text.any Char.isDigit then
    match text.dropWhile Char.isDigit with
    | [] => some (.ofDigits negative text [])
    | c :: fraction =>
        if c = '.' ∧ fraction.all Char.isDigit then
          some (.ofDigits negative (text.takeWhile Char.isDigit) fraction)
        else none
  else none

/-- The number of such a text, with a hyphen before it or not. -/
def ofPlain? : List Char → Option Decimal
  | '-' :: text => ofUnsigned? true text
  | text => ofUnsigned? false text

end Decimal

/-! ## The common conversion -/

namespace NumberSymbols

variable (symbols : NumberSymbols)

/-- A numeral without its group symbols and with a point for each decimal symbol. -/
def plain (numeral : List Char) : List Char :=
  (numeral.filter (· != symbols.group)).map fun c => if c = symbols.point then '.' else c

/-- A numeral has the value of its plain text. -/
def convert : Conversion := fun numeral =>
  match Decimal.ofPlain? (symbols.plain numeral.toList) with
  | some value => .ok value
  | none =>
      .error (.reported .numberFormat (Text.quoted numeral ++ " is not a valid decimal number"))

theorem onlyRefuses_convert : symbols.convert.OnlyRefuses := by
  intro numeral f raised
  unfold convert at raised
  split at raised
  · cases raised
  · cases raised
    exact .inl rfl

end NumberSymbols

end Descent
