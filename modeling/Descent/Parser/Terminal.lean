import Descent.Conversion
import Descent.Parser.Basic

/-!
# Parsers that read characters

Each of these looks at the rest of the input and either reads a front of it or
fails without reading anything.  Two of them may stop in another way.  `number`
has read the digits when it finds them too many, and `decimal` has read nothing
when its conversion goes wrong.
-/

namespace Descent.Parser

/-! ## Literals and classes -/

/-- Reads a literal. -/
def token (text : String) : Parser String := fun s =>
  if s.cursor.startsWith text then .ok text (s.moveTo (s.cursor.advance text.length))
  else .stop (.failure (.token (.one text))) s

/-- Reads one character of a class. -/
def satisfy (p : Char → Bool) : Parser Char := fun s =>
  match s.cursor.rest with
  | c :: _ =>
      if p c then .ok c (s.moveTo (s.cursor.advance 1)) else .stop (.failure .satisfying) s
  | [] => .stop (.failure .satisfying) s

/-- Reads the longest run of characters of a class.  An empty run fails with `e`
unless it is allowed. -/
def span (p : Char → Bool) (allowEmpty : Bool) (e : ParseError) : Parser String := fun s =>
  let run := s.cursor.takeWhile p
  if run.1.isEmpty ∧ ¬ allowEmpty then .stop (.failure e) s
  else .ok (String.ofList run.1) (s.moveTo run.2)

/-! ## Numbers -/

/-- Reads an integer: digits, and a minus sign before them or not. -/
def number : Parser Int := fun s =>
  let negative := s.cursor.rest.head? == some '-'
  let unsigned := if negative then s.cursor.advance 1 else s.cursor
  let run := unsigned.takeWhile Char.isDigit
  if run.1.isEmpty then .stop (.failure .number) s
  else if Fault.maxDigits < run.1.length then
    .raise (.fault (.tooManyDigits run.1.length)) (s.moveTo run.2)
  else
    let value : Int := Nat.ofDigitChars 10 run.1 0
    .ok (if negative then -value else value) (s.moveTo run.2)

/-- The digits and separators of a numeral, less the separators at its end. -/
def numeralBody (symbols : NumberSymbols) (rest : List Char) : List Char :=
  let isSeparator c := c = symbols.group ∨ c = symbols.point
  let run := rest.takeWhile fun c => c.isDigit ∨ isSeparator c
  (run.reverse.dropWhile fun c => isSeparator c).reverse

/-- The text that is converted for a body.  Whatever the sign is, it stands there as a hyphen. -/
def candidate (signed : Bool) (body : List Char) : String :=
  String.ofList (if signed then '-' :: body else body)

/-- The kinds of faults of a conversion that count as a failure. -/
def rejectedKinds : List FaultKind := [.numberFormat, .invalidOperation, .value]

/-- Reads a number as a locale writes it.  The sign is that of the locale or a hyphen, and a
digit follows it.  Nothing is read before the conversion has given a value. -/
def decimal (locale : String) (symbols : NumberSymbols) (convert : Conversion) :
    Parser Decimal := fun s =>
  let sign := ([symbols.minus, "-"].find? s.cursor.startsWith).getD ""
  let unsigned := s.cursor.advance sign.length
  if (unsigned.rest.head?.map Char.isDigit).getD false then
    let body := numeralBody symbols unsigned.rest
    let numeral := candidate (!sign.isEmpty) body
    match convert numeral with
    | .ok value => .ok value (s.moveTo (unsigned.advance body.length))
    | .error f =>
        if f.kind ∈ rejectedKinds then
          (Run.stop (.failure .number) s).after (.rejectedNumeral numeral locale f.message)
        else .raise (.fault f) s
  else .stop (.failure .number) s

end Descent.Parser
