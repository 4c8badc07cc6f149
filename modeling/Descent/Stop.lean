import Descent.Error.Basic

/-!
# How a run may end without a value

A run stops for one of three reasons, and the combinators treat them differently.
A *failure* says that the input is not what the grammar wants, and another branch
may be tried.  A run that is *too deep* has used up its nesting limit, and
nothing catches that.  A *fault* comes from outside the grammar: a transform, a
builder or the conversion of a numeral went wrong, or a number has too many digits.
-/

namespace Descent

/-- The kind of a fault. -/
inductive FaultKind where
  /-- A value outside the range of an operation. -/
  | value
  /-- A value of the wrong type. -/
  | type
  /-- A place outside a list or a text. -/
  | index
  /-- A number too large to count with. -/
  | overflow
  /-- A value too large to be kept. -/
  | memory
  /-- A fault of no other kind. -/
  | runtime
  /-- A division by zero. -/
  | division
  /-- A numeral that is not well formed. -/
  | numberFormat
  /-- A text that decimal arithmetic does not take. -/
  | invalidOperation
  deriving DecidableEq

/-- The name of a kind. -/
def FaultKind.name : FaultKind → String
  | value => "ValueError"
  | type => "TypeError"
  | index => "IndexError"
  | overflow => "OverflowError"
  | memory => "MemoryError"
  | runtime => "RuntimeError"
  | division => "ZeroDivisionError"
  | numberFormat => "NumberFormatError"
  | invalidOperation => "InvalidOperation"

/-- Something went wrong outside the grammar. -/
inductive Fault where
  /-- A number that has too many digits to be read. -/
  | tooManyDigits (count : Nat)
  /-- A number that has too many digits to be written. -/
  | tooLong
  /-- A fault that a transform, a builder or a conversion reports. -/
  | reported (kind : FaultKind) (message : String)
  deriving DecidableEq

namespace Fault

/-- The most digits that a number is read from or written with. -/
def maxDigits : Nat := 4300

/-- The kind of a fault. -/
def kind : Fault → FaultKind
  | tooManyDigits _ => .value
  | tooLong => .value
  | reported kind _ => kind

/-- The text of a fault. -/
def message : Fault → String
  | tooManyDigits count =>
      s!"Exceeds the limit ({maxDigits} digits) for integer string conversion: value has " ++
        s!"{count} digits; use sys.set_int_max_str_digits() to increase the limit"
  | tooLong =>
      s!"Exceeds the limit ({maxDigits} digits) for integer string conversion; " ++
        "use sys.set_int_max_str_digits() to increase the limit"
  | reported _ message => message

end Fault

/-- Why a run ended without a value. -/
inductive Stop where
  /-- The input is not what the grammar wants. -/
  | failure (error : ParseError)
  /-- The nesting limit is reached. -/
  | tooDeep (limit : Int)
  /-- Something went wrong outside the grammar. -/
  | fault (fault : Fault)
  deriving DecidableEq

/-- The four ways in which a run may end. -/
@[elab_as_elim] theorem outcome_cases {α : Type} {motive : Except Stop α → Prop}
    (ok : ∀ v, motive (.ok v)) (failure : ∀ e, motive (.error (.failure e)))
    (tooDeep : ∀ limit, motive (.error (.tooDeep limit)))
    (fault : ∀ f, motive (.error (.fault f))) (o : Except Stop α) : motive o := by
  cases o with
  | ok v => exact ok v
  | error e =>
      cases e with
      | failure e => exact failure e
      | tooDeep limit => exact tooDeep limit
      | fault f => exact fault f

/-- The text of a stop at the nesting limit. -/
def Stop.depthMessage (limit : Int) : String :=
  s!"Maximum grammar nesting depth ({limit}) exceeded. " ++
    "Input is nested too deeply for this grammar."

end Descent
