import Descent.Literal

/-!
# Enumerations

An enumeration is a list of named constants in the order of their declaration.  A
constant that is declared with the value of an earlier one is another name for
that one, so the *members* are the constants with a new value.
-/

namespace Descent

/-! ## Constants -/

/-- The value of a constant. -/
inductive Scalar where
  | nothing
  | bool (value : Bool)
  | int (value : Int)
  | text (value : String)
  deriving DecidableEq

namespace Scalar

/-- A truth value as a number. -/
def ofBool (b : Bool) : Int := if b then 1 else 0

/-- The number of a value that counts as one. -/
def number? : Scalar → Option Int
  | bool b => some (ofBool b)
  | int n => some n
  | _ => none

/-- Equality in which truth values are numbers. -/
def same (a b : Scalar) : Bool :=
  match a.number?, b.number? with
  | some m, some n => m == n
  | _, _ => a == b

/-- The text of a value that is one. -/
def text? : Scalar → Option String
  | text s => some s
  | _ => none

instance : Literal Scalar where
  literal
    | nothing => literal ()
    | bool b => literal b
    | int n => literal n
    | text s => literal s

end Scalar

/-! ## Members -/

/-- A constant of an enumeration. -/
structure Member where
  /-- The name of the enumeration. -/
  enumeration : String
  /-- The name of the constant. -/
  name : String
  /-- The value of the constant. -/
  value : Scalar
  deriving DecidableEq

instance : Literal Member where
  literal m := "<" ++ m.enumeration ++ "." ++ m.name ++ ": " ++ literal m.value ++ ">"

/-- Constants by name. -/
structure Enumeration where
  /-- The name of the enumeration. -/
  name : String
  /-- The names and values, as declared. -/
  declared : List (String × Scalar)

namespace Enumeration

/-- The member with a value, which is the first constant declared with it. -/
def ofValue? (e : Enumeration) (value : Scalar) : Option Member :=
  (e.declared.find? fun c => c.2.same value).map fun c => ⟨e.name, c.1, c.2⟩

/-- The member that a name stands for. -/
def ofName? (e : Enumeration) (name : String) : Option Member :=
  (e.declared.lookup name).bind e.ofValue?

/-- The members in the order of their declaration. -/
def members (e : Enumeration) : List Member :=
  (e.declared.filterMap fun c => e.ofValue? c.2).eraseDups

end Enumeration

end Descent
