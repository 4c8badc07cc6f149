import Descent.Grammar.Canonical

/-!
# Values of all kinds

Where the grammar itself is data, the values it gives are of one type that has
all kinds of them.  Truth values count as whole numbers, and numbers are equal
when they stand for the same quantity.  Texts, lists and tuples are sequences of
items.
-/

namespace Descent

/-- A value of any kind. -/
inductive Value where
  | nothing
  | bool (value : Bool)
  | int (value : Int)
  | text (value : String)
  | list (items : List Value)
  | tuple (items : List Value)
  | decimal (value : Decimal)
  | member (value : Member)
  | record (name : String) (fields : List (String × Value))
  deriving Inhabited

namespace Value

/-! ## Values of other types -/

/-- A constant as a value. -/
def ofScalar : Scalar → Value
  | .nothing => nothing
  | .bool b => bool b
  | .int n => int n
  | .text s => text s

/-- A text that may be missing. -/
def ofText? : Option String → Value
  | some s => text s
  | none => nothing

/-- A character as a text. -/
def ofChar (c : Char) : Value := text (String.singleton c)

/-- A point as a record. -/
def ofPoint (p : Point) : Value := record "Point" [("x", int p.x), ("y", int p.y)]

/-- A length as a record. -/
def ofLength (l : Length) : Value :=
  record "Length" [("value", int l.value), ("unit", member l.unit.member)]

/-! ## Kinds -/

/-- The name of the kind of a value. -/
def kind : Value → String
  | nothing => "NoneType"
  | bool _ => "bool"
  | int _ => "int"
  | text _ => "str"
  | list _ => "list"
  | tuple _ => "tuple"
  | decimal _ => "decimal.Decimal"
  | member m => m.enumeration
  | record name _ => name

/-- The whole number that a value is. -/
def int? : Value → Option Int
  | bool b => some (Scalar.ofBool b)
  | int n => some n
  | _ => none

/-- The quantity that a value is. -/
def quantity? : Value → Option Decimal
  | decimal d => some d
  | v => v.int?.map Decimal.ofInt

/-- The text that a value is. -/
def text? : Value → Option String
  | text s => some s
  | _ => none

/-- The items of a sequence. -/
def items? : Value → Option (List Value)
  | text s => some (s.toList.map ofChar)
  | list vs => some vs
  | tuple vs => some vs
  | _ => none

/-! ## Equality -/

mutual

/-- Equality in which numbers are quantities. -/
def same : Value → Value → Bool
  | nothing, nothing => true
  | text s, text t => s == t
  | list vs, list ws => sameAll vs ws
  | tuple vs, tuple ws => sameAll vs ws
  | member m, member n => m == n
  | record r vs, record s ws => r == s && sameFields vs ws
  | v, w =>
      match v.quantity?, w.quantity? with
      | some a, some b => a.same b
      | _, _ => false

/-- Equality of lists, item by item. -/
def sameAll : List Value → List Value → Bool
  | [], [] => true
  | v :: vs, w :: ws => same v w && sameAll vs ws
  | _, _ => false

/-- Equality of records, field by field. -/
def sameFields : List (String × Value) → List (String × Value) → Bool
  | [], [] => true
  | (_, v) :: vs, (_, w) :: ws => same v w && sameFields vs ws
  | _, _ => false

end

/-! ## Literals -/

mutual

/-- The literal of a value. -/
def literalForm : Value → String
  | nothing => literal ()
  | bool b => literal b
  | int n => literal n
  | text s => literal s
  | list vs => "[" ++ ", ".intercalate (literalForms vs) ++ "]"
  | tuple [v] => "(" ++ literalForm v ++ ",)"
  | tuple vs => "(" ++ ", ".intercalate (literalForms vs) ++ ")"
  | decimal d => "Decimal(" ++ Text.quoted d.text ++ ")"
  | member m => literal m
  | record name fields => name ++ "(" ++ ", ".intercalate (fieldForms fields) ++ ")"

/-- The literals of several values. -/
def literalForms : List Value → List String
  | [] => []
  | v :: vs => literalForm v :: literalForms vs

/-- The literals of several fields. -/
def fieldForms : List (String × Value) → List String
  | [] => []
  | (name, v) :: fields => (name ++ "=" ++ literalForm v) :: fieldForms fields

end

instance : Literal Value := ⟨literalForm⟩

/-- A value in a message.  Texts, decimal numbers and members stand there without
the marks of a literal. -/
def shown : Value → String
  | text s => s
  | decimal d => d.text
  | member m => m.enumeration ++ "." ++ m.name
  | v => literal v

mutual

/-- The value holds a whole number with more digits than are written. -/
def isTooLong : Value → Bool
  | int n => Nat.pow 10 Fault.maxDigits ≤ n.natAbs
  | list vs => anyTooLong vs
  | tuple vs => anyTooLong vs
  | record _ fields => anyFieldTooLong fields
  | _ => false

/-- One of the values is too long. -/
def anyTooLong : List Value → Bool
  | [] => false
  | v :: vs => isTooLong v || anyTooLong vs

/-- One of the fields is too long. -/
def anyFieldTooLong : List (String × Value) → Bool
  | [] => false
  | (_, v) :: fields => isTooLong v || anyFieldTooLong fields

end

end Value

end Descent
