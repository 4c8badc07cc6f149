import Descent.Value.Basic

/-!
# Operations on values

The operations look at the kinds of their operands.  Whole numbers stay whole,
and where one operand is a decimal number so is the result.  A sum of two
sequences of one kind joins them, and a product of a sequence and a whole number
repeats it.  Every other pair of kinds is a fault that names the kinds.
-/

namespace Descent.Value

/-! ## Faults -/

/-- A fault about the kind of a value. -/
def mismatch {α : Type} (message : String) : Except Fault α := .error (.reported .type message)

/-- No operation for operands of these kinds. -/
def unsupported {α : Type} (operator : String) (v w : Value) : Except Fault α :=
  mismatch ("unsupported operand type(s) for " ++ operator ++ ": '" ++ v.kind ++ "' and '" ++
    w.kind ++ "'")

/-! ## Arithmetic -/

/-- The result of an operation on numbers, where both operands are numbers. -/
def numeric? (onInts : Int → Int → Int) (onDecimals : Decimal → Decimal → Decimal)
    (v w : Value) : Option Value :=
  match v.int?, w.int? with
  | some m, some n => some (int (onInts m n))
  | _, _ =>
      match v.quantity?, w.quantity? with
      | some a, some b => some (decimal (onDecimals a b))
      | _, _ => none

/-- Only a sequence of the same kind is joined to a sequence. -/
def notJoined {α : Type} (v w : Value) : Except Fault α :=
  mismatch ("can only concatenate " ++ v.kind ++ " (not \"" ++ w.kind ++ "\") to " ++ v.kind)

/-- The sum of two values. -/
def sum (v w : Value) : Except Fault Value :=
  match numeric? (· + ·) Decimal.add v w with
  | some result => .ok result
  | none =>
      match v, w with
      | text s, text t => .ok (text (s ++ t))
      | list vs, list ws => .ok (list (vs ++ ws))
      | tuple vs, tuple ws => .ok (tuple (vs ++ ws))
      | text _, _ | list _, _ | tuple _, _ => notJoined v w
      | _, _ => unsupported "+" v w

/-- The difference of two values. -/
def difference (v w : Value) : Except Fault Value :=
  match numeric? (· - ·) Decimal.sub v w with
  | some result => .ok result
  | none => unsupported "-" v w

/-- A text as often as a number says. -/
def repeatText (s : String) (n : Nat) : String :=
  if s.isEmpty then "" else n.repeat (· ++ s) ""

/-- Items as often as a number says. -/
def repeatItems (vs : List Value) (n : Nat) : List Value :=
  if vs.isEmpty then [] else (List.replicate n vs).flatten

/-- The counts that a sequence may be repeated by are below this bound. -/
def countBound : Nat := Nat.pow 2 63

/-- The most items that a repeated sequence has. -/
def maxItems : Nat := Nat.pow 2 32

/-- A sequence as often as a number says. -/
def repeatTimes (sequence : Value) (n : Nat) : Except Fault Value :=
  let size := ((sequence.items?).getD []).length * n
  if sequence.text?.isSome ∧ countBound ≤ size then
    .error (.reported .overflow "repeated string is too long")
  else if maxItems < size then .error (.reported .memory "")
  else
    .ok <| match sequence with
      | text s => text (repeatText s n)
      | list vs => list (repeatItems vs n)
      | tuple vs => tuple (repeatItems vs n)
      | v => v

/-- A sequence as often as a value says. -/
def repeated (sequence count : Value) : Except Fault Value :=
  match count.int? with
  | none => mismatch ("can't multiply sequence by non-int of type '" ++ count.kind ++ "'")
  | some n =>
      if n < -countBound ∨ countBound ≤ n then
        .error (.reported .overflow "cannot fit 'int' into an index-sized integer")
      else repeatTimes sequence n.toNat

/-- The product of two values. -/
def product (v w : Value) : Except Fault Value :=
  match numeric? (· * ·) Decimal.mul v w with
  | some result => .ok result
  | none =>
      if v.items?.isSome then repeated v w
      else if w.items?.isSome then repeated w v
      else unsupported "*" v w

/-! ## Sequences -/

/-- The items of a sequence that is gone through. -/
def iterate (v : Value) : Except Fault (List Value) :=
  match v.items? with
  | some vs => .ok vs
  | none => mismatch ("'" ++ v.kind ++ "' object is not iterable")

/-- The item at an index of a sequence. -/
def item (v : Value) (i : Nat) : Except Fault Value :=
  match v.items? with
  | none => mismatch ("'" ++ v.kind ++ "' object is not subscriptable")
  | some vs =>
      match vs[i]? with
      | some w => .ok w
      | none =>
          let noun := if v.text?.isSome then "string" else v.kind
          .error (.reported .index (noun ++ " index out of range"))

/-- The two items of a sequence of two. -/
def twoItems (v : Value) : Except Fault (Value × Value) :=
  match v.items? with
  | none => mismatch ("cannot unpack non-iterable " ++ v.kind ++ " object")
  | some [a, b] => .ok (a, b)
  | some vs =>
      .error <| .reported .value <|
        if vs.length < 2 then
          "not enough values to unpack (expected 2, got " ++ toString vs.length ++ ")"
        else "too many values to unpack (expected 2)"

/-- The number of items of a sequence. -/
def size (v : Value) : Except Fault Nat :=
  match v.items? with
  | some vs => .ok vs.length
  | none => mismatch ("object of type '" ++ v.kind ++ "' has no len()")

/-- The texts of a list of values, counted from `i` in messages. -/
def textsFrom (i : Nat) : List Value → Except Fault (List String)
  | [] => .ok []
  | text s :: vs => (textsFrom (i + 1) vs).map (s :: ·)
  | v :: _ =>
      mismatch ("sequence item " ++ toString i ++ ": expected str instance, " ++ v.kind ++ " found")

/-- The texts of a sequence, joined. -/
def joined (v : Value) : Except Fault String :=
  match v.items? with
  | some vs => (textsFrom 0 vs).map String.join
  | none => mismatch "can only join an iterable"

/-- The sum of the items of a sequence. -/
def total (v : Value) : Except Fault Value := do
  (← v.iterate).foldlM sum (int 0)

end Descent.Value
