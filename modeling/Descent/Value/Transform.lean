import Descent.Value.Arithmetic

/-!
# Functions on values, as data

A *transform* is a function on values that a grammar may apply, and a *builder* is
a function from a value to a grammar.  Both are given as data.  Where a value is
not of the kind that is needed they report a fault.
-/

namespace Descent

/-! ## Transforms -/

/-- A function on values. -/
inductive Transform where
  /-- Always the same value. -/
  | const (v : Value)
  /-- Adds a number. -/
  | add (n : Int)
  /-- The number of items of a sequence. -/
  | size
  /-- Joins a sequence of texts. -/
  | concat
  /-- Adds up a sequence. -/
  | total
  /-- A list of the one value. -/
  | wrap
  /-- A list of a tag and the value. -/
  | tag (v : Value)
  /-- Refuses a number above a bound. -/
  | rejectOver (n : Int)
  /-- Applies a sequence of operators and operands to a first operand, from the left. -/
  | foldOperations
  /-- Stops the run. -/
  | raise (e : Stop)

namespace Transform

/-- One operator with its operand, applied to a value. -/
def operate (acc operation : Value) : Except Fault Value := do
  let (operator, operand) ← operation.twoItems
  match operator with
  | .text "+" => acc.sum operand
  | .text "-" => acc.difference operand
  | _ => acc.product operand

/-- The first item of a sequence with the operations of the second one applied. -/
def foldOperators (v : Value) : Except Fault Value := do
  let first ← v.item 0
  (← (← v.item 1).iterate).foldlM operate first

/-- A value that is not above a bound. -/
def atMost (n : Int) (v : Value) : Except Fault Value :=
  match v.quantity? with
  | none => Value.mismatch ("'>' not supported between instances of '" ++ v.kind ++ "' and 'int'")
  | some d =>
      if (Decimal.ofInt n).below d then
        .error (if v.isTooLong then .tooLong else .reported .value ("rejected " ++ v.shown))
      else .ok v

/-- The value of a transform. -/
def apply : Transform → Value → Except Stop Value
  | const v, _ => .ok v
  | add n, v => (v.sum (.int n)).mapError .fault
  | size, v => (v.size.map fun n => .int n).mapError .fault
  | concat, v => (v.joined.map .text).mapError .fault
  | total, v => v.total.mapError .fault
  | wrap, v => .ok (.list [v])
  | tag t, v => .ok (.list [t, v])
  | rejectOver n, v => (atMost n v).mapError .fault
  | foldOperations, v => (foldOperators v).mapError .fault
  | raise e, _ => .error e

end Transform

/-! ## Builders -/

/-- A function from a value to a grammar. -/
inductive Builder {ι : Type} (τ : ι → Type) where
  /-- Always the same grammar. -/
  | const (p : Grammar τ Value)
  /-- The grammar, with the two values in a list. -/
  | pair (p : Grammar τ Value)
  /-- The literal of a text repeated as often as the value says. -/
  | repeated (text : String)
  /-- The literal that the value is. -/
  | same
  /-- Fails, and asks for the type that the value names. -/
  | expectType
  /-- The grammar for the value. -/
  | switch (cases : List (Value × Grammar τ Value)) (otherwise : Grammar τ Value)
  /-- Stops the run. -/
  | raise (e : Stop)
  deriving Inhabited

namespace Builder

variable {ι : Type} {τ : ι → Type}

/-- A grammar that stops with a fault. -/
def faulty (f : Fault) : Grammar τ Value := .raise (.fault f)

/-- The texts at the front of a list, up to a value of another kind. -/
def leadingTexts : List Value → List String
  | .text s :: vs => s :: leadingTexts vs
  | _ => []

/-- A tuple, where the input begins with one of its texts.  As many characters are
read as the tuple has items. -/
def anyOf (vs : List Value) : Grammar τ Value :=
  let texts := leadingTexts vs
  let first := Grammar.firstLiteral (texts.map fun s => (s, ()))
  let otherwise : Grammar τ Value := match vs.drop texts.length with
    | [] => .fail (.token (.one (Value.tuple vs).shown))
    | v :: _ => faulty <| .reported .type
        ("tuple for startswith must only contain str, not " ++ v.kind)
  ((fun _ => .tuple vs) <$> first.lookAhead.keepRight (.skipping vs.length)).orElse otherwise
    |>.secondError

/-- The literal that a value is, where it is a text or a tuple of texts. -/
def literalOf : Value → Grammar τ Value
  | .text s => .text <$> .token s
  | .tuple vs => anyOf vs
  | v => faulty <| .reported .type
      ("startswith first arg must be str or a tuple of str, not " ++ v.kind)

/-- The grammar that is built from a value. -/
def build : Builder τ → Value → Grammar τ Value
  | const p, _ => p
  | pair p, v => (fun w => .list [v, w]) <$> p
  | repeated text, v =>
      match Value.repeated (.text text) v with
      | .ok w => literalOf w
      | .error f => faulty f
  | same, v => if v.isTooLong then faulty .tooLong else literalOf v
  | expectType, v => if v.isTooLong then faulty .tooLong else .fail (.typed v.shown)
  | switch cases otherwise, v =>
      match cases.find? fun c => c.1.same v with
      | some c => c.2
      | none => otherwise
  | raise e, _ => .raise e

end Builder

end Descent
