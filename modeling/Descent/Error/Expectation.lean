import Descent.Text.Quoted

/-!
# What a token failure was looking for

One literal, any of several, or several in order.  Each kind has a written form
for readers.  From a kind and a list of tokens an expectation is made by `ofKind?`,
which refuses a single literal that is not exactly one token.
-/

namespace Descent

/-! ## Kinds -/

/-- The shape of an expectation. -/
inductive ExpectationKind where
  | one
  | oneOf
  | sequence
  deriving DecidableEq

namespace ExpectationKind

/-- The kinds in their order. -/
def all : List ExpectationKind := [one, oneOf, sequence]

/-- The constant that stands for the kind. -/
def name : ExpectationKind → String
  | one => "ONE"
  | oneOf => "ONE_OF"
  | sequence => "SEQUENCE"

/-- The value of the kind in data. -/
def value : ExpectationKind → String
  | one => "one"
  | oneOf => "one_of"
  | sequence => "sequence"

/-- The kind that a value stands for. -/
def ofValue? (text : String) : Option ExpectationKind := all.find? (·.value == text)

end ExpectationKind

/-! ## Expectations -/

/-- What a token failure was looking for. -/
inductive Expectation where
  /-- A single literal. -/
  | one (token : String)
  /-- Any one of several literals. -/
  | oneOf (tokens : List String)
  /-- Several literals in order. -/
  | sequence (tokens : List String)
  deriving DecidableEq

/-- A single literal was asked for with another number of tokens. -/
structure NotOneToken where
  /-- The number of tokens given. -/
  count : Nat

/-- The text of the refusal. -/
def NotOneToken.message (e : NotOneToken) : String :=
  s!"TokenExpectation.one requires exactly one token, got {e.count}"

namespace Expectation

/-- The kind of an expectation. -/
def kind : Expectation → ExpectationKind
  | one _ => .one
  | oneOf _ => .oneOf
  | sequence _ => .sequence

/-- The literals of an expectation. -/
def tokens : Expectation → List String
  | one token => [token]
  | oneOf tokens => tokens
  | sequence tokens => tokens

/-- The expectation of a kind with the given tokens. -/
def ofKind? : ExpectationKind → List String → Except NotOneToken Expectation
  | .one, [token] => .ok (one token)
  | .one, tokens => .error ⟨tokens.length⟩
  | .oneOf, tokens => .ok (oneOf tokens)
  | .sequence, tokens => .ok (sequence tokens)

/-- An expectation is known by its kind and its tokens. -/
theorem ofKind?_kind_tokens (e : Expectation) : ofKind? e.kind e.tokens = .ok e := by
  cases e <;> rfl

/-! ## Written forms -/

/-- The form in messages: quotes around each alternative, none inside a sequence. -/
def text : Expectation → String
  | one token => "'" ++ token ++ "'"
  | oneOf tokens => "[" ++ ", ".intercalate (tokens.map fun token => "'" ++ token ++ "'") ++ "]"
  | sequence tokens => "[" ++ ", ".intercalate tokens ++ "]"

end Expectation

end Descent
