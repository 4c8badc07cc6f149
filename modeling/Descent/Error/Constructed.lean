import Descent.Error.Basic

/-!
# Constructor forms

The constructor form of a value names its constructor and lists its arguments as
literals, so that unequal values have unequal forms.
-/

namespace Descent

/-- A list of texts as a tuple of quoted literals.  A tuple of one keeps its comma. -/
def quotedTuple : List String → String
  | [] => "()"
  | [text] => "(" ++ Text.quoted text ++ ",)"
  | texts => "(" ++ ", ".intercalate (texts.map Text.quoted) ++ ")"

/-- The constructor form of a cursor. -/
def Cursor.constructed (c : Cursor) : String :=
  "Cursor(source=" ++ Text.quoted (String.ofList c.source) ++ ", pos=" ++ toString c.pos ++ ")"

/-- The constructor form of an expectation. -/
def Expectation.constructed (e : Expectation) : String :=
  "TokenExpectation(kind=<ExpectationKind." ++ e.kind.name ++ ": " ++ Text.quoted e.kind.value ++
    ">, tokens=" ++ quotedTuple e.tokens ++ ")"

namespace ParseError

/-- The name of the constructor. -/
def constructorName : ParseError → String
  | character _ => "ExpectedCharacter"
  | whitespace => "ExpectedWhitespace"
  | termination => "ExpectedTerminationSequence"
  | token _ => "ExpectedToken"
  | typed _ => "ExpectedType"
  | number => "ExpectedNumber"
  | alphanumeric => "ExpectedAlphaNumericString"
  | satisfying => "ExpectedCharactersSatisfyingPredicate"
  | incomplete _ => "IncompleteParse"
  | context _ _ => "ContextualError"
  | either _ _ => "EitherError"

/-- The constructor form of a failure. -/
def constructed : ParseError → String
  | character char => "ExpectedCharacter(" ++ Text.quoted char ++ ")"
  | whitespace => "ExpectedWhitespace()"
  | termination => "ExpectedTerminationSequence()"
  | token expected => "ExpectedToken(" ++ expected.constructed ++ ")"
  | typed name => "ExpectedType(" ++ Text.quoted name ++ ")"
  | number => "ExpectedNumber()"
  | alphanumeric => "ExpectedAlphaNumericString()"
  | satisfying => "ExpectedCharactersSatisfyingPredicate()"
  | incomplete stopped => "IncompleteParse(" ++ stopped.constructed ++ ")"
  | context label error =>
      "ContextualError(" ++ Text.quoted label ++ ", " ++ error.constructed ++ ")"
  | either first second =>
      "EitherError(" ++ first.constructed ++ ", " ++ second.constructed ++ ")"

end ParseError

end Descent
