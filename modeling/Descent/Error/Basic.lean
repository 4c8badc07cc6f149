import Descent.Cursor
import Descent.Error.Expectation

/-!
# Failures of a parse

The failures are a closed set of kinds.  Two of them nest other failures:
`context` names the region of the grammar where a failure happened, and `either`
holds the failures of both branches of an alternative.  Every failure has a code
and a message of one line that leaves out what is nested in it.
-/

namespace Descent

/-! ## Codes -/

/-- The stable identifier of a kind of failure. -/
inductive ErrorCode where
  | expectedCharacter
  | expectedWhitespace
  | expectedTermination
  | expectedToken
  | expectedType
  | expectedNumber
  | expectedAlphanumeric
  | expectedSatisfying
  | incompleteParse
  | contextual
  | either
  deriving DecidableEq

namespace ErrorCode

/-- The codes, by value. -/
def all : List ErrorCode :=
  [expectedCharacter, expectedWhitespace, expectedTermination, expectedToken, expectedType,
    expectedNumber, expectedAlphanumeric, expectedSatisfying, incompleteParse, contextual, either]

/-- The name of a code. -/
def name : ErrorCode → String
  | expectedCharacter => "EXPECTED_CHARACTER"
  | expectedWhitespace => "EXPECTED_WHITESPACE"
  | expectedTermination => "EXPECTED_TERMINATION_SEQUENCE"
  | expectedToken => "EXPECTED_TOKEN"
  | expectedType => "EXPECTED_TYPE"
  | expectedNumber => "EXPECTED_NUMBER"
  | expectedAlphanumeric => "EXPECTED_ALPHANUMERIC_STRING"
  | expectedSatisfying => "EXPECTED_CHARACTERS_SATISFYING_PREDICATE"
  | incompleteParse => "INCOMPLETE_PARSE"
  | contextual => "CONTEXTUAL"
  | either => "EITHER"

/-- The number of a code.  Thousands tell what was missing, unread or nested. -/
def value : ErrorCode → Nat
  | expectedCharacter => 1001
  | expectedWhitespace => 1002
  | expectedTermination => 1003
  | expectedToken => 1004
  | expectedType => 1005
  | expectedNumber => 1006
  | expectedAlphanumeric => 1007
  | expectedSatisfying => 1008
  | incompleteParse => 2001
  | contextual => 3001
  | either => 3002

/-- Failures with this code nest other failures. -/
def isComposite (code : ErrorCode) : Bool := 3000 ≤ code.value

end ErrorCode

/-! ## Failures -/

/-- Why a parse failed. -/
inductive ParseError where
  /-- A certain character was missing. -/
  | character (char : String)
  /-- A blank was missing. -/
  | whitespace
  /-- The input ended before the end of a run was found. -/
  | termination
  /-- A literal was missing. -/
  | token (expected : Expectation)
  /-- A value of a named type was missing. -/
  | typed (name : String)
  /-- A number was missing. -/
  | number
  /-- A text of letters and digits was missing. -/
  | alphanumeric
  /-- Characters of a class were missing. -/
  | satisfying
  /-- The input was not read to its end. -/
  | incomplete (stopped : Cursor)
  /-- A failure inside a named region of the grammar. -/
  | context (label : String) (error : ParseError)
  /-- Both branches of an alternative failed. -/
  | either (first second : ParseError)
  deriving DecidableEq, Inhabited

namespace ParseError

/-- The code of a failure. -/
def code : ParseError → ErrorCode
  | character _ => .expectedCharacter
  | whitespace => .expectedWhitespace
  | termination => .expectedTermination
  | token _ => .expectedToken
  | typed _ => .expectedType
  | number => .expectedNumber
  | alphanumeric => .expectedAlphanumeric
  | satisfying => .expectedSatisfying
  | incomplete _ => .incompleteParse
  | context _ _ => .contextual
  | either _ _ => .either

/-- One line about a failure, without what is nested in it. -/
def message : ParseError → String
  | character char => "Expected Character '" ++ char ++ "'"
  | whitespace => "Expected Whitespace"
  | termination => "Expected Termination Sequence"
  | token expected => "Expected Token " ++ expected.text
  | typed name => "Expected Type '" ++ name ++ "'"
  | number => "Expected Number"
  | alphanumeric => "Expected AlphaNumericString"
  | satisfying => "Expected Characters Satisfying Predicate"
  | incomplete stopped => "Incomplete Parse - Remaining: \n" ++ stopped.remaining
  | context label _ => "Parsing Error in " ++ label
  | either _ _ => "Parsing Failed in Either"

end ParseError

end Descent
