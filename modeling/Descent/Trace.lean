import Descent.Nesting
import Descent.Stop

/-!
# Traces of runs

A run leaves a trace of events.  Most of them are written to a log, each as a
record with a level, the part of the library it comes from, and a text.  That a
fault was raised is an event without a record: together with the record of a
fault that was swallowed it says where each fault went.
-/

namespace Descent

/-! ## Events -/

/-- A combinator that goes on after a fault. -/
inductive Catcher where
  | optional
  | discard
  | many
  deriving DecidableEq

/-- The name of a combinator in records. -/
def Catcher.name : Catcher → String
  | optional => "optional"
  | discard => "discard"
  | many => "many"

/-- What happened in a run. -/
inductive Event where
  /-- A fault was raised. -/
  | raised (fault : Fault)
  /-- A combinator went on after a fault of the parser with this name. -/
  | swallowed (catcher : Catcher) (name : String) (fault : Fault)
  /-- A repetition ended because an element consumed nothing. -/
  | manyStalled (name : String)
  /-- A separated repetition ended because a round consumed nothing. -/
  | sequenceStalled (name : String)
  /-- A numeral was found and its conversion was refused for this reason. -/
  | rejectedNumeral (numeral locale reason : String)
  /-- A whole run failed at a position. -/
  | failed (name : String) (pos : Nat) (code : ErrorCode)
  /-- A requested nesting limit was clamped to what the stack allows. -/
  | clamped (requested stack limit : Int)
  deriving DecidableEq

/-! ## Records -/

/-- The weight of a record. -/
inductive Level where
  | debug
  | warning
  deriving DecidableEq

/-- The part of the library that a record comes from. -/
inductive Channel where
  | parsing
  | numerals
  | nesting
  deriving DecidableEq

/-- One entry of the log. -/
structure Record where
  /-- The weight. -/
  level : Level
  /-- The part it comes from. -/
  channel : Channel
  /-- The text. -/
  text : String
  deriving DecidableEq

/-- The record of an event. -/
def Event.record? : Event → Option Record
  | raised _ => none
  | swallowed catcher name fault =>
      some ⟨.debug, .parsing,
        catcher.name ++ "(" ++ name ++ ") swallowed " ++ fault.kind.name ++ ": " ++
          fault.message⟩
  | manyStalled name =>
      some ⟨.debug, .parsing, "many(" ++ name ++ ") stopped: element consumed no input"⟩
  | sequenceStalled name =>
      some ⟨.debug, .parsing, "sequence(" ++ name ++ ") stopped: iteration consumed no input"⟩
  | rejectedNumeral numeral locale reason =>
      some ⟨.debug, .numerals,
        "Babel rejected " ++ Text.quoted numeral ++ " for locale " ++ locale ++ ": " ++ reason⟩
  | failed name pos code =>
      some ⟨.debug, .parsing,
        "Parser " ++ name ++ " failed at offset " ++ toString pos ++ ": " ++ code.name⟩
  | clamped requested stack limit =>
      some ⟨.warning, .nesting,
        s!"Requested grammar depth {requested} exceeds recursion limit {stack}; " ++
          s!"Clamping to {limit}. Raise sys.setrecursionlimit() for deeper grammars."⟩

/-- What happened, in order. -/
abbrev Trace := List Event

/-- The log of a trace. -/
def Trace.log (t : Trace) : List Record := t.filterMap Event.record?

/-- What clamping a limit leaves in the trace. -/
def Nesting.clampTrace (requested : Int) (reserve stack : Int) : Trace :=
  if requested ≤ stack - reserve then [] else [.clamped requested stack (stack - reserve)]

end Descent
