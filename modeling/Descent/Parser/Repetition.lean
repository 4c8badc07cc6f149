import Descent.Parser.Combinators

/-!
# Repetition

`many` repeats an element, `sequence` repeats an element with separators between,
and `upTo` repeats any character up to a terminator.

A repetition goes on only after a round that left less input than there was, so
the length of the rest bounds the number of rounds.  A round that read nothing
ends the repetition, its value is kept, and the trace notes it.
-/

namespace Descent.Parser

variable {α β : Type}

/-! ## Elements -/

/-- Repeats a parser until it stops, and collects the values.  Input that the last
attempt read stays read.  Without `allowEmpty` a stop of the first attempt is a
stop of the whole. -/
def many (name : String) (allowEmpty : Bool) (p : Parser α) (s : State) : Run (List α) :=
  (p s).resume fun
    | .ok v, s' =>
        if s'.cursor.rest.length < s.cursor.rest.length then
          (many name true p s').map (v :: ·)
        else
          (Run.ok [v] s').after (.manyStalled name)
    | .error (.tooDeep limit), s' => .stop (.tooDeep limit) s'
    | .error e, s' =>
        if allowEmpty then noteCaught .many name e (.ok [] s') else .stop e s'
termination_by s.cursor.rest.length

/-! ## Elements and separators -/

/-- How a separated repetition treats its ends. -/
structure SequenceOptions where
  /-- The first element may be missing. -/
  allowEmpty : Bool := true
  /-- A separator without an element after it stays read. -/
  allowTrailing : Bool := true

/-- Repeats a separator and an element.  A separator that fails is not read. -/
def rounds (name : String) (o : SequenceOptions) (p : Parser α) (separator : Parser β)
    (s : State) : Run (List α) :=
  if s.cursor.isAtEnd then .ok [] s
  else
    (separator s).resume fun
      | .error (.failure _), s' => .ok [] (s'.moveTo s.cursor)
      | .error e, s' => .stop e s'
      | .ok _, s' =>
          (p s').resume fun
            | .error (.failure _), s'' =>
                .ok [] (if o.allowTrailing then s'' else s''.moveTo s.cursor)
            | .error e, s'' => .stop e s''
            | .ok v, s'' =>
                if s''.cursor.rest.length < s.cursor.rest.length then
                  (rounds name o p separator s'').map (v :: ·)
                else
                  (Run.ok [v] s'').after (.sequenceStalled name)
termination_by s.cursor.rest.length

/-- Repeats an element with separators between. -/
def sequence (name : String) (o : SequenceOptions) (p : Parser α) (separator : Parser β) :
    Parser (List α) := fun s =>
  (p s).resume fun
    | .ok v, s' => (rounds name o p separator s').map (v :: ·)
    | .error (.failure e), s' => if o.allowEmpty then .ok [] s' else .stop (.failure e) s'
    | .error e, s' => .stop e s'

/-! ## Characters up to a terminator -/

/-- How a run of characters up to a terminator treats its ends. -/
structure ScanOptions where
  /-- The run may be empty. -/
  allowEmpty : Bool := true
  /-- The end of the input may stand for the terminator. -/
  allowEnd : Bool := false
  /-- The terminator is read. -/
  consume : Bool := false

/-- Goes forward to the first place where the terminator succeeds, and gives the
text from `start` to it.  The terminator is not tried at the end of the input. -/
def scan (o : ScanOptions) (terminator : Parser α) (start : Cursor) (s : State) : Run String :=
  if s.cursor.isAtEnd then
    if o.allowEnd ∧ (o.allowEmpty ∨ start.pos < s.cursor.pos) then .ok start.remaining s
    else .stop (.failure (if o.allowEnd then .satisfying else .termination)) (s.moveTo start)
  else
    (terminator s).resume fun
      | .error (.failure _), s' => scan o terminator start (s'.moveTo (s.cursor.advance 1))
      | .error e, s' => .stop e s'
      | .ok _, s' =>
          if s.cursor.pos = start.pos ∧ ¬ o.allowEmpty then
            .stop (.failure .satisfying) (s'.moveTo start)
          else .ok (start.textTo s.cursor) (if o.consume then s' else s'.moveTo s.cursor)
termination_by s.cursor.rest.length
decreasing_by exact Cursor.length_rest_advance_lt ‹_› Nat.one_pos

/-- The characters before the first place where the terminator succeeds. -/
def upTo (o : ScanOptions) (terminator : Parser α) : Parser String := fun s =>
  scan o terminator s.cursor s

end Descent.Parser
