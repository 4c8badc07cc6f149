import Descent.Trace

/-!
# Parsers

A parser takes a state, which is a cursor and a nesting, and gives a run: a value
or the reason why there is none, the state in which it ended, and the trace of
what happened.  A run that stops has a state too, so a parser that fails may have
read something, and it is up to the combinators whether that stays read.

`Run.resume` is the one way to go on after a run.  It hands the outcome and the
state to a continuation and joins the traces.  Every combinator is built on it,
so the trace of a whole is the traces of its parts in order.
-/

namespace Descent

/-! ## States -/

/-- Where a run stands. -/
structure State where
  /-- The place in the input. -/
  cursor : Cursor
  /-- The nesting. -/
  nesting : Nesting
  deriving DecidableEq

namespace State

/-- The state at the front of a text, with a nesting limit clamped to the stack. -/
def start (text : String) (limit stack : Int) : State :=
  ⟨.start text, .ofRequest limit stack⟩

/-- The state at another place. -/
def moveTo (s : State) (c : Cursor) : State := { s with cursor := c }

@[simp] theorem cursor_moveTo (s : State) (c : Cursor) : (s.moveTo c).cursor = c := rfl

@[simp] theorem nesting_moveTo (s : State) (c : Cursor) : (s.moveTo c).nesting = s.nesting := rfl

@[simp] theorem moveTo_cursor (s : State) : s.moveTo s.cursor = s := rfl

@[simp] theorem moveTo_moveTo (s : State) (c d : Cursor) :
    (s.moveTo c).moveTo d = s.moveTo d := rfl

end State

/-! ## Runs -/

/-- How a parser ended. -/
structure Run (α : Type) where
  /-- A value, or why there is none. -/
  outcome : Except Stop α
  /-- The state at the end. -/
  state : State
  /-- What happened. -/
  trace : Trace := []

namespace Run

variable {α β γ : Type}

/-- A value, with nothing to note. -/
def ok (v : α) (s : State) : Run α := ⟨.ok v, s, []⟩

/-- A stop, with nothing to note. -/
def stop (e : Stop) (s : State) : Run α := ⟨.error e, s, []⟩

/-- A stop that begins here.  Where it is a fault, the trace says so. -/
def raise (e : Stop) (s : State) : Run α :=
  match e with
  | .fault f => ⟨.error (.fault f), s, [.raised f]⟩
  | e => stop e s

/-- The run after an event. -/
def after (e : Event) (r : Run α) : Run α := { r with trace := e :: r.trace }

/-- The run with its value changed. -/
def map (f : α → β) (r : Run α) : Run β := ⟨r.outcome.map f, r.state, r.trace⟩

/-- Goes on with the outcome of a run, in the state where it ended. -/
def resume (r : Run α) (k : Except Stop α → State → Run β) : Run β :=
  let next := k r.outcome r.state
  ⟨next.outcome, next.state, r.trace ++ next.trace⟩

@[simp] theorem resume_ok (v : α) (s : State) (k : Except Stop α → State → Run β) :
    (ok v s).resume k = k (.ok v) s := rfl

@[simp] theorem resume_stop (e : Stop) (s : State) (k : Except Stop α → State → Run β) :
    (stop e s : Run α).resume k = k (.error e) s := rfl

@[simp] theorem outcome_resume (r : Run α) (k : Except Stop α → State → Run β) :
    (r.resume k).outcome = (k r.outcome r.state).outcome := rfl

@[simp] theorem state_resume (r : Run α) (k : Except Stop α → State → Run β) :
    (r.resume k).state = (k r.outcome r.state).state := rfl

@[simp] theorem trace_resume (r : Run α) (k : Except Stop α → State → Run β) :
    (r.resume k).trace = r.trace ++ (k r.outcome r.state).trace := rfl

/-- Going on twice is going on once with both steps. -/
theorem resume_resume (r : Run α) (k : Except Stop α → State → Run β)
    (l : Except Stop β → State → Run γ) :
    (r.resume k).resume l = r.resume fun o s => (k o s).resume l := by
  simp [resume, List.append_assoc]

end Run

/-! ## Parsers -/

/-- A parser of values of a type. -/
def Parser (α : Type) := State → Run α

namespace Parser

variable {α β : Type}

/-- Reads nothing and gives a value. -/
def succeed (v : α) : Parser α := Run.ok v

/-- Reads nothing and fails. -/
def fail (e : ParseError) : Parser α := Run.stop (.failure e)

/-- Reads nothing and stops. -/
def raise (e : Stop) : Parser α := Run.raise e

/-- Goes on with the value.  A stop stays a stop. -/
def andThen (p : Parser α) (f : α → Parser β) : Parser β := fun s =>
  (p s).resume fun
    | .ok v, s' => f v s'
    | .error e, s' => .stop e s'

/-- Goes on with a stop.  A value stays a value. -/
def recover (p : Parser α) (f : Stop → Parser α) : Parser α := fun s =>
  (p s).resume fun
    | .ok v, s' => .ok v s'
    | .error e, s' => f e s'

/-- Goes on with a failure.  Other stops and values stay as they are. -/
def catchFailure (p : Parser α) (f : ParseError → Parser α) : Parser α :=
  p.recover fun
    | .failure e => f e
    | e => Run.stop e

/-- Changes the value by a function that may stop the run. -/
def mapOrStop (p : Parser α) (f : α → Except Stop β) : Parser β :=
  p.andThen fun v =>
    match f v with
    | .ok w => succeed w
    | .error e => raise e

/-- Changes a failure. -/
def mapFailure (p : Parser α) (f : ParseError → ParseError) : Parser α :=
  p.catchFailure fun e => fail (f e)

end Parser

end Descent
