import Descent.Parser.Basic

/-!
# Combinators

What the combinators do with input that a stopped part has read.

* `atomic` puts the cursor back on every stop.  So do the combinators built on
  it: `bind`, `orElse`, `keepRight`, `keepLeft`.
* `lookAhead` puts the cursor back where there is a value.
* `optional` puts the cursor back and gives a value in place of the stop.
* `discard` stays where the stop happened.
* `choice` puts the cursor back on failures only, from the second branch on.
* `context`, `complete`, `firstError` and `secondError` move nothing.

The second branch of `orElse` begins where the first one stopped.  Nothing but
the nesting limit goes through `optional` and `discard`, and every fault they
swallow is noted.
-/

namespace Descent.Parser

variable {α β : Type}

/-! ## Putting the cursor back -/

/-- Puts the cursor back on every stop. -/
def atomic (p : Parser α) : Parser α := fun s =>
  p.recover (fun e s' => .stop e (s'.moveTo s.cursor)) s

@[simp] theorem outcome_atomic (p : Parser α) (s : State) :
    (p.atomic s).outcome = (p s).outcome := by
  simp only [atomic, recover, Run.outcome_resume]
  cases (p s).outcome with
  | ok v => rfl
  | error e => rfl

@[simp] theorem nesting_atomic (p : Parser α) (s : State) :
    (p.atomic s).state.nesting = (p s).state.nesting := by
  simp only [atomic, recover, Run.state_resume]
  cases (p s).outcome with
  | ok v => rfl
  | error e => rfl

@[simp] theorem trace_atomic (p : Parser α) (s : State) : (p.atomic s).trace = (p s).trace := by
  simp only [atomic, recover, Run.trace_resume]
  cases (p s).outcome with
  | ok v => exact List.append_nil _
  | error e => exact List.append_nil _

theorem cursor_atomic_of_ok {p : Parser α} {s : State} {v : α} (h : (p s).outcome = .ok v) :
    (p.atomic s).state.cursor = (p s).state.cursor := by
  simp only [atomic, recover, Run.state_resume, h]
  rfl

theorem cursor_atomic_of_error {p : Parser α} {s : State} {e : Stop}
    (h : (p s).outcome = .error e) : (p.atomic s).state.cursor = s.cursor := by
  simp only [atomic, recover, Run.state_resume, h]
  rfl

/-- Runs the parser that is built from a value. -/
def bind (p : Parser α) (f : α → Parser β) : Parser β := (p.andThen f).atomic

/-- Tries a second parser where the first one failed. -/
def orElse (p q : Parser α) : Parser α :=
  (p.catchFailure fun first => q.mapFailure fun second => .either first second).atomic

/-- Runs two parsers and keeps the second value. -/
def keepRight (p : Parser α) (q : Parser β) : Parser β := (p.andThen fun _ => q).atomic

/-- Runs two parsers and keeps the first value. -/
def keepLeft (p : Parser α) (q : Parser β) : Parser α :=
  (p.andThen fun v => q.andThen fun _ => succeed v).atomic

/-- Gives a value where the input would give it, and reads nothing. -/
def lookAhead (p : Parser α) : Parser α := fun s =>
  p.andThen (fun v s' => .ok v (s'.moveTo s.cursor)) s

/-! ## Going on after a stop -/

/-- Notes that a stop of the named parser was caught, if it is a fault. -/
def noteCaught (catcher : Catcher) (name : String) (e : Stop) (r : Run α) : Run α :=
  match e with
  | .fault f => r.after (.swallowed catcher name f)
  | _ => r

/-- Gives `fallback` where the parser stops, from the place where it began. -/
def optional (name : String) (fallback : α) (p : Parser α) : Parser α := fun s =>
  p.recover (fun e s' =>
    match e with
    | .tooDeep _ => .stop e s'
    | e => noteCaught .optional name e (.ok fallback (s'.moveTo s.cursor))) s

/-- Runs a parser for what it reads, also when it stops. -/
def discard (name : String) (p : Parser α) : Parser Unit :=
  (p.andThen fun _ => succeed ()).recover fun e s' =>
    match e with
    | .tooDeep _ => .stop e s'
    | e => noteCaught .discard name e (.ok () s')

/-! ## Failures -/

/-- Names the region in which a failure happened. -/
def context (label : String) (p : Parser α) : Parser α := p.mapFailure (.context label)

/-- Fails where input is left. -/
def complete (p : Parser α) : Parser α :=
  p.andThen fun v s =>
    if s.cursor.isAtEnd then .ok v s else .stop (.failure (.incomplete s.cursor)) s

/-- Of the failures of two branches, keeps the first. -/
def firstError (p : Parser α) : Parser α :=
  p.mapFailure fun
    | .either first _ => first
    | e => e

/-- Of the failures of two branches, keeps the second. -/
def secondError (p : Parser α) : Parser α :=
  p.mapFailure fun
    | .either _ second => second
    | e => e

/-! ## Lists of parsers -/

/-- Tries the branches in order after a failure.  A branch that fails puts the
cursor back to `start`, and its failure is added to those before it. -/
def otherwise (start : Cursor) (e : ParseError) : List (Parser α) → Parser α
  | [] => fail e
  | p :: ps =>
      p.catchFailure fun e' s => otherwise start (.either e e') ps (s.moveTo start)

/-- Tries several branches in order. -/
def choice (first : Parser α) (others : List (Parser α)) : Parser α := fun s =>
  first.catchFailure (fun e => otherwise s.cursor e others) s

/-- Runs parsers one after the other and collects their values. -/
def chain : List (Parser α) → Parser (List α)
  | [] => succeed []
  | p :: ps => p.andThen fun v => (chain ps).andThen fun vs => succeed (v :: vs)

/-! ## Nesting -/

/-- Stops at the nesting limit. -/
def tooDeep : Parser α := fun s => .stop (.tooDeep s.nesting.limit) s

/-- Runs a parser one level deeper. -/
def nested (p : Parser α) : Parser α := fun s =>
  match s.nesting.enter? with
  | none => tooDeep s
  | some inner =>
      let r := p { s with nesting := inner }
      { r with state := { r.state with nesting := r.state.nesting.leave } }

/-- A refused entry stops at once. -/
theorem nested_of_refused {p : Parser α} {s : State} (refused : s.nesting.enter? = none) :
    p.nested s = .stop (.tooDeep s.nesting.limit) s := by
  simp only [nested, refused]
  rfl

/-- An entry runs the parser one level deeper and leaves that level. -/
theorem nested_of_entered {p : Parser α} {s : State} {inner : Nesting}
    (entered : s.nesting.enter? = some inner) :
    p.nested s =
      let r := p ⟨s.cursor, inner⟩
      ⟨r.outcome, ⟨r.state.cursor, r.state.nesting.leave⟩, r.trace⟩ := by
  simp only [nested, entered]

end Descent.Parser
