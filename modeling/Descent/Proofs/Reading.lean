import Mathlib.Data.List.TakeWhile
import Descent.Parser.Terminal

/-!
# Terminals as readings

A terminal looks at the rest of the input and at nothing else.  What it finds there
is a *reading*: how it ends, how many characters it reads, and what it notes.  A
failure reads nothing, and a reading carries the proof of that.

Every terminal is the parser of a reading (`IsReading`).  So what holds of all
readings holds of all terminals, and no later proof opens one of them.  `number` is
the one terminal that stops with characters read: a fault is no failure.  `decimal`
stops in a fault that its conversion raises, before anything is read.
-/

namespace Descent

/-- What a terminal makes of the rest of the input. -/
structure Reading (α : Type) where
  /-- A value, or why there is none. -/
  outcome : Except Stop α
  /-- The number of characters read. -/
  length : Nat
  /-- What happened. -/
  trace : Trace := []
  /-- A failure reads nothing. -/
  length_of_failure : ∀ e, outcome = .error (.failure e) → length = 0

namespace Reading

variable {α : Type}

/-- A value, after a number of characters. -/
def value (v : α) (n : Nat) : Reading α := ⟨.ok v, n, [], nofun⟩

/-- A stop with nothing read. -/
def stop (e : Stop) (trace : Trace := []) : Reading α := ⟨.error e, 0, trace, fun _ _ => rfl⟩

/-- A fault, after a number of characters. -/
def fault (f : Fault) (n : Nat) : Reading α := ⟨.error (.fault f), n, [.raised f], nofun⟩

/-- The run of a reading from a state. -/
def run (r : Reading α) (s : State) : Run α :=
  ⟨r.outcome, s.moveTo (s.cursor.advance r.length), r.trace⟩

@[simp] theorem outcome_run (r : Reading α) (s : State) : (r.run s).outcome = r.outcome := rfl

@[simp] theorem cursor_run (r : Reading α) (s : State) :
    (r.run s).state.cursor = s.cursor.advance r.length := rfl

theorem run_value (v : α) (n : Nat) (s : State) :
    (value v n).run s = .ok v (s.moveTo (s.cursor.advance n)) := rfl

theorem run_fault (f : Fault) (n : Nat) (s : State) :
    (fault f n : Reading α).run s = .raise (.fault f) (s.moveTo (s.cursor.advance n)) := rfl

theorem run_stop (e : Stop) (t : Trace) (s : State) :
    (stop e t : Reading α).run s = ⟨.error e, s, t⟩ := by
  simp [stop, run]

theorem run_ite (c : Prop) [Decidable c] (r t : Reading α) (s : State) :
    (if c then r else t).run s = if c then r.run s else t.run s := by
  split <;> rfl

end Reading

namespace Parser

variable {α : Type}

/-- The parser does what a reading of the rest says. -/
def IsReading (p : Parser α) : Prop :=
  ∃ look : List Char → Reading α, ∀ s, p s = (look s.cursor.rest).run s

/-! ## Constant parsers -/

theorem isReading_succeed (v : α) : IsReading (succeed v) := by
  refine ⟨fun _ => .value v 0, fun s => ?_⟩
  rw [Reading.run_value, Cursor.advance_zero]
  rfl

theorem isReading_fail (e : ParseError) : IsReading (fail e : Parser α) := by
  refine ⟨fun _ => .stop (.failure e), fun s => ?_⟩
  rw [Reading.run_stop]
  rfl

theorem isReading_raise (e : Stop) : IsReading (raise e : Parser α) := by
  cases e with
  | failure e =>
      refine ⟨fun _ => .stop (.failure e), fun s => ?_⟩
      rw [Reading.run_stop]
      rfl
  | tooDeep limit =>
      refine ⟨fun _ => .stop (.tooDeep limit), fun s => ?_⟩
      rw [Reading.run_stop]
      rfl
  | fault f =>
      refine ⟨fun _ => .stop (.fault f) [.raised f], fun s => ?_⟩
      rw [Reading.run_stop]
      rfl

/-! ## Literals and classes -/

/-- What `token` makes of the rest. -/
def tokenReading (text : String) (rest : List Char) : Reading String :=
  if text.toList.isPrefixOf rest then .value text text.length
  else .stop (.failure (.token (.one text)))

theorem isReading_token (text : String) : IsReading (token text) := by
  refine ⟨tokenReading text, fun s => ?_⟩
  rw [tokenReading, Reading.run_ite, Reading.run_value, Reading.run_stop]
  rfl

/-- What `satisfy` makes of the rest. -/
def satisfyReading (p : Char → Bool) : List Char → Reading Char
  | c :: _ => if p c then .value c 1 else .stop (.failure .satisfying)
  | [] => .stop (.failure .satisfying)

theorem isReading_satisfy (p : Char → Bool) : IsReading (satisfy p) := by
  refine ⟨satisfyReading p, fun s => ?_⟩
  unfold satisfy
  cases s.cursor.rest with
  | nil =>
      rw [satisfyReading, Reading.run_stop]
      rfl
  | cons c rest =>
      rw [satisfyReading, Reading.run_ite, Reading.run_value, Reading.run_stop]
      rfl

/-- What `span` makes of the rest. -/
def spanReading (p : Char → Bool) (allowEmpty : Bool) (e : ParseError) (rest : List Char) :
    Reading String :=
  let run := rest.takeWhile p
  if run.isEmpty ∧ ¬ allowEmpty then .stop (.failure e)
  else .value (String.ofList run) run.length

theorem isReading_span (p : Char → Bool) (allowEmpty : Bool) (e : ParseError) :
    IsReading (span p allowEmpty e) := by
  refine ⟨spanReading p allowEmpty e, fun s => ?_⟩
  rw [spanReading, Reading.run_ite, Reading.run_value, Reading.run_stop]
  rfl

/-! ## Numbers -/

/-- What `number` makes of the rest. -/
def numberReading (rest : List Char) : Reading Int :=
  let negative := rest.head? == some '-'
  let sign := if negative then 1 else 0
  let run := (rest.drop sign).takeWhile Char.isDigit
  if run.isEmpty then .stop (.failure .number)
  else if Fault.maxDigits < run.length then .fault (.tooManyDigits run.length) (sign + run.length)
  else
    let value : Int := Nat.ofDigitChars 10 run 0
    .value (if negative then -value else value) (sign + run.length)

/-- A cursor that may have stepped over a sign has stepped over none or one
character. -/
theorem advance_sign (negative : Bool) (c : Cursor) :
    (if negative then c.advance 1 else c) = c.advance (if negative then 1 else 0) := by
  cases negative with
  | true => rfl
  | false => exact (c.advance_zero).symm

theorem number_eq (s : State) : number s = (numberReading s.cursor.rest).run s := by
  simp only [numberReading, Reading.run_ite, Reading.run_stop, Reading.run_fault,
    Reading.run_value, ← Cursor.advance_advance, ← advance_sign]
  simp only [number, Cursor.takeWhile, advance_sign, Cursor.rest_advance]
  rfl

theorem isReading_number : IsReading number := ⟨numberReading, number_eq⟩

/-- A text begins with a number of too many digits: a minus sign or none, and a run of
more digits than a number is read from. -/
structure TooManyDigits (sign digits rest : List Char) : Prop where
  /-- There may be a minus sign. -/
  sign : sign = [] ∨ sign = ['-']
  /-- The digits are digits. -/
  isDigit : ∀ x ∈ digits, x.isDigit = true
  /-- They are too many. -/
  lt_length : Fault.maxDigits < digits.length
  /-- They are the whole run. -/
  stop : ∀ x ∈ rest.head?, x.isDigit = false

/-- A text is what `number` takes for its sign, and the text after it. -/
theorem exists_sign (text : List Char) :
    ∃ sign : List Char, (sign = [] ∨ sign = ['-']) ∧
      sign.length = (if text.head? == some '-' then 1 else 0) ∧
      text = sign ++ text.drop sign.length := by
  by_cases negative : text.head? = some '-'
  · obtain ⟨rest, rfl⟩ : ∃ rest, text = '-' :: rest := by
      cases text with
      | nil => cases negative
      | cons x rest => exact ⟨rest, by simpa using negative⟩
    exact ⟨['-'], .inr rfl, rfl, rfl⟩
  · refine ⟨[], .inl rfl, ?_, rfl⟩
    rw [if_neg (by simpa using negative)]
    rfl

/-- Behind a run of a class comes a character that is not in the class. -/
theorem mem_head?_dropWhile {c : Char → Bool} {text : List Char} :
    ∀ x ∈ (text.dropWhile c).head?, c x = false := by
  intro x hx
  have other := List.head?_dropWhile_not c text
  rwa [Option.mem_def.mp hx] at other

/-- How `number` ends: without digits, with too many of them, or with a value. -/
theorem number_cases (s : State) :
    number s = .stop (.failure .number) s ∨
      (∃ sign digits rest, s.cursor.rest = sign ++ (digits ++ rest) ∧
        TooManyDigits sign digits rest ∧
        number s = .raise (.fault (.tooManyDigits digits.length))
          (s.moveTo (s.cursor.advance (sign.length + digits.length)))) ∨
      ∃ v n, number s = .ok v (s.moveTo (s.cursor.advance n)) := by
  obtain ⟨sign, form, length, split⟩ := exists_sign s.cursor.rest
  have run := (s.cursor.rest.drop sign.length).takeWhile_append_dropWhile (p := Char.isDigit)
  simp only [number_eq, numberReading, Reading.run_ite, Reading.run_stop, ← length]
  split
  next none => exact .inl rfl
  next some =>
    right
    split
    next tooMany =>
      refine .inl ⟨sign, _, _, split.trans (congrArg (sign ++ ·) run.symm), ?_, rfl⟩
      exact ⟨form, fun x hx => List.mem_takeWhile_imp hx, tooMany, mem_head?_dropWhile⟩
    next few => exact .inr ⟨_, _, Reading.run_value _ _ s⟩

/-- What `decimal` makes of a numeral of so many characters, once it has been converted. -/
def convertedReading (locale numeral : String) (length : Nat) :
    Except Fault Decimal → Reading Decimal
  | .ok value => .value value length
  | .error f =>
      if f.kind ∈ rejectedKinds then
        .stop (.failure .number) [.rejectedNumeral numeral locale f.message]
      else .stop (.fault f) [.raised f]

/-- What `decimal` makes of the rest behind a sign of so many characters, if there is one. -/
def unsignedReading (locale : String) (symbols : NumberSymbols) (convert : Conversion)
    (sign : Nat) (signed : Bool) (unsigned : List Char) : Reading Decimal :=
  if (unsigned.head?.map Char.isDigit).getD false then
    let body := numeralBody symbols unsigned
    let numeral := candidate signed body
    convertedReading locale numeral (sign + body.length) (convert numeral)
  else .stop (.failure .number)

/-- What `decimal` makes of the rest. -/
def decimalReading (locale : String) (symbols : NumberSymbols) (convert : Conversion)
    (rest : List Char) : Reading Decimal :=
  let sign := ([symbols.minus, "-"].find? fun m => m.toList.isPrefixOf rest).getD ""
  unsignedReading locale symbols convert sign.length (!sign.isEmpty) (rest.drop sign.length)

theorem decimal_eq (locale : String) (symbols : NumberSymbols) (convert : Conversion)
    (s : State) :
    decimal locale symbols convert s =
      (decimalReading locale symbols convert s.cursor.rest).run s := by
  have hfind : s.cursor.startsWith = fun m => m.toList.isPrefixOf s.cursor.rest := rfl
  simp only [decimal, decimalReading, unsignedReading, hfind, Reading.run_ite, Reading.run_stop,
    Cursor.rest_advance, Cursor.advance_advance]
  generalize ([symbols.minus, "-"].find? fun m => m.toList.isPrefixOf s.cursor.rest).getD "" = sign
  generalize candidate (!sign.isEmpty)
    (numeralBody symbols (s.cursor.rest.drop sign.length)) = numeral
  cases convert numeral with
  | ok v => rfl
  | error f =>
      simp only [convertedReading, Reading.run_ite, Reading.run_stop]
      rfl

theorem isReading_decimal (locale : String) (symbols : NumberSymbols) (convert : Conversion) :
    IsReading (decimal locale symbols convert) :=
  ⟨decimalReading locale symbols convert, decimal_eq locale symbols convert⟩

/-- What counts as a failure are the refusals. -/
theorem mem_rejectedKinds_iff {f : Fault} : f.kind ∈ rejectedKinds ↔ f.IsRefusal := by
  simp [rejectedKinds, Fault.IsRefusal]

/-- How `decimal` ends: with the value of a conversion, in a failure, or in a fault that the
conversion has raised and that is no refusal. -/
theorem decimal_cases (locale : String) (symbols : NumberSymbols) (convert : Conversion)
    (s : State) :
    (∃ v n, decimal locale symbols convert s = .ok v (s.moveTo (s.cursor.advance n))) ∨
      decimal locale symbols convert s = .stop (.failure .number) s ∨
      (∃ numeral f, convert numeral = .error f ∧ f.IsRefusal ∧
        decimal locale symbols convert s = (Run.stop (.failure .number) s).after
          (.rejectedNumeral numeral locale f.message)) ∨
      ∃ numeral f, convert numeral = .error f ∧ ¬ f.IsRefusal ∧
        decimal locale symbols convert s = .raise (.fault f) s := by
  unfold decimal
  dsimp only
  split
  next =>
    split
    next =>
      rw [Cursor.advance_advance]
      exact .inl ⟨_, _, rfl⟩
    next f raised =>
      split
      next rejected =>
        exact .inr (.inr (.inl ⟨_, f, raised, mem_rejectedKinds_iff.mp rejected, rfl⟩))
      next other => exact .inr (.inr (.inr ⟨_, f, raised, mt mem_rejectedKinds_iff.mpr other, rfl⟩))
  next => exact .inr (.inl rfl)

/-! ## Terminals without faults -/

/-- The parser ends with a value, or it fails with nothing read. -/
def ReadsOrFails (p : Parser α) : Prop :=
  ∀ s, (∃ v n, p s = .ok v (s.moveTo (s.cursor.advance n))) ∨ ∃ e, p s = .stop (.failure e) s

theorem readsOrFails_succeed (v : α) : ReadsOrFails (succeed v) := by
  refine fun s => .inl ⟨v, 0, ?_⟩
  rw [Cursor.advance_zero]
  rfl

theorem readsOrFails_fail (e : ParseError) : ReadsOrFails (fail e : Parser α) :=
  fun _ => .inr ⟨e, rfl⟩

theorem readsOrFails_token (text : String) : ReadsOrFails (token text) := by
  intro s
  rw [token]
  split
  · exact .inl ⟨_, _, rfl⟩
  · exact .inr ⟨_, rfl⟩

theorem readsOrFails_satisfy (p : Char → Bool) : ReadsOrFails (satisfy p) := by
  intro s
  unfold satisfy
  split
  · split
    · exact .inl ⟨_, _, rfl⟩
    · exact .inr ⟨_, rfl⟩
  · exact .inr ⟨_, rfl⟩

theorem readsOrFails_span (p : Char → Bool) (allowEmpty : Bool) (e : ParseError) :
    ReadsOrFails (span p allowEmpty e) := by
  intro s
  rw [span]
  split
  · exact .inr ⟨_, rfl⟩
  · exact .inl ⟨_, _, rfl⟩

end Parser

end Descent
