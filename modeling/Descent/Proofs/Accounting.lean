import Descent.Proofs.Forward

/-!
# Where faults come from and where they go

A fault is raised by a function under `map`, by a builder under `bind`, by the conversion of a
`decimal`, or by `number`.  A conversion that refuses its numeral does not count: this is a
failure.  From there a fault goes up through the combinators, and only `optional`, `discard` and
`many` go on after it.  Each of them notes the fault that it swallows.

So every fault has one of two ends: it is swallowed with a record, or the run ends in it.
No fault is lost on the way and none is recorded twice.  As at most one fault is under way
at any time, the faults raised are those swallowed and then the one that the run ends in, in
this very order (`run_accounts`).

What is carried through a run is the same for a run that goes on after a fault.  The fault
is *pending* then, and it is accounted for together with those raised later (`Run.Accounts`).
Beside it stands where each fault came from: a function, a builder or a conversion, or a number
at a place that is not before the start.
-/

namespace Descent

/-! ## Faults in traces -/

/-- A combinator went on after a fault. -/
def Event.isSwallowed : Event → Bool
  | swallowed _ _ _ => true
  | _ => false

namespace Trace

/-- The faults raised, in order. -/
def raised (t : Trace) : List Fault :=
  t.filterMap fun
    | .raised f => some f
    | _ => none

/-- The faults swallowed, in order. -/
def swallowed (t : Trace) : List Fault :=
  t.filterMap fun
    | .swallowed _ _ f => some f
    | _ => none

/-- The records of the faults swallowed, in order. -/
def swallowedLog (t : Trace) : List Record := log (t.filter Event.isSwallowed)

@[simp] theorem raised_append (t t' : Trace) : raised (t ++ t') = t.raised ++ t'.raised :=
  List.filterMap_append

@[simp] theorem swallowed_append (t t' : Trace) :
    swallowed (t ++ t') = t.swallowed ++ t'.swallowed :=
  List.filterMap_append

/-- Each fault swallowed has its record. -/
theorem length_swallowedLog (t : Trace) : t.swallowedLog.length = t.swallowed.length := by
  induction t with
  | nil => rfl
  | cons e t ih =>
      cases e with
      | swallowed catcher name f => exact congrArg (· + 1) ih
      | _ => exact ih

theorem swallowedLog_sublist (t : Trace) : t.swallowedLog.Sublist t.log :=
  (List.filter_sublist).filterMap _

theorem exists_of_mem_swallowedLog {t : Trace} {record : Record}
    (h : record ∈ t.swallowedLog) : ∃ (catcher : Catcher) (name : String), ∃ f ∈ t.swallowed,
      record = ⟨.debug, .parsing, catcher.name ++ "(" ++ name ++ ") swallowed " ++
        f.kind.name ++ ": " ++ f.message⟩ := by
  obtain ⟨e, he, written⟩ := List.mem_filterMap.mp h
  obtain ⟨mem, isSwallowed⟩ := List.mem_filter.mp he
  cases e with
  | swallowed catcher name f =>
      exact ⟨catcher, name, f, List.mem_filterMap.mpr ⟨_, mem, rfl⟩, (Option.some.inj written).symm⟩
  | _ => cases isSwallowed

end Trace

/-- The fault in a stop, if there is one. -/
def Stop.faults : Stop → List Fault
  | fault f => [f]
  | _ => []

/-- The fault in an outcome, if there is one. -/
def escaping {α : Type} : Except Stop α → List Fault
  | .ok _ => []
  | .error e => e.faults

theorem mem_escaping {α : Type} {f : Fault} {o : Except Stop α} :
    f ∈ escaping o ↔ o = .error (.fault f) := by
  cases o using outcome_cases with
  | ok v => simp [escaping]
  | failure e => simp [escaping, Stop.faults]
  | tooDeep limit => simp [escaping, Stop.faults]
  | fault g => simp [escaping, Stop.faults, eq_comm]

/-- A fault comes from outside the grammar, where `own` holds of it, or from a number that
begins at a place or behind it. -/
def Fault.ComesFrom (own : Fault → Prop) (c : Cursor) (f : Fault) : Prop :=
  own f ∨ ∃ s : State, c ≤ s.cursor ∧ (Parser.number s).outcome = .error (.fault f)

/-! ## Runs -/

namespace Run

variable {α β : Type} {own : Fault → Prop} {c : Cursor} {pending : List Fault} {s : State}

/-- A run that ends at a place or behind it.  Each fault that was pending or was raised in it
is swallowed in it or ends it, and those raised have come from where they may. -/
structure Accounts (own : Fault → Prop) (c : Cursor) (pending : List Fault) (r : Run α) :
    Prop where
  ahead : c ≤ r.state.cursor
  balance : pending ++ r.trace.raised = r.trace.swallowed ++ escaping r.outcome
  origin : ∀ f ∈ r.trace.raised, f.ComesFrom own c

theorem accounts_ok (v : α) (h : c ≤ s.cursor) : (ok v s).Accounts own c [] :=
  ⟨h, rfl, nofun⟩

theorem accounts_stop (e : Stop) (h : c ≤ s.cursor) :
    (stop e s : Run α).Accounts own c e.faults :=
  ⟨h, List.append_nil _, nofun⟩

theorem accounts_failure (e : ParseError) (h : c ≤ s.cursor) :
    (stop (.failure e) s : Run α).Accounts own c [] :=
  accounts_stop (.failure e) h

theorem accounts_raise (e : Stop) (h : c ≤ s.cursor)
    (he : ∀ f, e = .fault f → f.ComesFrom own c) : (raise e s : Run α).Accounts own c [] := by
  cases e with
  | failure e => exact accounts_failure e h
  | tooDeep limit => exact accounts_stop (.tooDeep limit) h
  | fault f =>
      refine ⟨h, rfl, fun g hg => ?_⟩
      cases List.mem_singleton.mp hg
      exact he f rfl

/-- Events that are not about faults do not count. -/
theorem Accounts.after {r : Run α} {e : Event} (h : r.Accounts own c pending)
    (raised : Trace.raised [e] = []) (swallowed : Trace.swallowed [e] = []) :
    (r.after e).Accounts own c pending := by
  have hr : Trace.raised (e :: r.trace) = r.trace.raised := by
    rw [← List.singleton_append, Trace.raised_append, raised, List.nil_append]
  have hs : Trace.swallowed (e :: r.trace) = r.trace.swallowed := by
    rw [← List.singleton_append, Trace.swallowed_append, swallowed, List.nil_append]
  refine ⟨h.ahead, ?_, ?_⟩
  · rw [Run.after, hr, hs]
    exact h.balance
  · rw [Run.after, hr]
    exact h.origin

/-- The note about a caught fault accounts for it. -/
theorem Accounts.noteCaught {r : Run α} (h : r.Accounts own c []) (catcher : Catcher)
    (name : String) (e : Stop) : (Parser.noteCaught catcher name e r).Accounts own c e.faults := by
  cases e with
  | failure e => exact h
  | tooDeep limit => exact h
  | fault f => exact ⟨h.ahead, congrArg (f :: ·) h.balance, h.origin⟩

theorem Accounts.map {r : Run α} (h : r.Accounts own c pending) (f : α → β) :
    (r.map f).Accounts own c pending := by
  refine ⟨h.ahead, ?_, h.origin⟩
  have same : escaping (r.outcome.map f) = escaping r.outcome := by cases r.outcome <;> rfl
  rw [Run.map, same]
  exact h.balance

/-- Where a run goes on, the fault in its outcome is pending. -/
theorem Accounts.resume {r : Run α} {k : Except Stop α → State → Run β}
    (h : r.Accounts own c pending)
    (hk : ∀ o t, c ≤ t.cursor → (k o t).Accounts own c (escaping o)) :
    (r.resume k).Accounts own c pending := by
  have next := hk r.outcome r.state h.ahead
  refine ⟨next.ahead, ?_, ?_⟩
  · calc pending ++ (r.resume k).trace.raised
        = (pending ++ r.trace.raised) ++ (k r.outcome r.state).trace.raised := by
          rw [trace_resume, Trace.raised_append, List.append_assoc]
      _ = r.trace.swallowed ++ (escaping r.outcome ++ (k r.outcome r.state).trace.raised) := by
          rw [h.balance, List.append_assoc]
      _ = (r.resume k).trace.swallowed ++ escaping (r.resume k).outcome := by
          rw [next.balance, trace_resume, Trace.swallowed_append, List.append_assoc,
            outcome_resume]
  · intro f hf
    rw [trace_resume, Trace.raised_append, List.mem_append] at hf
    exact hf.elim (h.origin f) (next.origin f)

end Run

/-! ## Parsers -/

namespace Parser

variable {α β : Type} {own : Fault → Prop} {c : Cursor}

/-- From a place on, every run accounts for its faults. -/
def Accounts (own : Fault → Prop) (c : Cursor) (p : Parser α) : Prop :=
  ∀ s, c ≤ s.cursor → (p s).Accounts own c []

theorem accounts_raise {e : Stop} (he : ∀ f, e = .fault f → own f) :
    (raise e : Parser α).Accounts own c :=
  fun _ h => Run.accounts_raise e h fun f hf => .inl (he f hf)

/-! ### Terminals -/

theorem ReadsOrFails.accounts {p : Parser α} (hp : p.ReadsOrFails) : p.Accounts own c := by
  intro s h
  obtain ⟨v, n, some⟩ | ⟨e, none⟩ := hp s
  · rw [some]
    exact Run.accounts_ok v (le_trans h (Cursor.le_advance _ _))
  · rw [none]
    exact Run.accounts_failure e h

theorem accounts_succeed (v : α) : (succeed v).Accounts own c := (readsOrFails_succeed v).accounts

theorem accounts_fail (e : ParseError) : (fail e : Parser α).Accounts own c :=
  (readsOrFails_fail e).accounts

/-- A fault of `number` comes from the place where it begins. -/
theorem accounts_number : number.Accounts own c := by
  intro s h
  have noted : (number s).trace.raised = escaping (number s).outcome ∧
      (number s).trace.swallowed = [] := by
    obtain none | ⟨_, _, _, -, -, tooMany⟩ | ⟨v, n, some⟩ := number_cases s
    · rw [none]
      exact ⟨rfl, rfl⟩
    · rw [tooMany]
      exact ⟨rfl, rfl⟩
    · rw [some]
      exact ⟨rfl, rfl⟩
  refine ⟨le_trans h (isReading_number.forward s).1, ?_, fun f hf => .inr ⟨s, h, ?_⟩⟩
  · rw [noted.1, noted.2]
  · rwa [noted.1, mem_escaping] at hf

/-- A conversion that refuses its numeral has raised nothing that counts. -/
theorem accounts_decimal (locale : String) (symbols : NumberSymbols) {convert : Conversion}
    (raises : ∀ numeral f, convert numeral = .error f → f.IsRefusal ∨ own f) :
    (decimal locale symbols convert).Accounts own c := by
  intro s h
  obtain ⟨v, n, some⟩ | none | ⟨_, _, -, -, rejected⟩ | ⟨numeral, f, raised, other, run⟩ :=
    decimal_cases locale symbols convert s
  · rw [some]
    exact Run.accounts_ok v (le_trans h (Cursor.le_advance _ _))
  · rw [none]
    exact Run.accounts_failure _ h
  · rw [rejected]
    exact (Run.accounts_failure _ h).after rfl rfl
  · rw [run]
    refine Run.accounts_raise _ h fun g hg => .inl ?_
    cases hg
    exact (raises numeral f raised).resolve_left other

/-! ### Going on -/

theorem Accounts.andThen {p : Parser α} {f : α → Parser β} (hp : p.Accounts own c)
    (hf : ∀ v, (f v).Accounts own c) : (p.andThen f).Accounts own c := by
  intro s h
  refine (hp s h).resume fun o t ht => ?_
  cases o with
  | ok v => exact hf v t ht
  | error e => exact Run.accounts_stop e ht

/-- What recovers from a fault has the fault pending. -/
theorem Accounts.recover {p : Parser α} {f : Stop → Parser α} (hp : p.Accounts own c)
    (hf : ∀ e t, c ≤ t.cursor → (f e t).Accounts own c e.faults) :
    (p.recover f).Accounts own c := by
  intro s h
  refine (hp s h).resume fun o t ht => ?_
  cases o with
  | ok v => exact Run.accounts_ok v ht
  | error e => exact hf e t ht

theorem Accounts.catchFailure {p : Parser α} {f : ParseError → Parser α} (hp : p.Accounts own c)
    (hf : ∀ e, (f e).Accounts own c) : (p.catchFailure f).Accounts own c := by
  refine hp.recover fun e t ht => ?_
  cases e with
  | failure e => exact hf e t ht
  | tooDeep limit => exact Run.accounts_stop (.tooDeep limit) ht
  | fault f => exact Run.accounts_stop (.fault f) ht

theorem Accounts.mapOrStop {p : Parser α} {f : α → Except Stop β} (hp : p.Accounts own c)
    (hf : ∀ v fault, f v = .error (.fault fault) → own fault) :
    (p.mapOrStop f).Accounts own c := by
  refine hp.andThen fun v => ?_
  cases hv : f v with
  | ok w => exact accounts_succeed w
  | error e => exact accounts_raise fun fault he => hf v fault (by rw [hv, he])

theorem Accounts.mapFailure {p : Parser α} (hp : p.Accounts own c)
    (f : ParseError → ParseError) : (p.mapFailure f).Accounts own c :=
  hp.catchFailure fun e => accounts_fail (f e)

/-! ### Putting the cursor back -/

theorem Accounts.atomic {p : Parser α} (hp : p.Accounts own c) : p.atomic.Accounts own c := by
  intro s h
  exact hp.recover (f := fun e t => .stop e (t.moveTo s.cursor))
    (fun e _ _ => Run.accounts_stop e h) s h

theorem Accounts.bind {p : Parser α} {f : α → Parser β} (hp : p.Accounts own c)
    (hf : ∀ v, (f v).Accounts own c) : (p.bind f).Accounts own c :=
  (hp.andThen hf).atomic

theorem Accounts.orElse {p q : Parser α} (hp : p.Accounts own c) (hq : q.Accounts own c) :
    (p.orElse q).Accounts own c :=
  (hp.catchFailure fun _ => hq.mapFailure _).atomic

theorem Accounts.keepRight {p : Parser α} {q : Parser β} (hp : p.Accounts own c)
    (hq : q.Accounts own c) : (p.keepRight q).Accounts own c :=
  (hp.andThen fun _ => hq).atomic

theorem Accounts.keepLeft {p : Parser α} {q : Parser β} (hp : p.Accounts own c)
    (hq : q.Accounts own c) : (p.keepLeft q).Accounts own c :=
  (hp.andThen fun v => hq.andThen fun _ => accounts_succeed v).atomic

theorem Accounts.lookAhead {p : Parser α} (hp : p.Accounts own c) :
    p.lookAhead.Accounts own c := by
  intro s h
  exact hp.andThen (f := fun v t => .ok v (t.moveTo s.cursor))
    (fun v _ _ => Run.accounts_ok v h) s h

/-! ### Going on after a stop -/

theorem Accounts.optional {p : Parser α} (hp : p.Accounts own c) (name : String)
    (fallback : α) : (p.optional name fallback).Accounts own c := by
  intro s h
  refine hp.recover (fun e t ht => ?_) s h
  have back : (Run.ok fallback (t.moveTo s.cursor)).Accounts own c [] := Run.accounts_ok _ h
  cases e with
  | failure e => exact back.noteCaught .optional name (.failure e)
  | tooDeep limit => exact Run.accounts_stop (.tooDeep limit) ht
  | fault f => exact back.noteCaught .optional name (.fault f)

theorem Accounts.discard {p : Parser α} (hp : p.Accounts own c) (name : String) :
    (p.discard name).Accounts own c := by
  refine (hp.andThen fun _ => accounts_succeed ()).recover fun e t ht => ?_
  have here : (Run.ok () t).Accounts own c [] := Run.accounts_ok _ ht
  cases e with
  | failure e => exact here.noteCaught .discard name (.failure e)
  | tooDeep limit => exact Run.accounts_stop (.tooDeep limit) ht
  | fault f => exact here.noteCaught .discard name (.fault f)

/-! ### Failures -/

theorem Accounts.complete {p : Parser α} (hp : p.Accounts own c) : p.complete.Accounts own c := by
  refine hp.andThen fun v t ht => ?_
  split
  · exact Run.accounts_ok v ht
  · exact Run.accounts_failure _ ht

/-! ### Lists of parsers -/

theorem accounts_otherwise {start : Cursor} (hstart : c ≤ start) {ps : List (Parser α)}
    (hps : ∀ p ∈ ps, p.Accounts own c) : ∀ e, (otherwise start e ps).Accounts own c := by
  induction ps with
  | nil => exact fun e => accounts_fail e
  | cons p ps ih =>
      intro e
      exact (hps p (.head _)).catchFailure fun e' t _ =>
        ih (fun q hq => hps q (.tail _ hq)) _ _ hstart

theorem Accounts.choice {p : Parser α} {ps : List (Parser α)} (hp : p.Accounts own c)
    (hps : ∀ q ∈ ps, q.Accounts own c) : (p.choice ps).Accounts own c :=
  fun s h => hp.catchFailure (fun e => accounts_otherwise h hps e) s h

theorem Accounts.chain {ps : List (Parser α)} (hps : ∀ p ∈ ps, p.Accounts own c) :
    (chain ps).Accounts own c := by
  induction ps with
  | nil => exact accounts_succeed []
  | cons p ps ih =>
      have rest : (Parser.chain ps).Accounts own c := ih fun q hq => hps q (.tail _ hq)
      exact (hps p (.head _)).andThen fun v => rest.andThen fun vs => accounts_succeed (v :: vs)

/-! ### Repetition -/

theorem Accounts.many {p : Parser α} (hp : p.Accounts own c) (name : String)
    (allowEmpty : Bool) : Accounts own c (p.many name allowEmpty) := by
  intro s
  induction allowEmpty, s using many.induct with
  | case1 allowEmpty s ih =>
      intro h
      rw [Parser.many]
      refine (hp s h).resume fun o t ht => ?_
      have none : (Run.ok ([] : List α) t).Accounts own c [] := Run.accounts_ok _ ht
      cases o using outcome_cases with
      | ok v =>
          dsimp only
          split
          next progress => exact (ih t progress ht).map _
          next stalled => exact (Run.accounts_ok _ ht).after rfl rfl
      | failure e =>
          dsimp only
          split
          · exact none.noteCaught .many name (.failure e)
          · exact Run.accounts_failure e ht
      | tooDeep limit => exact Run.accounts_stop (.tooDeep limit) ht
      | fault f =>
          dsimp only
          split
          · exact none.noteCaught .many name (.fault f)
          · exact Run.accounts_stop (.fault f) ht

theorem Accounts.rounds {p : Parser α} {separator : Parser β} (hp : p.Accounts own c)
    (hsep : separator.Accounts own c) (name : String) (o : SequenceOptions) :
    Accounts own c (rounds name o p separator) := by
  intro s
  induction s using rounds.induct with
  | case1 s atEnd =>
      intro h
      rw [Parser.rounds, if_pos atEnd]
      exact Run.accounts_ok [] h
  | case2 s notAtEnd ih =>
      intro h
      rw [Parser.rounds, if_neg notAtEnd]
      refine (hsep s h).resume fun separated t ht => ?_
      cases separated using outcome_cases with
      | failure e => exact Run.accounts_ok [] h
      | tooDeep limit => exact Run.accounts_stop (.tooDeep limit) ht
      | fault f => exact Run.accounts_stop (.fault f) ht
      | ok w =>
          refine (hp t ht).resume fun element u hu => ?_
          cases element using outcome_cases with
          | ok v =>
              dsimp only
              split
              next progress => exact (ih u progress hu).map _
              next stalled => exact (Run.accounts_ok _ hu).after rfl rfl
          | failure e =>
              dsimp only
              split
              next keep => exact Run.accounts_ok [] hu
              next back => exact Run.accounts_ok [] h
          | tooDeep limit => exact Run.accounts_stop (.tooDeep limit) hu
          | fault f => exact Run.accounts_stop (.fault f) hu

theorem Accounts.sequence {p : Parser α} {separator : Parser β} (hp : p.Accounts own c)
    (hsep : separator.Accounts own c) (name : String) (o : SequenceOptions) :
    (p.sequence name o separator).Accounts own c := by
  intro s h
  refine (hp s h).resume fun first t ht => ?_
  cases first using outcome_cases with
  | ok v => exact (hp.rounds hsep name o t ht).map _
  | failure e =>
      dsimp only
      split
      · exact Run.accounts_ok [] ht
      · exact Run.accounts_failure e ht
  | tooDeep limit => exact Run.accounts_stop (.tooDeep limit) ht
  | fault f => exact Run.accounts_stop (.fault f) ht

theorem accounts_scan {terminator : Parser α} (ht : terminator.Accounts own c) (o : ScanOptions)
    {start : Cursor} (hstart : c ≤ start) : Accounts own c (scan o terminator start) := by
  intro s
  induction s using scan.induct o start with
  | case1 s atEnd allowed =>
      intro h
      rw [scan, if_pos atEnd, if_pos allowed]
      exact Run.accounts_ok _ h
  | case2 s atEnd notAllowed =>
      intro h
      rw [scan, if_pos atEnd, if_neg notAllowed]
      exact Run.accounts_failure _ hstart
  | case3 s notAtEnd ih =>
      intro h
      rw [scan, if_neg notAtEnd]
      refine (ht s h).resume fun stopped t h' => ?_
      cases stopped using outcome_cases with
      | ok v =>
          dsimp only
          split
          next empty => exact Run.accounts_failure _ hstart
          next found =>
            cases o.consume with
            | true => exact Run.accounts_ok _ h'
            | false => exact Run.accounts_ok _ h
      | failure e => exact ih t (le_trans h (Cursor.le_advance _ _))
      | tooDeep limit => exact Run.accounts_stop (.tooDeep limit) h'
      | fault f => exact Run.accounts_stop (.fault f) h'

theorem Accounts.upTo {terminator : Parser α} (ht : terminator.Accounts own c)
    (o : ScanOptions) : (terminator.upTo o).Accounts own c :=
  fun s h => accounts_scan ht o h s h

/-! ### Nesting -/

theorem accounts_tooDeep : (tooDeep : Parser α).Accounts own c :=
  fun _ h => Run.accounts_stop (.tooDeep _) h

theorem Accounts.nested {p : Parser α} (hp : p.Accounts own c) : p.nested.Accounts own c := by
  intro s h
  cases entered : s.nesting.enter? with
  | none =>
      rw [nested_of_refused entered]
      exact accounts_tooDeep s h
  | some inner =>
      rw [nested_of_entered entered]
      have inside := hp ⟨s.cursor, inner⟩ h
      exact ⟨inside.ahead, inside.balance, inside.origin⟩

end Parser

/-! ## Grammars -/

namespace Grammar

variable {ι : Type} {τ : ι → Type} {α : Type} {own : Fault → Prop} {c : Cursor}

/-- Of the faults that functions, builders and conversions of a grammar raise, `own` holds.  A
conversion may refuse a numeral all the same. -/
def RaisesOnly (own : Fault → Prop) {α : Type} : Grammar τ α → Prop
  | pure _ _ | fail _ | token _ | satisfy _ | satisfyRun _ _ | blanks _ | number | rule _ _ => True
  | decimal _ _ convert =>
      ∀ numeral f, convert numeral = .error f → f.IsRefusal ∨ own f
  | raise e => ∀ f, e = .fault f → own f
  | map p f => p.RaisesOnly own ∧ ∀ v fault, f v = .error (.fault fault) → own fault
  | bind p f => p.RaisesOnly own ∧ ∀ v, (f v).RaisesOnly own
  | orElse p q | keepRight p q | keepLeft p q | separated p q _ =>
      p.RaisesOnly own ∧ q.RaisesOnly own
  | upTo p _ | atomic p | lookAhead p | optional p _ | discard p | many p _ | context p _
  | complete p | firstError p | secondError p | named p _ => p.RaisesOnly own
  | choice branches => ∀ i, (branches i).RaisesOnly own
  | chain parts => ∀ i, (parts i).RaisesOnly own

theorem raisesOnly_true (p : Grammar τ α) : p.RaisesOnly fun _ => True := by
  induction p with
  | pure | fail | token | satisfy | satisfyRun | blanks | number | rule => trivial
  | decimal locale symbols convert => exact fun _ _ _ => .inr trivial
  | raise e => exact fun _ _ => trivial
  | map p f ih => exact ⟨ih, fun _ _ _ => trivial⟩
  | bind p f ihp ihf => exact ⟨ihp, ihf⟩
  | orElse p q ihp ihq | keepRight p q ihp ihq | keepLeft p q ihp ihq
  | separated p q _ ihp ihq => exact ⟨ihp, ihq⟩
  | upTo _ _ ih | atomic _ ih | lookAhead _ ih | optional _ _ ih | discard _ ih | many _ _ ih
  | context _ _ ih | complete _ ih | firstError _ ih | secondError _ ih | named _ _ ih =>
      exact ih
  | choice branches ih => exact ih
  | chain parts ih => exact ih

/-- Over rules that account for their faults, so does every grammar. -/
theorem accounts_meaning {env : (i : ι) → Parser (τ i)} (henv : ∀ i, (env i).Accounts own c)
    (p : Grammar τ α) (hp : p.RaisesOnly own) : (p.meaning env).Accounts own c := by
  induction p with
  | pure label v => exact Parser.accounts_succeed v
  | fail e => exact Parser.accounts_fail e
  | raise e => exact Parser.accounts_raise hp
  | token text => exact (Parser.readsOrFails_token text).accounts
  | satisfy p => exact (Parser.readsOrFails_satisfy p).accounts
  | satisfyRun p allowEmpty => exact (Parser.readsOrFails_span p allowEmpty _).accounts
  | blanks allowEmpty => exact (Parser.readsOrFails_span _ allowEmpty _).accounts
  | number => exact Parser.accounts_number
  | decimal locale symbols convert => exact Parser.accounts_decimal locale symbols hp
  | upTo terminator o ih => exact (ih hp).upTo o
  | map p f ih => exact (ih hp.1).mapOrStop hp.2
  | bind p f ihp ihf => exact (ihp hp.1).bind fun v => ihf v (hp.2 v)
  | orElse p q ihp ihq => exact (ihp hp.1).orElse (ihq hp.2)
  | keepRight p q ihp ihq => exact (ihp hp.1).keepRight (ihq hp.2)
  | keepLeft p q ihp ihq => exact (ihp hp.1).keepLeft (ihq hp.2)
  | atomic p ih => exact (ih hp).atomic
  | lookAhead p ih => exact (ih hp).lookAhead
  | optional p fallback ih => exact (ih hp).optional p.name fallback
  | discard p ih => exact (ih hp).discard p.name
  | separated p separator o ihp ihsep => exact (ihp hp.1).sequence (ihsep hp.2) p.name o
  | many p allowEmpty ih => exact (ih hp).many p.name allowEmpty
  | context p label ih => exact (ih hp).mapFailure _
  | complete p ih => exact (ih hp).complete
  | firstError p ih => exact (ih hp).mapFailure _
  | secondError p ih => exact (ih hp).mapFailure _
  | choice branches ih =>
      refine (ih 0 (hp 0)).choice fun q hq => ?_
      obtain ⟨i, rfl⟩ := List.mem_ofFn.mp hq
      exact ih i.succ (hp i.succ)
  | chain parts ih =>
      refine Parser.Accounts.chain fun q hq => ?_
      obtain ⟨i, rfl⟩ := List.mem_ofFn.mp hq
      exact ih i (hp i)
  | rule i label => exact henv i
  | named p label ih => exact ih hp

/-- Rules account for their faults, for any number of levels. -/
theorem accounts_unroll {rules : (i : ι) → Grammar τ (τ i)}
    (hrules : ∀ i, (rules i).RaisesOnly own) :
    ∀ (levels : Nat) (i : ι), (unroll rules levels i).Accounts own c
  | 0, _ => Parser.accounts_tooDeep
  | levels + 1, i => (accounts_meaning (accounts_unroll hrules levels) (rules i) (hrules i)).nested

/-- The note about a failed run is not about a fault. -/
theorem accounts_run {rules : (i : ι) → Grammar τ (τ i)} (hrules : ∀ i, (rules i).RaisesOnly own)
    {p : Grammar τ α} (hp : p.RaisesOnly own) (s : State) :
    (p.run rules s).Accounts own s.cursor [] := by
  have inside : (p.parser rules s).Accounts own s.cursor [] :=
    accounts_meaning (accounts_unroll hrules _) p hp s (le_refl _)
  refine inside.resume fun o t h => ?_
  cases o using outcome_cases with
  | ok v => exact Run.accounts_ok v h
  | failure e => exact (Run.accounts_failure e h).after rfl rfl
  | tooDeep limit => exact Run.accounts_stop (.tooDeep limit) h
  | fault f => exact Run.accounts_stop (.fault f) h

/-! ## What the log says -/

/-- Every fault that is raised in a run has one of two ends: a combinator swallows it and
the log says so, or the run ends in it.  There is nothing else that the log calls swallowed.
In the order in which they were raised, the faults are those swallowed and then the one in
which the run ends. -/
theorem run_accounts (rules : (i : ι) → Grammar τ (τ i)) (p : Grammar τ α) (s : State) :
    let r := p.run rules s
    r.trace.raised = r.trace.swallowed ++ escaping r.outcome ∧
      (∀ f, r.outcome = .error (.fault f) →
        r.trace.raised.length = r.trace.swallowedLog.length + 1) ∧
      ((∀ f, r.outcome ≠ .error (.fault f)) →
        r.trace.raised.length = r.trace.swallowedLog.length) ∧
      r.trace.swallowedLog.Sublist r.trace.log ∧
      ∀ record ∈ r.trace.swallowedLog, record.level = .debug ∧
        ∃ (catcher : Catcher) (name : String), ∃ f ∈ r.trace.raised,
          record.text = catcher.name ++ "(" ++ name ++ ") swallowed " ++ f.kind.name ++ ": " ++
            f.message := by
  intro r
  have balance : r.trace.raised = r.trace.swallowed ++ escaping r.outcome :=
    (accounts_run (fun i => raisesOnly_true (rules i)) (raisesOnly_true p) s).balance
  have count : r.trace.raised.length =
      r.trace.swallowedLog.length + (escaping r.outcome).length := by
    rw [balance, List.length_append, Trace.length_swallowedLog]
  refine ⟨balance, fun f ended => ?_, fun clean => ?_, Trace.swallowedLog_sublist _, ?_⟩
  · rw [count, ended]
    rfl
  · have none : escaping r.outcome = [] :=
      List.eq_nil_iff_forall_not_mem.mpr fun f hf => clean f (mem_escaping.mp hf)
    rw [count, none, List.length_nil, Nat.add_zero]
  · intro record hrecord
    obtain ⟨catcher, name, f, hf, rfl⟩ := Trace.exists_of_mem_swallowedLog hrecord
    refine ⟨rfl, catcher, name, f, ?_, rfl⟩
    rw [balance]
    exact List.mem_append_left _ hf

end Grammar

end Descent
