import Descent.Proofs.Restoration
import Descent.Proofs.Stepping
import Descent.Proofs.Termination

/-!
# What is read when a primitive stops

The *primitives* are the grammars that all others are put together from: constants, literals
and classes of characters, blanks and line breaks, numbers, and the characters up to a
terminator.  They read nothing when they fail.  That is not all: most of them stop in no other
way than by a failure, so they read nothing whenever they stop.  The same goes for `decimal`, which
also stops in a fault that its conversion raises.

Two of them may stop in another way, and then something is read.

* `number` finds its digits too many when it is already behind them.
* `upTo` stops with its terminator, where that stops with something else than a failure.  It
  stays where the terminator was then, which is not before the start of that attempt.

`Overrun` says what these two cases are, up to the place where the cursor is left, and there
is no third one that reads something (`run_primitive`).
-/

namespace Descent

/-! ## Runs that stop with failures only -/

/-- If the run stopped, it failed. -/
def Run.OnlyFails {α : Type} (r : Run α) : Prop := ∀ e, r.outcome = .error e → ∃ f, e = .failure f

namespace Run

variable {α β : Type}

theorem onlyFails_ok (v : α) (s : State) : (ok v s).OnlyFails := nofun

theorem onlyFails_failure (f : ParseError) (s : State) :
    (stop (.failure f) s : Run α).OnlyFails := by
  rintro e ⟨⟩
  exact ⟨f, rfl⟩

theorem OnlyFails.resume {r : Run α} {k : Except Stop α → State → Run β} (hr : r.OnlyFails)
    (hv : ∀ v t, (k (.ok v) t).OnlyFails)
    (hf : ∀ f t, (k (.error (.failure f)) t).OnlyFails) : (r.resume k).OnlyFails := by
  obtain ⟨o, t, trace⟩ := r
  cases o with
  | ok v => exact hv v t
  | error e =>
      obtain ⟨f, rfl⟩ := hr e rfl
      exact hf f t

end Run

namespace Parser

variable {α β : Type}

/-- The parser stops with failures only. -/
def OnlyFails (p : Parser α) : Prop := ∀ s, (p s).OnlyFails

theorem ReadsOrFails.onlyFails {p : Parser α} (hp : p.ReadsOrFails) : p.OnlyFails := by
  intro s
  obtain ⟨v, n, some⟩ | ⟨e, none⟩ := hp s
  · rw [some]
    exact Run.onlyFails_ok v _
  · rw [none]
    exact Run.onlyFails_failure e s

theorem OnlyFails.andThen {p : Parser α} {f : α → Parser β} (hp : p.OnlyFails)
    (hf : ∀ v, (f v).OnlyFails) : (p.andThen f).OnlyFails :=
  fun s => (hp s).resume hf Run.onlyFails_failure

theorem OnlyFails.catchFailure {p : Parser α} {f : ParseError → Parser α} (hp : p.OnlyFails)
    (hf : ∀ e, (f e).OnlyFails) : (p.catchFailure f).OnlyFails :=
  fun s => (hp s).resume Run.onlyFails_ok hf

theorem OnlyFails.mapOrStop {p : Parser α} (hp : p.OnlyFails) (f : α → β) :
    (p.mapOrStop fun v => .ok (f v)).OnlyFails :=
  hp.andThen fun v => (readsOrFails_succeed (f v)).onlyFails

theorem OnlyFails.mapFailure {p : Parser α} (hp : p.OnlyFails) (f : ParseError → ParseError) :
    (p.mapFailure f).OnlyFails :=
  hp.catchFailure fun e => (readsOrFails_fail (f e)).onlyFails

theorem OnlyFails.atomic {p : Parser α} (hp : p.OnlyFails) : p.atomic.OnlyFails := by
  intro s e stopped
  rw [outcome_atomic] at stopped
  exact hp s e stopped

theorem OnlyFails.orElse {p q : Parser α} (hp : p.OnlyFails) (hq : q.OnlyFails) :
    (p.orElse q).OnlyFails :=
  (hp.catchFailure fun _ => hq.mapFailure _).atomic

theorem OnlyFails.keepRight {p : Parser α} {q : Parser β} (hp : p.OnlyFails)
    (hq : q.OnlyFails) : (p.keepRight q).OnlyFails :=
  (hp.andThen fun _ => hq).atomic

theorem OnlyFails.bind {p : Parser α} {f : α → Parser β} (hp : p.OnlyFails)
    (hf : ∀ v, (f v).OnlyFails) : (p.bind f).OnlyFails :=
  (hp.andThen hf).atomic

theorem OnlyFails.optional {p : Parser α} (hp : p.OnlyFails) (name : String) (fallback : α) :
    (p.optional name fallback).OnlyFails :=
  fun s => (hp s).resume Run.onlyFails_ok fun _ t => Run.onlyFails_ok fallback (t.moveTo s.cursor)

/-! ## Scans that stop with their terminator -/

/-- At the places from a state on that come before the `n`-th, the parser fails. -/
def FailsBefore (p : Parser α) (s : State) (n : Nat) : Prop :=
  ∀ k < n, ∃ f, (p (s.moveTo (s.cursor.advance k))).outcome = .error (.failure f)

/-- A scan that stops with something else than a failure stops with the terminator, at the
first place where that does not fail, and in the state in which the terminator was left. -/
theorem scan_stops {terminator : Parser α} (forward : Forward terminator) (o : ScanOptions)
    {s : State} {e : Stop} (notFailure : ∀ f, e ≠ .failure f) :
    ∀ {t : State} {n : Nat}, t = s.moveTo (s.cursor.advance n) → FailsBefore terminator s n →
      (scan o terminator s.cursor t).outcome = .error e →
      ∃ m < s.cursor.rest.length, FailsBefore terminator s m ∧
        (terminator (s.moveTo (s.cursor.advance m))).outcome = .error e ∧
        (scan o terminator s.cursor t).state =
          (terminator (s.moveTo (s.cursor.advance m))).state := by
  intro t
  induction t using scan.induct o s.cursor with
  | case1 t atEnd allowed =>
      intro n _ _ stopped
      rw [scan, if_pos atEnd, if_pos allowed] at stopped
      cases stopped
  | case2 t atEnd notAllowed =>
      intro n _ _ stopped
      rw [scan, if_pos atEnd, if_neg notAllowed] at stopped
      cases stopped
      exact absurd rfl (notFailure _)
  | case3 t notAtEnd ih =>
      intro n place before stopped
      have inside : n < s.cursor.rest.length := by
        rw [place] at notAtEnd
        simpa [Cursor.isAtEnd] using notAtEnd
      rw [scan, if_neg notAtEnd] at stopped ⊢
      rw [Run.outcome_resume] at stopped
      rw [Run.state_resume]
      have left := congrArg (fun u => (terminator u).state) place
      cases tried : (terminator t).outcome using outcome_cases with
      | ok v =>
          rw [tried] at stopped
          dsimp only at stopped
          split at stopped
          · cases stopped
            exact absurd rfl (notFailure _)
          · cases stopped
      | failure f =>
          rw [tried] at stopped
          have next : (terminator t).state.moveTo (t.cursor.advance 1) =
              s.moveTo (s.cursor.advance (n + 1)) := by
            have same := State.nesting_eq_of_le (forward t)
            rw [State.moveTo, ← same, place, State.cursor_moveTo, Cursor.advance_advance]
            rfl
          refine ih _ next (fun k hk => ?_) stopped
          obtain earlier | rfl := Nat.lt_succ_iff_lt_or_eq.mp hk
          · exact before k earlier
          · exact ⟨f, by rw [← place, tried]⟩
      | tooDeep limit =>
          rw [tried] at stopped
          cases stopped
          exact ⟨n, inside, before, by rw [← place, tried], left⟩
      | fault f =>
          rw [tried] at stopped
          cases stopped
          exact ⟨n, inside, before, by rw [← place, tried], left⟩

end Parser

namespace Grammar

variable {ι : Type} {τ : ι → Type} {α β : Type}

/-! ## Primitives -/

/-- The grammars that others are put together from. -/
inductive Primitive : {α : Type} → Grammar τ α → Prop where
  | pure {α : Type} (label : String) (v : α) : Primitive (.pure label v)
  | fail {α : Type} (f : ParseError) : Primitive (.fail f : Grammar τ α)
  | token (text : String) : Primitive (.token text)
  | member {m : Member} {p : Grammar τ Member} (made : member? m = .ok p) : Primitive p
  | enumeration {e : Enumeration} {p : Grammar τ Member} (made : enumeration? e = .ok p) :
      Primitive p
  | satisfy (p : Char → Bool) : Primitive (.satisfy p)
  | satisfyRun (p : Char → Bool) (allowEmpty : Bool) : Primitive (.satisfyRun p allowEmpty)
  | blanks (allowEmpty : Bool) : Primitive (.blanks allowEmpty)
  | optionalBlanks : Primitive optionalBlanks
  | space : Primitive space
  | newline : Primitive newline
  | comma : Primitive comma
  | number : Primitive .number
  | decimal (locale : String) (symbols : NumberSymbols) (convert : Conversion) :
      Primitive (.decimal locale symbols convert)
  | upTo {α : Type} (terminator : Grammar τ α) (o : Parser.ScanOptions) :
      Primitive (.upTo terminator o)

/-- A numeral is not converted: the conversion of a `decimal` raises something else than a
refusal. -/
def Unconverted {α : Type} : Grammar τ α → Stop → Prop
  | decimal _ _ convert, e =>
      ∃ numeral f, convert numeral = .error f ∧ ¬ f.IsRefusal ∧ e = .fault f
  | _, _ => False

/-- How a primitive may stop with something read: with what, and where it leaves the cursor. -/
inductive Overrun (rules : (i : ι) → Grammar τ (τ i)) (s : State) :
    {α : Type} → Grammar τ α → Stop → Cursor → Prop where
  /-- A number with too many digits leaves the cursor behind them. -/
  | number {sign digits rest : List Char} (ahead : s.cursor.rest = sign ++ (digits ++ rest))
      (tooMany : Parser.TooManyDigits sign digits rest) :
      Overrun rules s .number (.fault (.tooManyDigits digits.length))
        (s.cursor.advance (sign.length + digits.length))
  /-- A terminator, tried where it does not fail for the first time, stops and leaves the cursor
  somewhere. -/
  | upTo {α : Type} {terminator : Grammar τ α} {o : Parser.ScanOptions} {e : Stop} {n : Nat}
      (inside : n < s.cursor.rest.length)
      (before : (terminator.parser rules).FailsBefore s n)
      (stopped : (terminator.parser rules (s.moveTo (s.cursor.advance n))).outcome = .error e)
      (notFailure : ∀ f, e ≠ .failure f) :
      Overrun rules s (.upTo terminator o) e
        (terminator.parser rules (s.moveTo (s.cursor.advance n))).state.cursor

/-! ### Primitives that only fail -/

variable {env : (i : ι) → Parser (τ i)}

theorem onlyFails_fmap {p : Grammar τ α} (hp : (p.meaning env).OnlyFails) (f : α → β) :
    ((f <$> p).meaning env).OnlyFails :=
  hp.mapOrStop f

theorem onlyFails_optionalBlanks :
    ((optionalBlanks : Grammar τ (Option String)).meaning env).OnlyFails := by
  have blanks : ((blanks : Grammar τ String).meaning env).OnlyFails :=
    (Parser.readsOrFails_span _ _ _).onlyFails
  exact (onlyFails_fmap blanks some).optional _ _

theorem onlyFails_space : ((space : Grammar τ String).meaning env).OnlyFails :=
  (Parser.readsOrFails_span _ _ _).onlyFails

theorem onlyFails_newline : ((newline : Grammar τ String).meaning env).OnlyFails := by
  have other : ((satisfy Text.isLineBreak : Grammar τ Char).meaning env).OnlyFails :=
    (Parser.readsOrFails_satisfy _).onlyFails
  have lineBreak : ((lineBreak : Grammar τ String).meaning env).OnlyFails :=
    ((Parser.readsOrFails_token _).onlyFails.orElse (onlyFails_fmap other _)).mapFailure _
  exact (onlyFails_space.optional _ _).bind fun _ => onlyFails_fmap lineBreak _

theorem onlyFails_comma : ((comma : Grammar τ Unit).meaning env).OnlyFails := by
  have inner : (((token ",").keepRight (blanks true) : Grammar τ String).meaning env).OnlyFails :=
    (Parser.readsOrFails_token _).onlyFails.keepRight (Parser.readsOrFails_span _ _ _).onlyFails
  exact onlyFails_fmap inner _

theorem onlyFails_literal (text : String) (v : α) :
    (((fun _ => v) <$> token text : Grammar τ α).meaning env).OnlyFails := by
  have literal : ((token text : Grammar τ String).meaning env).OnlyFails :=
    (Parser.readsOrFails_token text).onlyFails
  exact onlyFails_fmap literal _

theorem onlyFails_firstLiteral (entries : List (String × α)) :
    ((firstLiteral entries : Grammar τ α).meaning env).OnlyFails :=
  firstLiteral_of_step (motive := fun p : Grammar τ α => (p.meaning env).OnlyFails)
    (fun e => (Parser.readsOrFails_fail e).onlyFails)
    (fun _ text v hp => (hp.orElse (onlyFails_literal text v)).mapFailure _) entries

theorem onlyFails_of_member? {m : Member} {p : Grammar τ Member} (h : member? m = .ok p) :
    (p.meaning env).OnlyFails := by
  obtain ⟨text, v, label, rfl⟩ := exists_of_member? h
  exact onlyFails_literal text v

theorem onlyFails_of_enumeration? {e : Enumeration} {p : Grammar τ Member}
    (h : enumeration? e = .ok p) : (p.meaning env).OnlyFails := by
  obtain ⟨entries, label, rfl⟩ := exists_of_enumeration? h
  exact onlyFails_firstLiteral entries

/-! ### All primitives -/

/-- No primitive goes through a rule, so a failure puts the cursor back whatever the rules
are. -/
theorem Primitive.restoring {p : Grammar τ α} (hp : Primitive p) :
    Restoring (fun _ => False) p := by
  cases hp with
  | pure label v => exact .pure label v
  | fail f => exact .fail f
  | token text => exact .token text
  | member made => exact restoring_of_member? made
  | enumeration made => exact restoring_of_enumeration? made
  | satisfy p => exact .satisfy p
  | satisfyRun p allowEmpty => exact .satisfyRun p allowEmpty
  | blanks allowEmpty => exact .blanks allowEmpty
  | optionalBlanks => exact restoring_optionalBlanks
  | space => exact restoring_space
  | newline => exact restoring_newline
  | comma => exact restoring_comma
  | number => exact .number
  | decimal locale symbols convert => exact .decimal locale symbols convert
  | upTo terminator o => exact .upTo terminator o

/-- What is not a failure stops a numeral with nothing read, or a number, or the characters up to
a terminator. -/
theorem Primitive.overrun {rules : (i : ι) → Grammar τ (τ i)} {p : Grammar τ α}
    (hp : Primitive p) {s : State} {e : Stop} (stopped : (p.parser rules s).outcome = .error e)
    (notFailure : ∀ f, e ≠ .failure f) :
    (Unconverted p e ∧ (p.parser rules s).state.cursor = s.cursor) ∨
      Overrun rules s p e (p.parser rules s).state.cursor := by
  have only (h : (p.meaning (unroll rules (s.nesting.budget + 1))).OnlyFails) :
      (Unconverted p e ∧ (p.parser rules s).state.cursor = s.cursor) ∨
        Overrun rules s p e (p.parser rules s).state.cursor := by
    obtain ⟨f, failure⟩ := h s e stopped
    exact absurd failure (notFailure f)
  cases hp with
  | pure label v => exact only (Parser.readsOrFails_succeed v).onlyFails
  | fail f => exact only (Parser.readsOrFails_fail f).onlyFails
  | token text => exact only (Parser.readsOrFails_token text).onlyFails
  | member made => exact only (onlyFails_of_member? made)
  | enumeration made => exact only (onlyFails_of_enumeration? made)
  | satisfy p => exact only (Parser.readsOrFails_satisfy p).onlyFails
  | satisfyRun p allowEmpty => exact only (Parser.readsOrFails_span p allowEmpty _).onlyFails
  | blanks allowEmpty => exact only (Parser.readsOrFails_span _ allowEmpty _).onlyFails
  | optionalBlanks => exact only onlyFails_optionalBlanks
  | space => exact only onlyFails_space
  | newline => exact only onlyFails_newline
  | comma => exact only onlyFails_comma
  | decimal locale symbols convert =>
      have run : (Grammar.decimal locale symbols convert : Grammar τ Decimal).parser rules s =
        Parser.decimal locale symbols convert s := rfl
      rw [run] at stopped ⊢
      obtain ⟨v, n, some⟩ | none | ⟨_, _, -, -, rejected⟩ | ⟨numeral, f, raised, other, stop⟩ :=
        Parser.decimal_cases locale symbols convert s
      · rw [some] at stopped
        cases stopped
      · rw [none] at stopped
        cases stopped
        exact absurd rfl (notFailure _)
      · rw [rejected] at stopped
        cases stopped
        exact absurd rfl (notFailure _)
      · rw [stop] at stopped ⊢
        cases stopped
        exact .inl ⟨⟨numeral, f, raised, other, rfl⟩, rfl⟩
  | number =>
      have run : (Grammar.number : Grammar τ Int).parser rules s = Parser.number s := rfl
      rw [run] at stopped ⊢
      obtain none | ⟨sign, digits, rest, ahead, tooMany, stop⟩ | ⟨v, n, some⟩ :=
        Parser.number_cases s
      · rw [none] at stopped
        cases stopped
        exact absurd rfl (notFailure _)
      · rw [stop] at stopped ⊢
        cases stopped
        exact .inr (.number ahead tooMany)
      · rw [some] at stopped
        cases stopped
  | upTo terminator o =>
      have forward : (terminator.meaning (unroll rules (s.nesting.budget + 1))).Forward :=
        forward_meaning (forward_unroll rules _) terminator
      have start : s = s.moveTo (s.cursor.advance 0) := by
        rw [Cursor.advance_zero, State.moveTo_cursor]
      obtain ⟨n, inside, before, here, left⟩ :=
        Parser.scan_stops forward o notFailure start (fun k hk => absurd hk (Nat.not_lt_zero k))
          stopped
      have cursor : ((Grammar.upTo terminator o).parser rules s).state.cursor =
          (terminator.parser rules (s.moveTo (s.cursor.advance n))).state.cursor :=
        congrArg State.cursor left
      rw [cursor]
      exact .inr (.upTo inside before here notFailure)

/-- A primitive that stops has read nothing, and it has failed or its numeral was not converted.
Or else it is a number of too many digits, or its terminator has stopped with something else than
a failure. -/
theorem run_primitive {rules : (i : ι) → Grammar τ (τ i)} {p : Grammar τ α} (hp : Primitive p)
    {s : State} {e : Stop} (stopped : (p.run rules s).outcome = .error e) :
    (((∃ f, e = .failure f) ∨ Unconverted p e) ∧ (p.run rules s).state.cursor = s.cursor) ∨
      Overrun rules s p e (p.run rules s).state.cursor := by
  rw [outcome_run] at stopped
  rw [state_run]
  by_cases failed : ∃ f, e = .failure f
  · obtain ⟨f, rfl⟩ := failed
    have restores : (p.meaning (unroll rules (s.nesting.budget + 1))).Restores :=
      hp.restoring.restores_meaning fun _ none => none.elim
    exact .inl ⟨.inl ⟨f, rfl⟩, restores s f stopped⟩
  · refine (hp.overrun stopped fun f failure => failed ⟨f, failure⟩).imp_left ?_
    exact fun ⟨unconverted, back⟩ => ⟨.inr unconverted, back⟩

/-- The letters before a `b`, which raises a fault. -/
def untilBoom : Grammar (fun _ : Empty => Unit) String :=
  upTo ((token "b").map fun _ => (.error (.fault (.reported .value "boom")) : Except Stop Unit))

/-- The fault leaves the cursor behind the `b`. -/
theorem run_primitive_untilBoom :
    Primitive untilBoom ∧
      (untilBoom.run nofun (.start "ab" 100 1000)).outcome =
        .error (.fault (.reported .value "boom")) ∧
      Overrun nofun (.start "ab" 100 1000) untilBoom (.fault (.reported .value "boom"))
        (.ofChars "ab".toList 2) := by
  have hp : Primitive untilBoom := .upTo _ _
  have run : untilBoom.run nofun (.start "ab" 100 1000) =
      untilBoom.runWithin nofun (fun _ => Parser.tooDeep) 101 3 (.start "ab" 100 1000) :=
    (runWithin_eq_run _ _ _ _ _ _ (by decide) (by decide)).symm
  have stopped : (untilBoom.run nofun (.start "ab" 100 1000)).outcome =
      .error (.fault (.reported .value "boom")) := by
    rw [run]
    rfl
  have cursor : (untilBoom.run nofun (.start "ab" 100 1000)).state.cursor =
      .ofChars "ab".toList 2 := by
    rw [run]
    rfl
  obtain ⟨⟨f, failure⟩ | unconverted, -⟩ | overrun := run_primitive hp stopped
  · cases failure
  · exact unconverted.elim
  · rw [cursor] at overrun
    exact ⟨hp, stopped, overrun⟩

/-- Where a number has too many digits, the cursor is left behind all of them. -/
theorem run_number_of_tooManyDigits (rules : (i : ι) → Grammar τ (τ i)) {s : State}
    {sign digits rest : List Char} (tooMany : Parser.TooManyDigits sign digits rest)
    (ahead : s.cursor.rest = sign ++ (digits ++ rest)) :
    (number.run rules s).outcome = .error (.fault (.tooManyDigits digits.length)) ∧
      (number.run rules s).state.cursor.pos = s.cursor.pos + (sign.length + digits.length) := by
  have run : (number : Grammar τ Int).parser rules s = _ :=
    Parser.number_of_tooManyDigits tooMany ahead
  have inside : sign.length + digits.length ≤ s.cursor.rest.length := by
    rw [ahead, List.length_append, List.length_append]
    omega
  constructor
  · rw [outcome_run, run]
    rfl
  · rw [state_run, run]
    exact (Cursor.pos_advance _ _).trans (congrArg _ (Nat.min_eq_left inside))

/-- Before a number of ones. -/
def ones (n : Nat) : State := .start (String.ofList (List.replicate n '1')) 100 1000

theorem rest_ones (n : Nat) : (ones n).cursor.rest = List.replicate n '1' := String.toList_ofList

theorem tooManyDigits_ones {n : Nat} (h : Fault.maxDigits < n) :
    Parser.TooManyDigits [] (List.replicate n '1') [] := by
  refine ⟨.inl rfl, fun x hx => ?_, ?_, nofun⟩
  · rw [List.eq_of_mem_replicate hx]
    rfl
  · rwa [List.length_replicate]

/-- One digit more than a number is read from: the number stops, and the digits are read. -/
theorem number_ones_overruns :
    ¬ ∀ (p : Grammar (fun _ : Empty => Unit) Int), Primitive p → ∀ (s : State) (e : Stop),
      (p.run nofun s).outcome = .error e → (p.run nofun s).state.cursor = s.cursor := by
  intro back
  have ahead : (ones (Fault.maxDigits + 1)).cursor.rest =
      [] ++ (List.replicate (Fault.maxDigits + 1) '1' ++ []) := by
    rw [rest_ones, List.nil_append, List.append_nil]
  obtain ⟨stopped, left⟩ := run_number_of_tooManyDigits (τ := fun _ : Empty => Unit) nofun
    (tooManyDigits_ones (Nat.lt_succ_self _)) ahead
  rw [back number .number _ _ stopped, List.length_replicate] at left
  exact absurd left (by simp)

end Grammar

end Descent
