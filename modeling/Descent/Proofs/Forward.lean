import Mathlib.Order.Defs.PartialOrder
import Descent.Grammar.Meaning
import Descent.Proofs.Reading

/-!
# What a run keeps

A run may end anywhere from the place where it began to the end of the text, and it
leaves the nesting as it found it.  This is so for every outcome: a value, a failure,
a stop at the nesting limit and a fault.

States are ordered by it.  `s ≤ t` says that `t` is in the text of `s`, at the place
of `s` or a later one, with the nesting of `s`.  A parser is *forward* when each of
its runs ends in a state above the one it began in.  Every combinator keeps parsers
forward, so every grammar is forward (`forward`).

Going back is harmless for the same reason.  A combinator that puts the cursor back
has nothing else to put back: from a state above `s`, the state at the cursor of `s`
is `s` itself (`State.moveTo_cursor_of_le`).
-/

namespace Descent

/-! ## The order of places -/

namespace Cursor

/-- Places of one text, from the front to the end. -/
instance : PartialOrder Cursor where
  le c d := c.source = d.source ∧ c.pos ≤ d.pos
  le_refl c := ⟨rfl, Nat.le_refl _⟩
  le_trans _ _ _ h k := ⟨h.1.trans k.1, Nat.le_trans h.2 k.2⟩
  le_antisymm _ _ h k := eq_of_source_of_pos h.1 (Nat.le_antisymm h.2 k.2)

theorem source_eq_of_le {c d : Cursor} (h : c ≤ d) : c.source = d.source := h.1

theorem pos_le_of_le {c d : Cursor} (h : c ≤ d) : c.pos ≤ d.pos := h.2

theorem le_advance (c : Cursor) (n : Nat) : c ≤ c.advance n := by
  refine ⟨(source_advance c n).symm, ?_⟩
  rw [pos_advance]
  exact Nat.le_add_right _ _

/-- A cursor lies within its text. -/
theorem pos_le_length_source (c : Cursor) : c.pos ≤ c.source.length := by
  rw [← pos_add_length_rest]
  exact Nat.le_add_right _ _

end Cursor

/-! ## The order of states -/

namespace State

/-- Places of one text, at the same nesting. -/
instance : PartialOrder State where
  le s t := s.cursor ≤ t.cursor ∧ s.nesting = t.nesting
  le_refl _ := ⟨le_refl _, rfl⟩
  le_trans _ _ _ h k := ⟨le_trans h.1 k.1, h.2.trans k.2⟩
  le_antisymm s t h k := by
    obtain ⟨c, g⟩ := s
    obtain ⟨d, g'⟩ := t
    have hc : c = d := le_antisymm h.1 k.1
    have hg : g = g' := h.2
    rw [hc, hg]

theorem cursor_le_of_le {s t : State} (h : s ≤ t) : s.cursor ≤ t.cursor := h.1

theorem nesting_eq_of_le {s t : State} (h : s ≤ t) : s.nesting = t.nesting := h.2

theorem le_moveTo {s : State} {c : Cursor} (h : s.cursor ≤ c) : s ≤ s.moveTo c := ⟨h, rfl⟩

/-- Putting the cursor back is going back. -/
theorem moveTo_cursor_of_le {s t : State} (h : s ≤ t) : t.moveTo s.cursor = s := by
  obtain ⟨c, g⟩ := s
  obtain ⟨d, g'⟩ := t
  have hg : g = g' := h.2
  rw [hg]
  rfl

/-- A later state at the same position is the same state. -/
theorem eq_of_le_of_pos {s t : State} (h : s ≤ t) (stay : t.cursor.pos = s.cursor.pos) : t = s := by
  have back : t ≤ s := ⟨⟨h.1.1.symm, Nat.le_of_eq stay⟩, h.2.symm⟩
  exact le_antisymm back h

/-- So is a later state at the same place. -/
theorem eq_of_le_of_cursor {s t : State} (h : s ≤ t) (back : t.cursor = s.cursor) : t = s :=
  eq_of_le_of_pos h (congrArg Cursor.pos back)

/-- Moving on from a later state, to a place that is not before the first one. -/
theorem le_moveTo_of_le {s t : State} {c : Cursor} (h : s ≤ t) (hc : s.cursor ≤ c) :
    s ≤ t.moveTo c :=
  ⟨hc, h.2⟩

end State

namespace Run

variable {α β : Type}

/-- A continued run is above a state when every continuation is. -/
theorem le_resume {s : State} {r : Run α} {k : Except Stop α → State → Run β}
    (hr : s ≤ r.state) (hk : ∀ o t, s ≤ t → s ≤ (k o t).state) : s ≤ (r.resume k).state := by
  rw [state_resume]
  exact hk r.outcome r.state hr

end Run

namespace Parser

variable {α β : Type}

/-- Every run ends in the text it began in, not before its start, with the nesting
it began with. -/
def Forward (p : Parser α) : Prop := ∀ s, s ≤ (p s).state

theorem IsReading.forward {p : Parser α} (h : IsReading p) : Forward p := by
  obtain ⟨look, hlook⟩ := h
  intro s
  rw [hlook]
  exact State.le_moveTo (Cursor.le_advance _ _)

/-! ## Going on -/

theorem Forward.andThen {p : Parser α} {f : α → Parser β} (hp : Forward p)
    (hf : ∀ v, Forward (f v)) : Forward (p.andThen f) := by
  intro s
  refine Run.le_resume (hp s) fun o t h => ?_
  cases o with
  | ok v => exact le_trans h (hf v t)
  | error e => exact h

theorem Forward.recover {p : Parser α} {f : Stop → Parser α} (hp : Forward p)
    (hf : ∀ e, Forward (f e)) : Forward (p.recover f) := by
  intro s
  refine Run.le_resume (hp s) fun o t h => ?_
  cases o with
  | ok v => exact h
  | error e => exact le_trans h (hf e t)

theorem forward_stop (e : Stop) : Forward (Run.stop e : Parser α) := fun s => le_refl s

theorem forward_succeed (v : α) : Forward (succeed v) := (isReading_succeed v).forward

theorem forward_fail (e : ParseError) : Forward (fail e : Parser α) := (isReading_fail e).forward

theorem Forward.catchFailure {p : Parser α} {f : ParseError → Parser α} (hp : Forward p)
    (hf : ∀ e, Forward (f e)) : Forward (p.catchFailure f) := by
  refine hp.recover fun e => ?_
  cases e with
  | failure e => exact hf e
  | tooDeep limit => exact forward_stop _
  | fault f => exact forward_stop _

theorem Forward.mapOrStop {p : Parser α} (hp : Forward p) (f : α → Except Stop β) :
    Forward (p.mapOrStop f) := by
  refine hp.andThen fun v => ?_
  cases f v with
  | ok w => exact forward_succeed w
  | error e => exact (isReading_raise e).forward

theorem Forward.mapFailure {p : Parser α} (hp : Forward p) (f : ParseError → ParseError) :
    Forward (p.mapFailure f) :=
  hp.catchFailure fun e => forward_fail (f e)

/-! ## Putting the cursor back -/

theorem Forward.atomic {p : Parser α} (hp : Forward p) : Forward p.atomic := by
  intro s
  refine Run.le_resume (hp s) fun o t h => ?_
  cases o with
  | ok v => exact h
  | error e => exact le_of_eq (State.moveTo_cursor_of_le h).symm

theorem Forward.bind {p : Parser α} {f : α → Parser β} (hp : Forward p)
    (hf : ∀ v, Forward (f v)) : Forward (p.bind f) :=
  (hp.andThen hf).atomic

theorem Forward.orElse {p q : Parser α} (hp : Forward p) (hq : Forward q) :
    Forward (p.orElse q) :=
  (hp.catchFailure fun _ => hq.mapFailure _).atomic

theorem Forward.keepRight {p : Parser α} {q : Parser β} (hp : Forward p) (hq : Forward q) :
    Forward (p.keepRight q) :=
  (hp.andThen fun _ => hq).atomic

theorem Forward.keepLeft {p : Parser α} {q : Parser β} (hp : Forward p) (hq : Forward q) :
    Forward (p.keepLeft q) :=
  (hp.andThen fun v => hq.andThen fun _ => forward_succeed v).atomic

theorem Forward.lookAhead {p : Parser α} (hp : Forward p) : Forward p.lookAhead := by
  intro s
  refine Run.le_resume (hp s) fun o t h => ?_
  cases o with
  | ok v => exact le_of_eq (State.moveTo_cursor_of_le h).symm
  | error e => exact h

/-! ## Going on after a stop -/

theorem Forward.optional {p : Parser α} (hp : Forward p) (name : String) (fallback : α) :
    Forward (p.optional name fallback) := by
  intro s
  refine Run.le_resume (hp s) fun o t h => ?_
  have back : s ≤ t.moveTo s.cursor := le_of_eq (State.moveTo_cursor_of_le h).symm
  cases o using outcome_cases with
  | ok v => exact h
  | failure e => exact back
  | tooDeep limit => exact h
  | fault f => exact back

theorem Forward.discard {p : Parser α} (hp : Forward p) (name : String) :
    Forward (p.discard name) := by
  refine (hp.andThen fun _ => forward_succeed ()).recover fun e s => ?_
  cases e <;> exact le_refl s

/-! ## Failures -/

theorem Forward.complete {p : Parser α} (hp : Forward p) : Forward p.complete := by
  refine hp.andThen fun v s => ?_
  split <;> exact le_refl s

/-! ## Lists of parsers -/

/-- The branches after a failure are forward from any state above the start, which is
where each failed branch puts the cursor. -/
theorem le_otherwise {s : State} (ps : List (Parser α)) (hps : ∀ p ∈ ps, Forward p) :
    ∀ (e : ParseError) (t : State), s ≤ t → s ≤ (otherwise s.cursor e ps t).state := by
  induction ps with
  | nil =>
      intro e t h
      exact h
  | cons p ps ih =>
      intro e t h
      rw [otherwise]
      refine Run.le_resume (le_trans h (hps p (.head _) t)) fun o t' h' => ?_
      cases o using outcome_cases with
      | ok v => exact h'
      | failure e' =>
          exact ih (fun q hq => hps q (.tail _ hq)) _ _ (State.le_moveTo_of_le h' (le_refl _))
      | tooDeep limit => exact h'
      | fault f => exact h'

theorem Forward.choice {p : Parser α} {ps : List (Parser α)} (hp : Forward p)
    (hps : ∀ q ∈ ps, Forward q) : Forward (p.choice ps) := by
  intro s
  refine Run.le_resume (hp s) fun o t h => ?_
  cases o using outcome_cases with
  | ok v => exact h
  | failure e => exact le_otherwise ps hps e t h
  | tooDeep limit => exact h
  | fault f => exact h

theorem Forward.chain {ps : List (Parser α)} (hps : ∀ p ∈ ps, Forward p) :
    Forward (chain ps) := by
  induction ps with
  | nil => exact forward_succeed []
  | cons p ps ih =>
      have rest : Forward (Parser.chain ps) := ih fun q hq => hps q (.tail _ hq)
      exact (hps p (.head _)).andThen fun v => rest.andThen fun vs => forward_succeed (v :: vs)

/-! ## Repetition -/

theorem Forward.many {p : Parser α} (hp : Forward p) (name : String) (allowEmpty : Bool) :
    Forward (p.many name allowEmpty) := by
  intro s
  induction allowEmpty, s using many.induct with
  | case1 allowEmpty s ih =>
      rw [Parser.many]
      refine Run.le_resume (hp s) fun o t h => ?_
      cases o using outcome_cases with
      | ok v =>
          dsimp only
          split
          next progress => exact le_trans h (ih t progress)
          next stalled => exact h
      | failure e => dsimp only; split <;> exact h
      | tooDeep limit => exact h
      | fault f => dsimp only; split <;> exact h

theorem Forward.rounds {p : Parser α} {separator : Parser β} (hp : Forward p)
    (hsep : Forward separator) (name : String) (o : SequenceOptions) :
    Forward (rounds name o p separator) := by
  intro s
  induction s using rounds.induct with
  | case1 s atEnd =>
      rw [Parser.rounds, if_pos atEnd]
      exact le_refl s
  | case2 s notAtEnd ih =>
      rw [Parser.rounds, if_neg notAtEnd]
      refine Run.le_resume (hsep s) fun separated t h => ?_
      cases separated using outcome_cases with
      | failure e => exact le_of_eq (State.moveTo_cursor_of_le h).symm
      | tooDeep limit => exact h
      | fault f => exact h
      | ok w =>
          refine Run.le_resume (le_trans h (hp t)) fun element u h' => ?_
          cases element using outcome_cases with
          | ok v =>
              dsimp only
              split
              next progress => exact le_trans h' (ih u progress)
              next stalled => exact h'
          | failure e =>
              dsimp only
              split
              next keep => exact h'
              next back => exact le_of_eq (State.moveTo_cursor_of_le h').symm
          | tooDeep limit => exact h'
          | fault f => exact h'

theorem Forward.sequence {p : Parser α} {separator : Parser β} (hp : Forward p)
    (hsep : Forward separator) (name : String) (o : SequenceOptions) :
    Forward (p.sequence name o separator) := by
  intro s
  refine Run.le_resume (hp s) fun first t h => ?_
  cases first using outcome_cases with
  | ok v => exact le_trans h (hp.rounds hsep name o t)
  | failure e => dsimp only; split <;> exact h
  | tooDeep limit => exact h
  | fault f => exact h

/-- A scan is forward from its start, wherever behind the start it has got to. -/
theorem le_scan {terminator : Parser α} (ht : Forward terminator) (o : ScanOptions) {s : State} :
    ∀ t : State, s ≤ t → s ≤ (scan o terminator s.cursor t).state := by
  intro t
  induction t using scan.induct o s.cursor with
  | case1 t atEnd allowed =>
      intro h
      rw [scan, if_pos atEnd, if_pos allowed]
      exact h
  | case2 t atEnd notAllowed =>
      intro h
      rw [scan, if_pos atEnd, if_neg notAllowed]
      exact le_of_eq (State.moveTo_cursor_of_le h).symm
  | case3 t notAtEnd ih =>
      intro h
      rw [scan, if_neg notAtEnd]
      refine Run.le_resume (le_trans h (ht t)) fun stopped u h' => ?_
      have here : s ≤ u.moveTo t.cursor := State.le_moveTo_of_le h' (State.cursor_le_of_le h)
      have next : s ≤ u.moveTo (t.cursor.advance 1) :=
        State.le_moveTo_of_le h' (le_trans (State.cursor_le_of_le h) (Cursor.le_advance _ _))
      cases stopped using outcome_cases with
      | ok v =>
          dsimp only
          split
          next empty => exact le_of_eq (State.moveTo_cursor_of_le h').symm
          next found =>
            cases o.consume with
            | true => exact h'
            | false => exact here
      | failure e => exact ih u next
      | tooDeep limit => exact h'
      | fault f => exact h'

theorem Forward.upTo {terminator : Parser α} (ht : Forward terminator) (o : ScanOptions) :
    Forward (terminator.upTo o) :=
  fun s => le_scan ht o s (le_refl s)

/-! ## Nesting -/

theorem forward_tooDeep : Forward (tooDeep : Parser α) := fun s => le_refl s

theorem Forward.nested {p : Parser α} (hp : Forward p) : Forward p.nested := by
  intro s
  cases entered : s.nesting.enter? with
  | none =>
      rw [nested_of_refused entered]
      exact le_refl s
  | some inner =>
      rw [nested_of_entered entered]
      have h : (⟨s.cursor, inner⟩ : State) ≤ (p ⟨s.cursor, inner⟩).state := hp _
      have same : inner = (p ⟨s.cursor, inner⟩).state.nesting := State.nesting_eq_of_le h
      refine ⟨h.1, ?_⟩
      -- Leaving undoes entering, and the run in between ends at the inner nesting.
      show s.nesting = (p ⟨s.cursor, inner⟩).state.nesting.leave
      rw [← same]
      exact (Nesting.leave_of_enter? entered).symm

end Parser

namespace Grammar

variable {ι : Type} {τ : ι → Type} {α : Type}

/-! ## Grammars -/

/-- Over forward rules every grammar is forward. -/
theorem forward_meaning {env : (i : ι) → Parser (τ i)} (henv : ∀ i, (env i).Forward)
    (p : Grammar τ α) : (p.meaning env).Forward := by
  induction p with
  | pure label v => exact Parser.forward_succeed v
  | fail e => exact Parser.forward_fail e
  | raise e => exact (Parser.isReading_raise e).forward
  | token text => exact (Parser.isReading_token text).forward
  | satisfy p => exact (Parser.isReading_satisfy p).forward
  | satisfyRun p allowEmpty => exact (Parser.isReading_span p allowEmpty _).forward
  | blanks allowEmpty => exact (Parser.isReading_span _ allowEmpty _).forward
  | number => exact Parser.isReading_number.forward
  | decimal locale symbols convert =>
      exact (Parser.isReading_decimal locale symbols convert).forward
  | upTo terminator o ih => exact ih.upTo o
  | map p f ih => exact ih.mapOrStop f
  | bind p f ihp ihf => exact ihp.bind ihf
  | orElse p q ihp ihq => exact ihp.orElse ihq
  | keepRight p q ihp ihq => exact ihp.keepRight ihq
  | keepLeft p q ihp ihq => exact ihp.keepLeft ihq
  | atomic p ih => exact ih.atomic
  | lookAhead p ih => exact ih.lookAhead
  | optional p fallback ih => exact ih.optional p.name fallback
  | discard p ih => exact ih.discard p.name
  | separated p separator o ihp ihsep => exact ihp.sequence ihsep p.name o
  | many p allowEmpty ih => exact ih.many p.name allowEmpty
  | context p label ih => exact ih.mapFailure _
  | complete p ih => exact ih.complete
  | firstError p ih => exact ih.mapFailure _
  | secondError p ih => exact ih.mapFailure _
  | choice branches ih =>
      refine (ih 0).choice fun q hq => ?_
      obtain ⟨i, rfl⟩ := List.mem_ofFn.mp hq
      exact ih i.succ
  | chain parts ih =>
      refine Parser.Forward.chain fun q hq => ?_
      obtain ⟨i, rfl⟩ := List.mem_ofFn.mp hq
      exact ih i
  | rule i label => exact henv i
  | named p label ih => exact ih

/-- Rules are forward, for any number of levels. -/
theorem forward_unroll (rules : (i : ι) → Grammar τ (τ i)) :
    ∀ (levels : Nat) (i : ι), (unroll rules levels i).Forward
  | 0, _ => Parser.forward_tooDeep
  | levels + 1, i => (forward_meaning (forward_unroll rules levels) (rules i)).nested

theorem forward (rules : (i : ι) → Grammar τ (τ i)) (p : Grammar τ α) :
    (p.parser rules).Forward :=
  fun s => forward_meaning (forward_unroll rules _) p s

/-! ## Whole runs -/

@[simp] theorem outcome_run (rules : (i : ι) → Grammar τ (τ i)) (p : Grammar τ α) (s : State) :
    (p.run rules s).outcome = (p.parser rules s).outcome := by
  rw [run, Run.outcome_resume]
  split <;> simp_all [Run.ok, Run.stop, Run.after]

@[simp] theorem state_run (rules : (i : ι) → Grammar τ (τ i)) (p : Grammar τ α) (s : State) :
    (p.run rules s).state = (p.parser rules s).state := by
  rw [run, Run.state_resume]
  split <;> rfl

/-- Whatever the outcome, a run ends in the text it began in, between its start and
the end of the text, and leaves the limit and the depth of the nesting alone. -/
theorem run_frame (rules : (i : ι) → Grammar τ (τ i)) (p : Grammar τ α) (s : State) :
    (p.run rules s).state.cursor.source = s.cursor.source ∧
      s.cursor.pos ≤ (p.run rules s).state.cursor.pos ∧
      (p.run rules s).state.cursor.pos ≤ s.cursor.source.length ∧
      (p.run rules s).state.nesting.depth = s.nesting.depth ∧
      (p.run rules s).state.nesting.limit = s.nesting.limit := by
  rw [state_run]
  have h : s ≤ (p.parser rules s).state := forward rules p s
  have source : s.cursor.source = (p.parser rules s).state.cursor.source :=
    Cursor.source_eq_of_le (State.cursor_le_of_le h)
  have nesting : s.nesting = (p.parser rules s).state.nesting := State.nesting_eq_of_le h
  refine ⟨source.symm, Cursor.pos_le_of_le (State.cursor_le_of_le h), ?_, ?_, ?_⟩
  · rw [source]
    exact Cursor.pos_le_length_source _
  · rw [← nesting]
  · rw [← nesting]

end Grammar

end Descent
