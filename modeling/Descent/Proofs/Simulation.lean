import Mathlib.Data.List.Forall2
import Descent.Grammar.Meaning
import Descent.Proofs.Reading

/-!
# Runs in step

Two runs of one grammar that begin in different states may still go the same way, step
by step.  A `Simulation` says how far the states may differ: which places are in step,
and whether the right run may have the higher nesting limit.

* What a parser sees at places in step is the same: the rest, and how far apart two
  places are.
* A right run with a higher limit goes on where the left one stops at its limit.  So runs
  in step end alike unless the left one stops there (`Simulation.Runs`).

A stop at the limit goes through every combinator.  This is what `Runs.resume` asks of a
continuation, and it is why the two runs cannot part company in any other way.  All
combinators keep parsers in step, so every grammar is in step with itself
(`Grammar.in_step`).
-/

namespace Descent

/-! ## Failures in step -/

/-- Failures that differ in the places of incomplete parses only, and these are related. -/
inductive ParseError.InStep (C : Cursor → Cursor → Prop) : ParseError → ParseError → Prop where
  | refl (e : ParseError) : InStep C e e
  | incomplete {c d : Cursor} (h : C c d) : InStep C (.incomplete c) (.incomplete d)
  | context (label : String) {e e' : ParseError} (h : InStep C e e') :
      InStep C (.context label e) (.context label e')
  | either {first first' second second' : ParseError} (h : InStep C first first')
      (h' : InStep C second second') : InStep C (.either first second) (.either first' second')

/-- Where only equal places are related, so are only equal failures. -/
theorem ParseError.InStep.eq {e e' : ParseError} (h : e.InStep Eq e') : e = e' := by
  induction h with
  | refl e => rfl
  | incomplete h => rw [h]
  | context label h ih => rw [ih]
  | either h h' ih ih' => rw [ih, ih']

/-! ## Simulations -/

/-- How far the states of two runs may differ. -/
structure Simulation where
  /-- The places in step. -/
  Cursors : Cursor → Cursor → Prop
  /-- The right run may have the higher nesting limit. -/
  Raised : Prop
  /-- Places in step have the same rest. -/
  rest_eq {c d : Cursor} : Cursors c d → c.rest = d.rest
  /-- Two places on the left are as far apart as on the right. -/
  distance {c d c' d' : Cursor} : Cursors c d → Cursors c' d' → c.pos + d'.pos = d.pos + c'.pos
  /-- Places in step move in step. -/
  advance {c d : Cursor} : Cursors c d → ∀ n, Cursors (c.advance n) (d.advance n)

namespace Simulation

variable {α β : Type} {S : Simulation}

/-! ### Places in step -/

theorem isAtEnd_eq {c d : Cursor} (h : S.Cursors c d) : c.isAtEnd = d.isAtEnd := by
  rw [Cursor.isAtEnd, Cursor.isAtEnd, S.rest_eq h]

theorem remaining_eq {c d : Cursor} (h : S.Cursors c d) : c.remaining = d.remaining := by
  rw [Cursor.remaining, Cursor.remaining, S.rest_eq h]

theorem pos_lt_iff {c d c' d' : Cursor} (h : S.Cursors c d) (h' : S.Cursors c' d') :
    c.pos < c'.pos ↔ d.pos < d'.pos := by
  have := S.distance h h'
  omega

theorem pos_eq_iff {c d c' d' : Cursor} (h : S.Cursors c d) (h' : S.Cursors c' d') :
    c.pos = c'.pos ↔ d.pos = d'.pos := by
  have := S.distance h h'
  omega

theorem textTo_eq {c d c' d' : Cursor} (h : S.Cursors c d) (h' : S.Cursors c' d') :
    c.textTo c' = d.textTo d' := by
  have := S.distance h h'
  have apart : c'.pos - c.pos = d'.pos - d.pos := by omega
  rw [Cursor.textTo, Cursor.textTo, S.rest_eq h, apart]

theorem length_rest_lt_iff {c d c' d' : Cursor} (h : S.Cursors c d) (h' : S.Cursors c' d') :
    c.rest.length < c'.rest.length ↔ d.rest.length < d'.rest.length := by
  rw [S.rest_eq h, S.rest_eq h']

/-! ### Nestings and states in step -/

/-- One depth, and one limit unless it may be raised. -/
structure Nestings (S : Simulation) (g h : Nesting) : Prop where
  depth : g.depth = h.depth
  limit : g.limit = h.limit ∨ S.Raised ∧ g.limit ≤ h.limit

theorem Nestings.leave {g h : Nesting} (hn : S.Nestings g h) : S.Nestings g.leave h.leave :=
  ⟨by rw [Nesting.leave, Nesting.leave, hn.depth], hn.limit⟩

/-- Where the left run may go deeper, so may the right one. -/
theorem Nestings.enter {g h g' : Nesting} (hn : S.Nestings g h) (entered : g.enter? = some g') :
    ∃ h', h.enter? = some h' ∧ S.Nestings g' h' := by
  obtain ⟨depth, limit⟩ := hn
  unfold Nesting.enter? at entered
  split at entered
  next full => cases entered
  next room =>
    cases entered
    refine ⟨⟨h.limit, h.depth + 1⟩, ?_, ?_, limit⟩
    · unfold Nesting.enter?
      rw [if_neg]
      rcases limit with same | ⟨-, le⟩ <;> omega
    · rw [depth]

/-- Where the limit may not be raised, the nestings are the same. -/
theorem Nestings.eq_or_raised {g h : Nesting} (hn : S.Nestings g h) : g = h ∨ S.Raised := by
  obtain ⟨depth, same | ⟨raised, -⟩⟩ := hn
  · left
    obtain ⟨limit, d⟩ := g
    obtain ⟨limit', d'⟩ := h
    simp_all
  · exact .inr raised

theorem Nestings.budget {g h : Nesting} (hn : S.Nestings g h) :
    g.budget = h.budget ∨ S.Raised ∧ g.budget ≤ h.budget := by
  obtain ⟨depth, same | ⟨raised, le⟩⟩ := hn
  · left
    rw [Nesting.budget, Nesting.budget, depth, same]
  · refine .inr ⟨raised, ?_⟩
    rw [Nesting.budget, Nesting.budget, depth]
    omega

/-- States that may differ in the place and, where it may be raised, in the limit. -/
structure States (S : Simulation) (s s' : State) : Prop where
  cursor : S.Cursors s.cursor s'.cursor
  nesting : S.Nestings s.nesting s'.nesting

theorem States.moveTo {s s' : State} {c d : Cursor} (hs : S.States s s') (h : S.Cursors c d) :
    S.States (s.moveTo c) (s'.moveTo d) :=
  ⟨h, hs.nesting⟩

/-! ### Runs in step -/

/-- Outcomes that differ in the places of incomplete parses only. -/
inductive Outcomes (S : Simulation) : Except Stop α → Except Stop α → Prop where
  | ok (v : α) : S.Outcomes (.ok v) (.ok v)
  | failure {e e' : ParseError} (h : e.InStep S.Cursors e') :
      S.Outcomes (.error (.failure e)) (.error (.failure e'))
  | tooDeep (limit : Int) : S.Outcomes (.error (.tooDeep limit)) (.error (.tooDeep limit))
  | fault (f : Fault) : S.Outcomes (.error (.fault f)) (.error (.fault f))

theorem Outcomes.refl (o : Except Stop α) : S.Outcomes o o := by
  cases o using outcome_cases with
  | ok v => exact .ok v
  | failure e => exact .failure (.refl e)
  | tooDeep limit => exact .tooDeep limit
  | fault f => exact .fault f

/-- Runs that end alike, in states in step and with the same trace.  If the limit may be
raised, the left one may have stopped at it instead. -/
inductive Runs (S : Simulation) (r r' : Run α) : Prop where
  | alike (outcome : S.Outcomes r.outcome r'.outcome) (state : S.States r.state r'.state)
      (trace : r.trace = r'.trace) : S.Runs r r'
  | tooDeep (raised : S.Raised) {limit : Int} (stopped : r.outcome = .error (.tooDeep limit)) :
      S.Runs r r'

theorem Runs.ok (v : α) {s s' : State} (hs : S.States s s') : S.Runs (.ok v s) (.ok v s') :=
  .alike (.ok v) hs rfl

theorem Runs.stop {e e' : Stop} {s s' : State}
    (ho : S.Outcomes (.error e : Except Stop α) (.error e')) (hs : S.States s s') :
    S.Runs (.stop e s : Run α) (.stop e' s') :=
  .alike ho hs rfl

theorem Runs.after {r r' : Run α} (h : S.Runs r r') (e : Event) :
    S.Runs (r.after e) (r'.after e) := by
  cases h with
  | alike outcome state trace =>
      refine .alike outcome state ?_
      rw [Run.after, Run.after, trace]
  | tooDeep raised stopped => exact .tooDeep raised stopped

theorem Runs.map {r r' : Run α} (h : S.Runs r r') (f : α → β) : S.Runs (r.map f) (r'.map f) := by
  obtain ⟨o, s, t⟩ := r
  obtain ⟨o', s', t'⟩ := r'
  cases h with
  | alike outcome state trace =>
      cases outcome with
      | ok v => exact .alike (.ok (f v)) state trace
      | failure he => exact .alike (.failure he) state trace
      | tooDeep limit => exact .alike (.tooDeep limit) state trace
      | fault fault => exact .alike (.fault fault) state trace
  | @tooDeep raised limit stopped =>
      have unchanged : o.map f = .error (.tooDeep limit) := by
        rw [show o = .error (.tooDeep limit) from stopped]
        rfl
      exact .tooDeep raised unchanged

/-- Going on in step, where a stop at the limit goes through on the left. -/
theorem Runs.resume {r r' : Run α} {k k' : Except Stop α → State → Run β} (h : S.Runs r r')
    (hk : ∀ o o' s s', S.Outcomes o o' → S.States s s' → S.Runs (k o s) (k' o' s'))
    (hd : ∀ limit s, (k (.error (.tooDeep limit)) s).outcome = .error (.tooDeep limit)) :
    S.Runs (r.resume k) (r'.resume k') := by
  cases h with
  | alike outcome state trace =>
      cases hk _ _ _ _ outcome state with
      | alike outcome' state' trace' =>
          refine .alike outcome' state' ?_
          rw [Run.trace_resume, Run.trace_resume, trace, trace']
      | tooDeep raised stopped => exact .tooDeep raised stopped
  | @tooDeep raised limit stopped =>
      have through : (r.resume k).outcome = .error (.tooDeep limit) := by
        rw [Run.outcome_resume, stopped]
        exact hd limit _
      exact .tooDeep raised through

theorem Runs.noteCaught {r r' : Run α} {e e' : Stop} (h : S.Runs r r')
    (ho : S.Outcomes (.error e : Except Stop α) (.error e')) (catcher : Catcher) (name : String) :
    S.Runs (Parser.noteCaught catcher name e r) (Parser.noteCaught catcher name e' r') := by
  cases ho with
  | failure he => exact h
  | tooDeep limit => exact h
  | fault f => exact h.after _

/-! ### Parsers in step -/

/-- In states in step the parsers have runs in step. -/
def Parsers (S : Simulation) (p p' : Parser α) : Prop :=
  ∀ s s', S.States s s' → S.Runs (p s) (p' s')

theorem parsers_of_isReading {p : Parser α} (h : p.IsReading) : S.Parsers p p := by
  obtain ⟨look, hlook⟩ := h
  intro s s' hs
  rw [hlook, hlook, ← S.rest_eq hs.cursor]
  exact .alike (.refl _) (hs.moveTo (S.advance hs.cursor _)) rfl

theorem parsers_succeed (v : α) : S.Parsers (Parser.succeed v) (Parser.succeed v) :=
  parsers_of_isReading (Parser.isReading_succeed v)

theorem parsers_fail {e e' : ParseError} (h : e.InStep S.Cursors e') :
    S.Parsers (Parser.fail e : Parser α) (Parser.fail e') :=
  fun _ _ hs => .stop (.failure h) hs

/-! ### Going on -/

theorem Parsers.andThen {p p' : Parser α} {f f' : α → Parser β} (hp : S.Parsers p p')
    (hf : ∀ v, S.Parsers (f v) (f' v)) : S.Parsers (p.andThen f) (p'.andThen f') := by
  intro s s' hs
  refine (hp s s' hs).resume (fun o o' t t' ho ht => ?_) ?_
  · cases ho with
    | ok v => exact hf v t t' ht
    | failure he => exact .stop (.failure he) ht
    | tooDeep limit => exact .stop (.tooDeep limit) ht
    | fault f => exact .stop (.fault f) ht
  · exact fun limit t => rfl

theorem Parsers.recover {p p' : Parser α} {f f' : Stop → Parser α} (hp : S.Parsers p p')
    (hf : ∀ e e', S.Outcomes (.error e : Except Stop α) (.error e') → S.Parsers (f e) (f' e'))
    (hd : ∀ limit s, (f (.tooDeep limit) s).outcome = .error (.tooDeep limit)) :
    S.Parsers (p.recover f) (p'.recover f') := by
  intro s s' hs
  refine (hp s s' hs).resume (fun o o' t t' ho ht => ?_) hd
  cases ho with
  | ok v => exact .ok v ht
  | failure he => exact hf _ _ (.failure he) t t' ht
  | tooDeep limit => exact hf _ _ (.tooDeep limit) t t' ht
  | fault f => exact hf _ _ (.fault f) t t' ht

theorem Parsers.catchFailure {p p' : Parser α} {f f' : ParseError → Parser α}
    (hp : S.Parsers p p') (hf : ∀ e e', e.InStep S.Cursors e' → S.Parsers (f e) (f' e')) :
    S.Parsers (p.catchFailure f) (p'.catchFailure f') := by
  refine hp.recover (fun e e' ho => ?_) fun limit s => rfl
  cases ho with
  | failure he => exact hf _ _ he
  | tooDeep limit => exact fun _ _ ht => .stop (.tooDeep limit) ht
  | fault f => exact fun _ _ ht => .stop (.fault f) ht

theorem Parsers.mapOrStop {p p' : Parser α} (hp : S.Parsers p p') (f : α → Except Stop β) :
    S.Parsers (p.mapOrStop f) (p'.mapOrStop f) := by
  refine hp.andThen fun v => ?_
  cases f v with
  | ok w => exact parsers_succeed w
  | error e => exact parsers_of_isReading (Parser.isReading_raise e)

theorem Parsers.mapFailure {p p' : Parser α} {f f' : ParseError → ParseError}
    (hp : S.Parsers p p')
    (hf : ∀ e e', e.InStep S.Cursors e' → (f e).InStep S.Cursors (f' e')) :
    S.Parsers (p.mapFailure f) (p'.mapFailure f') :=
  hp.catchFailure fun e e' he => parsers_fail (hf e e' he)

/-! ### Putting the cursor back -/

theorem Parsers.atomic {p p' : Parser α} (hp : S.Parsers p p') :
    S.Parsers p.atomic p'.atomic := by
  intro s s' hs
  have back : ∀ e e', S.Outcomes (.error e : Except Stop α) (.error e') →
      S.Parsers (fun t => .stop e (t.moveTo s.cursor)) (fun t => .stop e' (t.moveTo s'.cursor)) :=
    fun e e' ho t t' ht => .stop ho (ht.moveTo hs.cursor)
  exact hp.recover back (fun limit t => rfl) s s' hs

theorem Parsers.bind {p p' : Parser α} {f f' : α → Parser β} (hp : S.Parsers p p')
    (hf : ∀ v, S.Parsers (f v) (f' v)) : S.Parsers (p.bind f) (p'.bind f') :=
  (hp.andThen hf).atomic

theorem Parsers.orElse {p p' q q' : Parser α} (hp : S.Parsers p p') (hq : S.Parsers q q') :
    S.Parsers (p.orElse q) (p'.orElse q') :=
  (hp.catchFailure fun _ _ he => hq.mapFailure fun _ _ he' => .either he he').atomic

theorem Parsers.keepRight {p p' : Parser α} {q q' : Parser β} (hp : S.Parsers p p')
    (hq : S.Parsers q q') : S.Parsers (p.keepRight q) (p'.keepRight q') :=
  (hp.andThen fun _ => hq).atomic

theorem Parsers.keepLeft {p p' : Parser α} {q q' : Parser β} (hp : S.Parsers p p')
    (hq : S.Parsers q q') : S.Parsers (p.keepLeft q) (p'.keepLeft q') :=
  (hp.andThen fun v => hq.andThen fun _ => parsers_succeed v).atomic

theorem Parsers.lookAhead {p p' : Parser α} (hp : S.Parsers p p') :
    S.Parsers p.lookAhead p'.lookAhead := by
  intro s s' hs
  exact hp.andThen (fun v t t' ht => .ok v (ht.moveTo hs.cursor)) s s' hs

/-! ### Going on after a stop -/

theorem Parsers.optional {p p' : Parser α} (hp : S.Parsers p p') (name : String) (fallback : α) :
    S.Parsers (p.optional name fallback) (p'.optional name fallback) := by
  intro s s' hs
  refine hp.recover (fun e e' ho t t' ht => ?_) (fun limit t => rfl) s s' hs
  have back : S.Runs (.ok fallback (t.moveTo s.cursor)) (.ok fallback (t'.moveTo s'.cursor)) :=
    .ok fallback (ht.moveTo hs.cursor)
  cases ho with
  | failure he => exact back.noteCaught (.failure he) _ name
  | tooDeep limit => exact .stop (.tooDeep limit) ht
  | fault f => exact back.noteCaught (.fault f) _ name

theorem Parsers.discard {p p' : Parser α} (hp : S.Parsers p p') (name : String) :
    S.Parsers (p.discard name) (p'.discard name) := by
  have unit : S.Parsers (p.andThen fun _ => Parser.succeed ())
      (p'.andThen fun _ => Parser.succeed ()) := hp.andThen fun _ => parsers_succeed ()
  refine unit.recover (fun e e' ho t t' ht => ?_) fun limit t => rfl
  cases ho with
  | failure he => exact (Runs.ok () ht).noteCaught (.failure he) _ name
  | tooDeep limit => exact .stop (.tooDeep limit) ht
  | fault f => exact (Runs.ok () ht).noteCaught (.fault f) _ name

/-! ### Failures -/

theorem Parsers.complete {p p' : Parser α} (hp : S.Parsers p p') :
    S.Parsers p.complete p'.complete := by
  refine hp.andThen fun v t t' ht => ?_
  rw [← isAtEnd_eq ht.cursor]
  split
  next atEnd => exact .ok v ht
  next unread => exact .stop (.failure (.incomplete ht.cursor)) ht

theorem Parsers.firstError {p p' : Parser α} (hp : S.Parsers p p') :
    S.Parsers p.firstError p'.firstError := by
  refine hp.mapFailure fun e e' he => ?_
  cases he with
  | refl e => exact .refl _
  | incomplete h => exact .incomplete h
  | context label h => exact .context label h
  | either h h' => exact h

theorem Parsers.secondError {p p' : Parser α} (hp : S.Parsers p p') :
    S.Parsers p.secondError p'.secondError := by
  refine hp.mapFailure fun e e' he => ?_
  cases he with
  | refl e => exact .refl _
  | incomplete h => exact .incomplete h
  | context label h => exact .context label h
  | either h h' => exact h'

/-! ### Lists of parsers -/

/-- The same positions of two tables, for the branches of a grammar under two
environments. -/
theorem forall₂_ofFn {n : Nat} {ps ps' : Fin n → Parser α}
    (h : ∀ i, S.Parsers (ps i) (ps' i)) :
    List.Forall₂ S.Parsers (List.ofFn ps) (List.ofFn ps') := by
  induction n with
  | zero =>
      rw [List.ofFn_zero, List.ofFn_zero]
      exact .nil
  | succ n ih =>
      rw [List.ofFn_succ, List.ofFn_succ]
      exact .cons (h 0) (ih fun i => h i.succ)

theorem parsers_otherwise {start start' : Cursor} (hstart : S.Cursors start start')
    {ps ps' : List (Parser α)} (hps : List.Forall₂ S.Parsers ps ps') :
    ∀ {e e' : ParseError}, e.InStep S.Cursors e' →
      S.Parsers (Parser.otherwise start e ps) (Parser.otherwise start' e' ps') := by
  induction hps with
  | nil => exact fun he => parsers_fail he
  | cons hp _ ih =>
      intro e e' he
      exact hp.catchFailure fun _ _ he' t t' ht => ih (.either he he') _ _ (ht.moveTo hstart)

theorem Parsers.choice {p p' : Parser α} {ps ps' : List (Parser α)} (hp : S.Parsers p p')
    (hps : List.Forall₂ S.Parsers ps ps') : S.Parsers (p.choice ps) (p'.choice ps') := by
  intro s s' hs
  exact hp.catchFailure (fun _ _ he => parsers_otherwise hs.cursor hps he) s s' hs

theorem parsers_chain {ps ps' : List (Parser α)} (hps : List.Forall₂ S.Parsers ps ps') :
    S.Parsers (Parser.chain ps) (Parser.chain ps') := by
  induction hps with
  | nil => exact parsers_succeed []
  | cons hp _ ih => exact hp.andThen fun v => ih.andThen fun vs => parsers_succeed (v :: vs)

/-! ### Repetition -/

theorem Parsers.many {p p' : Parser α} (hp : S.Parsers p p') (name : String) (allowEmpty : Bool) :
    S.Parsers (p.many name allowEmpty) (p'.many name allowEmpty) := by
  intro s
  induction allowEmpty, s using Parser.many.induct with
  | case1 allowEmpty s ih =>
      intro s' hs
      rw [Parser.many, Parser.many]
      refine (hp s s' hs).resume (fun o o' t t' ho ht => ?_) ?_
      · cases ho with
        | ok v =>
            have same := length_rest_lt_iff ht.cursor hs.cursor
            dsimp only
            split
            next progress =>
              rw [if_pos (same.mp progress)]
              exact (ih t progress t' ht).map _
            next stalled =>
              rw [if_neg fun progress => stalled (same.mpr progress)]
              exact (Runs.ok [v] ht).after _
        | failure he =>
            cases allowEmpty with
            | true => exact (Runs.ok [] ht).noteCaught (.failure he) .many name
            | false => exact .stop (.failure he) ht
        | tooDeep limit => exact .stop (.tooDeep limit) ht
        | fault f =>
            cases allowEmpty with
            | true => exact (Runs.ok [] ht).noteCaught (.fault f) .many name
            | false => exact .stop (.fault f) ht
      · exact fun limit t => rfl

theorem Parsers.rounds {p p' : Parser α} {separator separator' : Parser β} (hp : S.Parsers p p')
    (hsep : S.Parsers separator separator') (name : String) (o : Parser.SequenceOptions) :
    S.Parsers (Parser.rounds name o p separator) (Parser.rounds name o p' separator') := by
  intro s
  induction s using Parser.rounds.induct with
  | case1 s atEnd =>
      intro s' hs
      rw [Parser.rounds, Parser.rounds, ← isAtEnd_eq hs.cursor, if_pos atEnd, if_pos atEnd]
      exact .ok [] hs
  | case2 s notAtEnd ih =>
      intro s' hs
      rw [Parser.rounds, Parser.rounds, ← isAtEnd_eq hs.cursor, if_neg notAtEnd, if_neg notAtEnd]
      refine (hsep s s' hs).resume (fun separated separated' t t' hw ht => ?_) ?_
      · cases hw with
        | failure he => exact .ok [] (ht.moveTo hs.cursor)
        | tooDeep limit => exact .stop (.tooDeep limit) ht
        | fault f => exact .stop (.fault f) ht
        | ok w =>
            refine (hp t t' ht).resume (fun element element' u u' hv hu => ?_) ?_
            · cases hv with
              | ok v =>
                  have same := length_rest_lt_iff hu.cursor hs.cursor
                  dsimp only
                  split
                  next progress =>
                    rw [if_pos (same.mp progress)]
                    exact (ih u progress u' hu).map _
                  next stalled =>
                    rw [if_neg fun progress => stalled (same.mpr progress)]
                    exact (Runs.ok [v] hu).after _
              | failure he =>
                  cases hkeep : o.allowTrailing with
                  | true => simpa [hkeep] using Runs.ok [] hu
                  | false => simpa [hkeep] using Runs.ok [] (hu.moveTo hs.cursor)
              | tooDeep limit => exact .stop (.tooDeep limit) hu
              | fault f => exact .stop (.fault f) hu
            · exact fun limit t => rfl
      · exact fun limit t => rfl

theorem Parsers.sequence {p p' : Parser α} {separator separator' : Parser β}
    (hp : S.Parsers p p') (hsep : S.Parsers separator separator') (name : String)
    (o : Parser.SequenceOptions) :
    S.Parsers (p.sequence name o separator) (p'.sequence name o separator') := by
  intro s s' hs
  refine (hp s s' hs).resume (fun first first' t t' hv ht => ?_) ?_
  · cases hv with
    | ok v => exact (hp.rounds hsep name o t t' ht).map _
    | failure he =>
        dsimp only
        split
        next allowed => exact .ok [] ht
        next notAllowed => exact .stop (.failure he) ht
    | tooDeep limit => exact .stop (.tooDeep limit) ht
    | fault f => exact .stop (.fault f) ht
  · exact fun limit t => rfl

/-- Scans in step have starts in step too.  They compare their place with the start. -/
theorem parsers_scan {t t' : Parser α} (ht : S.Parsers t t') (o : Parser.ScanOptions)
    {start start' : Cursor} (hstart : S.Cursors start start') :
    S.Parsers (Parser.scan o t start) (Parser.scan o t' start') := by
  intro s
  induction s using Parser.scan.induct o start with
  | case1 s atEnd allowed =>
      intro s' hs
      have allowed' : o.allowEnd ∧ (o.allowEmpty ∨ start'.pos < s'.cursor.pos) := by
        rwa [← pos_lt_iff hstart hs.cursor]
      rw [Parser.scan, Parser.scan, ← isAtEnd_eq hs.cursor, if_pos atEnd, if_pos atEnd,
        if_pos allowed, if_pos allowed', remaining_eq hstart]
      exact .ok _ hs
  | case2 s atEnd notAllowed =>
      intro s' hs
      have notAllowed' : ¬ (o.allowEnd ∧ (o.allowEmpty ∨ start'.pos < s'.cursor.pos)) := by
        rwa [← pos_lt_iff hstart hs.cursor]
      rw [Parser.scan, Parser.scan, ← isAtEnd_eq hs.cursor, if_pos atEnd, if_pos atEnd,
        if_neg notAllowed, if_neg notAllowed']
      exact .stop (.refl _) (hs.moveTo hstart)
  | case3 s notAtEnd ih =>
      intro s' hs
      rw [Parser.scan, Parser.scan, ← isAtEnd_eq hs.cursor, if_neg notAtEnd, if_neg notAtEnd]
      refine (ht s s' hs).resume (fun found found' u u' hv hu => ?_) ?_
      · cases hv with
        | ok v =>
            have same : (s.cursor.pos = start.pos ∧ ¬ o.allowEmpty) ↔
                (s'.cursor.pos = start'.pos ∧ ¬ o.allowEmpty) :=
              and_congr_left' (pos_eq_iff hs.cursor hstart)
            dsimp only
            by_cases empty : s.cursor.pos = start.pos ∧ ¬ o.allowEmpty
            · rw [if_pos empty, if_pos (same.mp empty)]
              exact .stop (.refl _) (hu.moveTo hstart)
            · rw [if_neg empty, if_neg (empty ∘ same.mpr), textTo_eq hstart hs.cursor]
              cases o.consume with
              | true => exact .ok _ hu
              | false => exact .ok _ (hu.moveTo hs.cursor)
        | failure he => exact ih u _ (hu.moveTo (S.advance hs.cursor 1))
        | tooDeep limit => exact .stop (.tooDeep limit) hu
        | fault f => exact .stop (.fault f) hu
      · exact fun limit t => rfl

theorem Parsers.upTo {t t' : Parser α} (ht : S.Parsers t t') (o : Parser.ScanOptions) :
    S.Parsers (t.upTo o) (t'.upTo o) :=
  fun s s' hs => parsers_scan ht o hs.cursor s s' hs

/-! ### Nesting -/

theorem parsers_tooDeep : S.Parsers (Parser.tooDeep : Parser α) Parser.tooDeep := by
  intro s s' hs
  rcases hs.nesting.eq_or_raised with same | raised
  · rw [Parser.tooDeep, Parser.tooDeep, same]
    exact .stop (.tooDeep _) hs
  · exact .tooDeep raised rfl

/-- Whatever the right parser does where the left one stops at a limit that may be
raised. -/
theorem parsers_tooDeep_of_raised (raised : S.Raised) (p : Parser α) :
    S.Parsers Parser.tooDeep p :=
  fun _ _ _ => .tooDeep raised rfl

theorem Parsers.nested {p p' : Parser α} (hp : S.Parsers p p') : S.Parsers p.nested p'.nested := by
  intro s s' hs
  cases entered : s.nesting.enter? with
  | none =>
      rw [Parser.nested_of_refused entered]
      rcases hs.nesting.eq_or_raised with same | raised
      · rw [Parser.nested_of_refused (same ▸ entered), ← same]
        exact .stop (.tooDeep _) hs
      · exact .tooDeep raised rfl
  | some inner =>
      obtain ⟨inner', entered', hinner⟩ := hs.nesting.enter entered
      rw [Parser.nested_of_entered entered, Parser.nested_of_entered entered']
      cases hp ⟨s.cursor, inner⟩ ⟨s'.cursor, inner'⟩ ⟨hs.cursor, hinner⟩ with
      | alike outcome state trace =>
          exact .alike outcome ⟨state.cursor, state.nesting.leave⟩ trace
      | tooDeep raised stopped => exact .tooDeep raised stopped

end Simulation

/-! ## Grammars in step -/

namespace Grammar

variable {ι : Type} {τ : ι → Type} {α : Type} {S : Simulation}

open Simulation

/-- Over rules in step every grammar is in step. -/
theorem in_step_meaning {env env' : (i : ι) → Parser (τ i)}
    (henv : ∀ i, S.Parsers (env i) (env' i)) (p : Grammar τ α) :
    S.Parsers (p.meaning env) (p.meaning env') := by
  induction p with
  | pure label v => exact parsers_succeed v
  | fail e => exact parsers_fail (.refl e)
  | raise e => exact parsers_of_isReading (Parser.isReading_raise e)
  | token text => exact parsers_of_isReading (Parser.isReading_token text)
  | satisfy p => exact parsers_of_isReading (Parser.isReading_satisfy p)
  | satisfyRun p allowEmpty => exact parsers_of_isReading (Parser.isReading_span p allowEmpty _)
  | blanks allowEmpty => exact parsers_of_isReading (Parser.isReading_span _ allowEmpty _)
  | number => exact parsers_of_isReading Parser.isReading_number
  | decimal locale symbols convert =>
      exact parsers_of_isReading (Parser.isReading_decimal locale symbols convert)
  | upTo terminator o ih => exact ih.upTo o
  | map p f ih => exact ih.mapOrStop f
  | bind p f ihp ihf => exact ihp.bind ihf
  | orElse p q ihp ihq => exact ihp.orElse ihq
  | keepRight p q ihp ihq => exact ihp.keepRight ihq
  | keepLeft p q ihp ihq => exact ihp.keepLeft ihq
  | atomic p ih => exact ih.atomic
  | lookAhead p ih => exact ih.lookAhead
  | optional p fallback ih => exact ih.optional p.name fallback
  | discard p ih => exact ih.discard p.name
  | separated p separator o ihp ihsep => exact ihp.sequence ihsep p.name o
  | many p allowEmpty ih => exact ih.many p.name allowEmpty
  | context p label ih => exact ih.mapFailure fun _ _ he => .context label he
  | complete p ih => exact ih.complete
  | firstError p ih => exact ih.firstError
  | secondError p ih => exact ih.secondError
  | choice branches ih => exact (ih 0).choice (forall₂_ofFn fun i => ih i.succ)
  | chain parts ih => exact parsers_chain (forall₂_ofFn ih)
  | rule i label => exact henv i
  | named p label ih => exact ih

/-- Rules are in step, for as many levels on the right as on the left, or for more where
the limit may be raised. -/
theorem in_step_unroll (rules : (i : ι) → Grammar τ (τ i)) :
    ∀ {levels levels' : Nat}, levels = levels' ∨ S.Raised ∧ levels ≤ levels' →
      ∀ i, S.Parsers (unroll rules levels i) (unroll rules levels' i)
  | 0, 0, _, _ => parsers_tooDeep
  | 0, _ + 1, h, _ => parsers_tooDeep_of_raised (h.resolve_left nofun).1 _
  | _ + 1, 0, h, _ => absurd (h.resolve_left nofun).2 (Nat.not_succ_le_zero _)
  | _ + 1, _ + 1, h, i =>
      (in_step_meaning (in_step_unroll rules
        (h.imp Nat.succ.inj fun h => ⟨h.1, Nat.le_of_succ_le_succ h.2⟩)) (rules i)).nested

/-- Every grammar is in step with itself. -/
theorem in_step (S : Simulation) (rules : (i : ι) → Grammar τ (τ i)) (p : Grammar τ α) :
    S.Parsers (p.parser rules) (p.parser rules) :=
  fun s s' hs =>
    have levels := hs.nesting.budget.imp (congrArg (· + 1)) fun h => ⟨h.1, Nat.succ_le_succ h.2⟩
    in_step_meaning (in_step_unroll rules levels) p s s' hs

end Grammar

end Descent
