import Descent.Proofs.Forward
import Descent.Proofs.Simulation

/-!
# Higher limits

The nesting limit bounds how deep a run may go, and it does nothing else.  A run that
does not stop at its limit goes the same way under every higher one: it ends alike, at
the same place and depth, and its trace, and so its log, is the same
(`run_of_limit_le`).  So no combinator masks a stop at the limit.  One that did would
turn an input that is nested too deeply into another parse.

The proof takes the two runs for a simulation in which places are equal and the limit
may be raised.
-/

namespace Descent

/-! ## Equal places under a higher limit -/

namespace Simulation

/-- Runs at one place, of which the right one may go deeper. -/
def raise : Simulation where
  Cursors := Eq
  Raised := True
  rest_eq h := by rw [h]
  distance h h' := by rw [h, h']
  advance h n := by rw [h]

theorem states_raise (c : Cursor) (depth : Int) {limit limit' : Int} (hle : limit ≤ limit') :
    raise.States ⟨c, ⟨limit, depth⟩⟩ ⟨c, ⟨limit', depth⟩⟩ :=
  ⟨rfl, rfl, .inr ⟨trivial, hle⟩⟩

theorem eq_of_outcomes_raise {α : Type} {o o' : Except Stop α} (h : raise.Outcomes o o') :
    o = o' := by
  cases h with
  | ok v => rfl
  | failure he => rw [ParseError.InStep.eq he]
  | tooDeep limit => rfl
  | fault f => rfl

end Simulation

namespace Grammar

variable {ι : Type} {τ : ι → Type} {α : Type}

/-! ## Whole runs -/

/-- What a whole run notes about a failure is the place and the code, and both are the
same. -/
theorem runs_raise (rules : (i : ι) → Grammar τ (τ i)) (p : Grammar τ α) {s s' : State}
    (hs : Simulation.raise.States s s') :
    Simulation.raise.Runs (p.run rules s) (p.run rules s') := by
  refine (in_step Simulation.raise rules p s s' hs).resume (fun o o' t t' ho ht => ?_) ?_
  · have place : t.cursor = t'.cursor := ht.cursor
    cases ho with
    | ok v => exact .ok v ht
    | @failure e e' he =>
        obtain rfl : e = e' := he.eq
        dsimp only
        rw [place]
        exact (Simulation.Runs.stop (.failure he) ht).after _
    | tooDeep limit => exact .stop (.tooDeep limit) ht
    | fault f => exact .stop (.fault f) ht
  · exact fun limit t => rfl

/-- A run that does not stop at its limit goes the same way under a higher limit. -/
theorem run_of_limit_le (rules : (i : ι) → Grammar τ (τ i)) (p : Grammar τ α) (c : Cursor)
    (depth : Int) {limit limit' : Int} (hle : limit ≤ limit')
    (settled : ∀ m, (p.run rules ⟨c, ⟨limit, depth⟩⟩).outcome ≠ .error (.tooDeep m)) :
    (p.run rules ⟨c, ⟨limit', depth⟩⟩).outcome = (p.run rules ⟨c, ⟨limit, depth⟩⟩).outcome ∧
      (p.run rules ⟨c, ⟨limit', depth⟩⟩).state.cursor =
        (p.run rules ⟨c, ⟨limit, depth⟩⟩).state.cursor ∧
      (p.run rules ⟨c, ⟨limit', depth⟩⟩).state.nesting.depth =
        (p.run rules ⟨c, ⟨limit, depth⟩⟩).state.nesting.depth ∧
      (p.run rules ⟨c, ⟨limit', depth⟩⟩).trace = (p.run rules ⟨c, ⟨limit, depth⟩⟩).trace := by
  cases runs_raise rules p (Simulation.states_raise c depth hle) with
  | alike outcome state trace =>
      have depth := state.nesting.depth
      exact ⟨(Simulation.eq_of_outcomes_raise outcome).symm, Eq.symm state.cursor, depth.symm,
        trace.symm⟩
  | tooDeep raised stopped => exact absurd stopped (settled _)

/-- Counts the round brackets around nothing.  Brackets that do not match are nothing
too. -/
def parens (_ : Unit) : Grammar (fun _ : Unit => Int) Int :=
  ((((token "(").keepRight (rule ())).keepLeft (token ")")).map fun n => .ok (n + 1)).orElse
    (succeed 0)

/-- At the third level, the last one allowed, there are no more brackets, so ninety more
levels make no difference. -/
theorem run_parens_of_limit_le :
    (5 : Int) ≤ 95 ∧
      (∀ m, ((rule ()).run parens ⟨.ofChars "x(())".toList 1, ⟨5, 2⟩⟩).outcome ≠
        .error (.tooDeep m)) ∧
      ((rule ()).run parens ⟨.ofChars "x(())".toList 1, ⟨95, 2⟩⟩).outcome = .ok (2 : Int) ∧
      ((rule ()).run parens ⟨.ofChars "x(())".toList 1, ⟨95, 2⟩⟩).state.cursor.pos = 5 := by
  have value : ((rule ()).run parens ⟨.ofChars "x(())".toList 1, ⟨5, 2⟩⟩).outcome =
      .ok (2 : Int) := rfl
  have settled : ∀ m, ((rule ()).run parens ⟨.ofChars "x(())".toList 1, ⟨5, 2⟩⟩).outcome ≠
      .error (.tooDeep m) := by
    intro m stopped
    rw [value] at stopped
    cases stopped
  obtain ⟨outcome, cursor, -, -⟩ := run_of_limit_le parens (rule ())
    (.ofChars "x(())".toList 1) 2 (by decide : (5 : Int) ≤ 95) settled
  refine ⟨by decide, settled, outcome.trans value, ?_⟩
  rw [cursor]
  rfl

end Grammar

end Descent
