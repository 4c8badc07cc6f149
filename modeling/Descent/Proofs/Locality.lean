import Descent.Proofs.Forward
import Descent.Proofs.Simulation

/-!
# What stands before the start

A run sees the text from its start on, and nothing before it.  Two runs with the same text
ahead and the same nesting end alike, whatever they have behind them, and they read the
same number of characters (`run_suffix`).  So a run in the middle of a text is the run of
a text of its own.

The one trace that the front of a text leaves is in an incomplete parse, which holds the
place where it stopped.  `unplaced` keeps the unread text of such a place and forgets the
rest of it.

The proof takes the two runs for a simulation in which places in step have read the same
characters, each behind its own front.
-/

namespace Descent

/-! ## Failures without their places -/

/-- The failure with the unread text in place of each place where a parse stopped. -/
def ParseError.unplaced : ParseError → ParseError
  | incomplete stopped => incomplete ⟨[], stopped.rest⟩
  | context label error => context label error.unplaced
  | either first second => either first.unplaced second.unplaced
  | error => error

/-- The stop with its failure unplaced. -/
def Stop.unplaced : Stop → Stop
  | failure error => failure error.unplaced
  | stop => stop

namespace Simulation

variable {α : Type} {S : Simulation}

/-- Failures in step are equal but for what stands before the places in them. -/
theorem unplaced_eq {e e' : ParseError} (h : e.InStep S.Cursors e') :
    e.unplaced = e'.unplaced := by
  induction h with
  | refl e => rfl
  | incomplete h => rw [ParseError.unplaced, ParseError.unplaced, S.rest_eq h]
  | context label h ih => rw [ParseError.unplaced, ParseError.unplaced, ih]
  | either h h' ih ih' => rw [ParseError.unplaced, ParseError.unplaced, ih, ih']

theorem mapError_unplaced_eq {o o' : Except Stop α} (h : S.Outcomes o o') :
    o.mapError Stop.unplaced = o'.mapError Stop.unplaced := by
  cases h with
  | ok v => rfl
  | failure he =>
      rw [Except.mapError, Except.mapError, Stop.unplaced, Stop.unplaced, unplaced_eq he]
  | tooDeep limit => rfl
  | fault f => rfl

end Simulation

/-! ## The same characters behind two fronts -/

/-- The places have read the same characters, each behind its own front.  The fronts are
given as a cursor passes them, nearest character first. -/
def Cursor.ReadAlike (front front' : List Char) (c d : Cursor) : Prop :=
  ∃ read, c.passed = read ++ front ∧ d.passed = read ++ front' ∧ c.rest = d.rest

namespace Cursor.ReadAlike

variable {front front' : List Char} {c d c' d' : Cursor}

theorem rest_eq (h : ReadAlike front front' c d) : c.rest = d.rest := by
  obtain ⟨_, _, _, rest⟩ := h
  exact rest

theorem distance (h : ReadAlike front front' c d) (h' : ReadAlike front front' c' d') :
    c.pos + d'.pos = d.pos + c'.pos := by
  obtain ⟨read, hc, hd, -⟩ := h
  obtain ⟨read', hc', hd', -⟩ := h'
  simp only [pos, hc, hd, hc', hd', List.length_append]
  omega

theorem advance (h : ReadAlike front front' c d) (n : Nat) :
    ReadAlike front front' (c.advance n) (d.advance n) := by
  obtain ⟨read, hc, hd, rest⟩ := h
  refine ⟨(c.rest.take n).reverse ++ read, ?_, ?_, ?_⟩
  · rw [Cursor.advance, hc, List.append_assoc]
  · rw [Cursor.advance, hd, rest, List.append_assoc]
  · rw [rest_advance, rest_advance, rest]

end Cursor.ReadAlike

/-- Runs over one text, each behind its own front. -/
def Simulation.behind (front front' : List Char) : Simulation where
  Cursors := Cursor.ReadAlike front front'
  Raised := False
  rest_eq h := h.rest_eq
  distance h h' := h.distance h'
  advance h n := h.advance n

/-! ## Whole runs -/

/-- From a cursor to a later one of its text it takes as many characters as the later one
has passed more. -/
theorem Cursor.eq_advance_of_le {c d : Cursor} {read : List Char} (h : c ≤ d)
    (hd : d.passed = read ++ c.passed) : d = c.advance read.length := by
  have source := source_eq_of_le h
  have fits : read.length ≤ c.rest.length := by
    have := pos_add_length_rest c
    have := pos_add_length_rest d
    rw [pos, hd, List.length_append, ← source] at this
    rw [pos] at *
    omega
  refine eq_of_source_of_pos (by rw [source_advance, source]) ?_
  rw [pos_advance, pos, hd, List.length_append, Nat.min_eq_left fits, Nat.add_comm]
  rfl

/-- Going further than the end is going to the end. -/
theorem Cursor.advance_min (c : Cursor) (n : Nat) :
    c.advance (min n c.rest.length) = c.advance n := by
  refine eq_of_source_of_pos (by rw [source_advance, source_advance]) ?_
  rw [pos_advance, pos_advance, Nat.min_assoc, Nat.min_self]

/-- A later state is the earlier one at the later place. -/
theorem State.eq_moveTo_of_le {s t : State} (h : s ≤ t) : t = s.moveTo t.cursor := by
  rw [moveTo, nesting_eq_of_le h]

namespace Grammar

variable {ι : Type} {τ : ι → Type} {α : Type}

/-- The runs of a grammar from two states end alike, after the same number of characters. -/
def EndsAlike (rules : (i : ι) → Grammar τ (τ i)) (p : Grammar τ α) (s s' : State) : Prop :=
  (p.run rules s).outcome.mapError Stop.unplaced =
      (p.run rules s').outcome.mapError Stop.unplaced ∧
    ∃ n ≤ s.cursor.rest.length,
      (p.run rules s).state = s.moveTo (s.cursor.advance n) ∧
        (p.run rules s').state = s'.moveTo (s'.cursor.advance n)

theorem endsAlike_of_rest_eq (rules : (i : ι) → Grammar τ (τ i)) (p : Grammar τ α) {s s' : State}
    (rest : s.cursor.rest = s'.cursor.rest) (nesting : s.nesting = s'.nesting) :
    EndsAlike rules p s s' := by
  let S := Simulation.behind s.cursor.passed s'.cursor.passed
  have hs : S.States s s' := ⟨⟨[], rfl, rfl, rest⟩, by rw [nesting], .inl (by rw [nesting])⟩
  cases in_step S rules p s s' hs with
  | tooDeep raised stopped => exact raised.elim
  | alike outcome state trace =>
      obtain ⟨read, passed, passed', -⟩ := state.cursor
      have moved := State.eq_moveTo_of_le (forward rules p s)
      have moved' := State.eq_moveTo_of_le (forward rules p s')
      rw [Cursor.eq_advance_of_le (State.cursor_le_of_le (forward rules p s)) passed] at moved
      rw [Cursor.eq_advance_of_le (State.cursor_le_of_le (forward rules p s')) passed'] at moved'
      rw [EndsAlike, outcome_run, outcome_run, state_run, state_run]
      refine ⟨Simulation.mapError_unplaced_eq outcome, min read.length s.cursor.rest.length,
        Nat.min_le_right _ _, ?_, ?_⟩
      · rw [moved, Cursor.advance_min]
      · rw [moved', rest, Cursor.advance_min]

/-- Behind any two fronts the runs over one text end alike, and so do a run in the middle
of a text and the run of its unread text alone. -/
theorem run_suffix (rules : (i : ι) → Grammar τ (τ i)) (p : Grammar τ α) :
    (∀ (front front' rest : List Char) (g : Nesting),
        EndsAlike rules p ⟨.ofChars (front ++ rest) front.length, g⟩
          ⟨.ofChars (front' ++ rest) front'.length, g⟩) ∧
      ∀ s : State, EndsAlike rules p s ⟨.start s.cursor.remaining, s.nesting⟩ := by
  constructor
  · intro front front' rest g
    refine endsAlike_of_rest_eq rules p ?_ rfl
    rw [Cursor.ofChars, Cursor.ofChars, List.drop_left, List.drop_left]
  · intro s
    refine endsAlike_of_rest_eq rules p ?_ rfl
    rw [Cursor.start, Cursor.remaining, String.toList_ofList]

end Grammar

end Descent
