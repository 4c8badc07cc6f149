import Descent.Proofs.Restoration

/-!
# Choices and alternatives

A choice tries its branches in a flat loop.  Written with `orElse`, the same branches
nest to the left, and every level of nesting is atomic.  The loop does by hand what the
levels do: the second branch goes on where the first one failed, and each later one
begins at the start.

The two forms differ in one thing.  The nested form is the flat one made atomic
(`foldl_orElse`), and the flat one is not atomic: on a stop that is no failure it stays
where the branch that stopped had got to.  So outcome, nesting and trace always agree,
and the cursors agree unless the flat form stops that way behind its start
(`choice_agrees_iff`).
-/

namespace Descent

/-! ## Laws of going on -/

namespace Run

variable {α β : Type}

/-- Going on in equal ways. -/
theorem resume_congr {r : Run α} {k l : Except Stop α → State → Run β}
    (h : ∀ o t, k o t = l o t) : r.resume k = r.resume l := by
  have same : k = l := funext fun o => funext (h o)
  rw [same]

/-- Going on with what there is changes nothing. -/
theorem resume_eq_self {r : Run α} {k : Except Stop α → State → Run α}
    (h : ∀ o t, k o t = ⟨o, t, []⟩) : r.resume k = r := by
  rw [resume_congr h, resume, List.append_nil]

end Run

namespace Parser

variable {α : Type}

theorem catchFailure_catchFailure (p : Parser α) (f g : ParseError → Parser α) :
    (p.catchFailure f).catchFailure g = p.catchFailure fun e => (f e).catchFailure g := by
  funext s
  simp only [catchFailure, recover, Run.resume_resume]
  refine Run.resume_congr fun o t => ?_
  cases o using outcome_cases with
  | ok v => rfl
  | failure e => rfl
  | tooDeep limit => rfl
  | fault f => rfl

theorem catchFailure_mapFailure (p : Parser α) (f : ParseError → ParseError)
    (g : ParseError → Parser α) :
    (p.mapFailure f).catchFailure g = p.catchFailure fun e => g (f e) := by
  rw [mapFailure, catchFailure_catchFailure]
  rfl

theorem catchFailure_fail (p : Parser α) : p.catchFailure fail = p := by
  funext s
  simp only [catchFailure, recover]
  refine Run.resume_eq_self fun o t => ?_
  cases o using outcome_cases with
  | ok v => rfl
  | failure e => rfl
  | tooDeep limit => rfl
  | fault f => rfl

theorem atomic_atomic (p : Parser α) : p.atomic.atomic = p.atomic := by
  funext s
  simp only [atomic, recover, Run.resume_resume]
  refine Run.resume_congr fun o t => ?_
  cases o with
  | ok v => rfl
  | error e => rfl

/-- Runs a parser from a given place. -/
def startingAt (c : Cursor) (p : Parser α) : Parser α := fun s => p (s.moveTo c)

/-- What catches the failures of an atomic parser begins at the start. -/
theorem atomic_catchFailure_atomic (p : Parser α) (f : ParseError → Parser α) (s : State) :
    (p.atomic.catchFailure f).atomic s =
      (p.catchFailure fun e => (f e).startingAt s.cursor).atomic s := by
  simp only [catchFailure, atomic, recover, Run.resume_resume]
  refine Run.resume_congr fun o t => ?_
  cases o using outcome_cases with
  | ok v => rfl
  | failure e => rfl
  | tooDeep limit => rfl
  | fault f => rfl

/-! ## The two forms -/

theorem choice_nil (p : Parser α) : p.choice [] = p := by
  funext s
  exact congrFun (catchFailure_fail p) s

/-- A failed branch puts the cursor back for the branches after it. -/
theorem otherwise_cons (start : Cursor) (e : ParseError) (p : Parser α) (ps : List (Parser α)) :
    otherwise start e (p :: ps) =
      p.catchFailure fun e' => (otherwise start (.either e e') ps).startingAt start := rfl

/-- The first two branches of a choice may be made one alternative.  It puts the cursor
back when it fails, as the second branch does. -/
theorem atomic_choice_orElse (p q : Parser α) (ps : List (Parser α)) :
    ((p.orElse q).choice ps).atomic = (p.choice (q :: ps)).atomic := by
  funext s
  calc ((p.orElse q).choice ps).atomic s
      = ((p.orElse q).catchFailure fun e => otherwise s.cursor e ps).atomic s := rfl
    _ = ((p.catchFailure fun e => q.mapFailure (.either e)).catchFailure fun e =>
          (otherwise s.cursor e ps).startingAt s.cursor).atomic s :=
        atomic_catchFailure_atomic _ _ s
    _ = (p.catchFailure fun e => otherwise s.cursor e (q :: ps)).atomic s := by
        simp only [catchFailure_catchFailure, catchFailure_mapFailure, otherwise_cons]
    _ = (p.choice (q :: ps)).atomic s := rfl

/-- Alternatives that nest to the left are a choice made atomic. -/
theorem foldl_orElse (p q : Parser α) (ps : List (Parser α)) :
    (q :: ps).foldl orElse p = (p.choice (q :: ps)).atomic := by
  induction ps generalizing p q with
  | nil =>
      calc [q].foldl orElse p
          = (p.orElse q).atomic := (atomic_atomic _).symm
        _ = ((p.orElse q).choice []).atomic := by rw [choice_nil]
        _ = (p.choice [q]).atomic := atomic_choice_orElse p q []
  | cons r ps ih =>
      calc (q :: r :: ps).foldl orElse p
          = (r :: ps).foldl orElse (p.orElse q) := rfl
        _ = ((p.orElse q).choice (r :: ps)).atomic := ih (p.orElse q) r
        _ = (p.choice (q :: r :: ps)).atomic := atomic_choice_orElse p q (r :: ps)

/-! ## Where they differ -/

/-- A choice and the nested alternatives agree in outcome, nesting and trace.  They end at
one place unless the choice ends in a stop that is no failure, away from its start. -/
theorem choice_agrees_iff (first second : Parser α) (others : List (Parser α)) (s : State) :
    (first.choice (second :: others) s).outcome =
        ((second :: others).foldl orElse first s).outcome ∧
      (first.choice (second :: others) s).state.nesting =
        ((second :: others).foldl orElse first s).state.nesting ∧
      (first.choice (second :: others) s).trace =
        ((second :: others).foldl orElse first s).trace ∧
      ((first.choice (second :: others) s).state.cursor =
          ((second :: others).foldl orElse first s).state.cursor ↔
        ∀ e, (first.choice (second :: others) s).outcome = .error e →
          (∃ failure, e = .failure failure) ∨
            (first.choice (second :: others) s).state.cursor = s.cursor) := by
  rw [foldl_orElse]
  refine ⟨(outcome_atomic _ s).symm, (nesting_atomic _ s).symm, (trace_atomic _ s).symm, ?_⟩
  constructor
  · intro agree e stopped
    right
    rw [agree, cursor_atomic_of_error stopped]
  · intro back
    cases h : (first.choice (second :: others) s).outcome with
    | ok v => rw [cursor_atomic_of_ok h]
    | error e =>
        rw [cursor_atomic_of_error h]
        rcases back e h with ⟨failure, rfl⟩ | there
        · exact restores_choice first second others s failure h
        · exact there

/-- A letter whose transform reports a fault. -/
def misread : Parser String :=
  (token "a").mapOrStop fun _ => .error (.fault (.reported .value "boom"))

/-- After a fault in the first branch the choice stays behind the letter, and the
alternative is back before it. -/
theorem choice_misread :
    (misread.choice [token "b"] (.start "a" 100 1000)).state.cursor.pos = 1 ∧
      ([token "b"].foldl orElse misread (.start "a" 100 1000)).state.cursor.pos = 0 ∧
      (misread.choice [token "b"] (.start "a" 100 1000)).state.cursor ≠
        ([token "b"].foldl orElse misread (.start "a" 100 1000)).state.cursor := by
  have flat : (misread.choice [token "b"] (.start "a" 100 1000)).state.cursor.pos = 1 := rfl
  have nested : ([token "b"].foldl orElse misread (.start "a" 100 1000)).state.cursor.pos = 0 :=
    rfl
  refine ⟨flat, nested, fun same => ?_⟩
  rw [same, nested] at flat
  cases flat

end Parser

end Descent
