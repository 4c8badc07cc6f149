import Mathlib.Data.List.OfFn
import Descent.Grammar.Standard
import Descent.Proofs.Choice

/-!
# Alternatives under any brackets

An alternative has two branches.  More branches need brackets, and there are as many ways to
set them as there are binary trees over the branches.

From a state in which every branch either gives a value or fails and leaves the cursor where
it was, the brackets decide nothing about what is read.  The value and the place where it
ends are those of the first branch that gives one.  What the brackets do show in is the
failure: where every branch fails, the failures of the branches stand in a tree with the
shape of the brackets (`Run.IsFirstOf`).

A choice sets no brackets.  It ends as the alternatives that nest to the left, so the tree of
its failure does so too.  All this is a matter of two parsers at a time, and holds of any parsers
(`Parser.isFirstOf_brackets`).  It holds of grammars because brackets around grammars mean brackets
around parsers (`run_bracketing`).
-/

namespace Descent

/-! ## Brackets -/

universe u v

/-- Operands, with brackets for a binary operation set around them. -/
inductive Bracketing (α : Type u) : Type u where
  | leaf (a : α)
  | node (l r : Bracketing α)

namespace Bracketing

variable {α : Type u} {β : Type v}

/-- The operands from left to right. -/
def leaves : Bracketing α → List α
  | leaf a => [a]
  | node l r => l.leaves ++ r.leaves

/-- What an operation makes of the operands, in the order that the brackets say. -/
def fold (f : α → β) (op : β → β → β) : Bracketing α → β
  | leaf a => f a
  | node l r => op (l.fold f op) (r.fold f op)

/-- Brackets that nest to the left. -/
def leftNested (first : α) (others : List α) : Bracketing α :=
  others.foldl (fun t a => node t (leaf a)) (leaf first)

theorem leaves_foldl_node (t : Bracketing α) (as : List α) :
    (as.foldl (fun t a => node t (leaf a)) t).leaves = t.leaves ++ as := by
  induction as generalizing t with
  | nil => exact (List.append_nil _).symm
  | cons a as ih =>
      rw [List.foldl_cons, ih, leaves, leaves, List.append_assoc, List.singleton_append]

theorem leaves_leftNested (first : α) (others : List α) :
    (leftNested first others).leaves = first :: others :=
  leaves_foldl_node _ _

theorem fold_leftNested (f : α → β) (op : β → β → β) (first : α) (others : List α) :
    (leftNested first others).fold f op = (others.map f).foldl op (f first) := by
  have step : ∀ (as : List α) (t : Bracketing α),
      (as.foldl (fun t a => node t (leaf a)) t).fold f op = (as.map f).foldl op (t.fold f op) := by
    intro as
    induction as with
    | nil => exact fun t => rfl
    | cons a as ih => exact fun t => ih _
  exact step others _

theorem exists_cons_leaves (t : Bracketing α) : ∃ first others, t.leaves = first :: others := by
  induction t with
  | leaf a => exact ⟨a, [], rfl⟩
  | node l r ihl ihr =>
      obtain ⟨first, others, hl⟩ := ihl
      exact ⟨first, others ++ r.leaves, by rw [leaves, hl, List.cons_append]⟩

end Bracketing

/-! ## Ordered choice -/

namespace Run

variable {α : Type}

/-- The value of a run and the state at its end. -/
def value? (r : Run α) : Option (α × State) :=
  match r.outcome with
  | .ok v => some (v, r.state)
  | .error _ => none

/-- Going on with what there is, after the end that there is, changes nothing. -/
theorem resume_eq_self_of_end {r : Run α} {k : Except Stop α → State → Run α}
    (h : k r.outcome r.state = ⟨r.outcome, r.state, []⟩) : r.resume k = r := by
  rw [resume, h, List.append_nil]

theorem value?_of_ok {r : Run α} {v : α} (h : r.outcome = .ok v) :
    r.value? = some (v, r.state) := by
  rw [value?, h]

theorem value?_of_error {r : Run α} {e : Stop} (h : r.outcome = .error e) : r.value? = none := by
  rw [value?, h]

/-- A run from `s` tries operands in order.  It ends as the first one that gives a value.  If
they all fail it fails in `s`, and brackets around their failures are set as around the
operands. -/
structure IsFirstOf {ι : Type u} (s : State) (attempt : ι → Run α) (t : Bracketing ι)
    (r : Run α) : Prop where
  value : r.value? = t.leaves.findSome? fun a => (attempt a).value?
  failure : ∀ err : ι → ParseError,
    (∀ a ∈ t.leaves, (attempt a).outcome = .error (.failure (err a))) →
      r.outcome = .error (.failure (t.fold err .either)) ∧ r.state = s

end Run

namespace Parser

variable {α : Type} {p q : Parser α} {s : State}

/-- From `s` the parser gives a value, or it fails and is in `s` again. -/
def Tries (p : Parser α) (s : State) : Prop :=
  (∃ v, (p s).outcome = .ok v) ∨ ∃ e, (p s).outcome = .error (.failure e) ∧ (p s).state = s

/-- Nothing needs to be put back where every stop has left the cursor. -/
theorem atomic_eq_self (h : ∀ e, (p s).outcome = .error e → (p s).state.cursor = s.cursor) :
    p.atomic s = p s := by
  simp only [atomic, recover]
  refine Run.resume_eq_self_of_end ?_
  cases ho : (p s).outcome with
  | ok v => rfl
  | error e =>
      have back : (p s).state.moveTo s.cursor = (p s).state := by rw [← h e ho, State.moveTo_cursor]
      dsimp only
      rw [back]
      rfl

/-! ### Two branches -/

/-- A first branch that gives a value is the whole. -/
theorem orElse_eq_left {v : α} (hp : (p s).outcome = .ok v) : p.orElse q s = p s := by
  have caught : p.catchFailure (fun first => q.mapFailure (.either first)) s = p s := by
    simp only [catchFailure, recover]
    refine Run.resume_eq_self_of_end ?_
    rw [hp]
    rfl
  rw [orElse, atomic_eq_self fun e stopped => ?_, caught]
  rw [caught, hp] at stopped
  cases stopped

/-- Behind a first branch that has failed where it began, the second branch decides. -/
theorem orElse_of_right {v : α} {e : ParseError} (hp : (p s).outcome = .error (.failure e))
    (back : (p s).state = s) (hq : (q s).outcome = .ok v) :
    (p.orElse q s).outcome = .ok v ∧ (p.orElse q s).state = (q s).state := by
  simp [orElse, atomic, catchFailure, mapFailure, recover, hp, back, hq, Run.ok]

theorem orElse_of_both {e e' : ParseError} (hp : (p s).outcome = .error (.failure e))
    (back : (p s).state = s) (hq : (q s).outcome = .error (.failure e')) (back' : (q s).state = s) :
    (p.orElse q s).outcome = .error (.failure (.either e e')) ∧ (p.orElse q s).state = s := by
  simp [orElse, atomic, catchFailure, mapFailure, recover, hp, back, hq, back', Run.stop, fail]

theorem Tries.orElse (hp : p.Tries s) (hq : q.Tries s) : (p.orElse q).Tries s := by
  rcases hp with ⟨v, hp⟩ | ⟨e, hp, back⟩
  · rw [Tries, orElse_eq_left hp]
    exact .inl ⟨v, hp⟩
  · rcases hq with ⟨v, hq⟩ | ⟨e', hq, back'⟩
    · exact .inl ⟨v, (orElse_of_right hp back hq).1⟩
    · exact .inr ⟨_, orElse_of_both hp back hq back'⟩

theorem Tries.value?_orElse (hp : p.Tries s) (hq : q.Tries s) :
    (p.orElse q s).value? = (p s).value?.or (q s).value? := by
  rcases hp with ⟨v, hp⟩ | ⟨e, hp, back⟩
  · rw [orElse_eq_left hp, Run.value?_of_ok hp, Option.some_or]
  · rw [Run.value?_of_error hp, Option.none_or]
    rcases hq with ⟨v, hq⟩ | ⟨e', hq, back'⟩
    · obtain ⟨outcome, state⟩ := orElse_of_right hp back hq
      rw [Run.value?_of_ok outcome, Run.value?_of_ok hq, state]
    · rw [Run.value?_of_error (orElse_of_both hp back hq back').1, Run.value?_of_error hq]

/-! ### Any number of branches -/

section Brackets

variable {ι : Type u} {parser : ι → Parser α}

theorem tries_fold (t : Bracketing ι) (h : ∀ a ∈ t.leaves, (parser a).Tries s) :
    (t.fold parser orElse).Tries s := by
  induction t with
  | leaf a => exact h a (.head _)
  | node l r ihl ihr =>
      have hl := ihl fun a ha => h a (List.mem_append_left _ ha)
      have hr := ihr fun a ha => h a (List.mem_append_right _ ha)
      exact hl.orElse hr

/-- Alternatives under any brackets try their branches in order. -/
theorem isFirstOf_fold (t : Bracketing ι) (h : ∀ a ∈ t.leaves, (parser a).Tries s) :
    (t.fold parser orElse s).IsFirstOf s (fun a => parser a s) t := by
  induction t with
  | leaf a =>
      refine ⟨?_, fun err failed => ?_⟩
      · simp [Bracketing.fold, Bracketing.leaves]
      · have failed := failed a (.head _)
        rcases h a (.head _) with ⟨v, value⟩ | ⟨e, -, back⟩
        · rw [value] at failed
          cases failed
        · exact ⟨failed, back⟩
  | node l r ihl ihr =>
      have hl : ∀ a ∈ l.leaves, (parser a).Tries s := fun a ha => h a (List.mem_append_left _ ha)
      have hr : ∀ a ∈ r.leaves, (parser a).Tries s := fun a ha => h a (List.mem_append_right _ ha)
      refine ⟨?_, fun err failed => ?_⟩
      · rw [Bracketing.fold, (tries_fold l hl).value?_orElse (tries_fold r hr), (ihl hl).value,
          (ihr hr).value, Bracketing.leaves, List.findSome?_append]
      · obtain ⟨failedL, backL⟩ :=
          (ihl hl).failure err fun a ha => failed a (List.mem_append_left _ ha)
        obtain ⟨failedR, backR⟩ :=
          (ihr hr).failure err fun a ha => failed a (List.mem_append_right _ ha)
        exact orElse_of_both failedL backL failedR backR

end Brackets

/-- A choice puts the cursor back by itself when it fails.  So from where the alternatives
that nest to the left do not stop in any other way, it is these alternatives. -/
theorem choice_eq_foldl {ps : List (Parser α)} (h : (ps.foldl orElse p).Tries s) :
    p.choice ps s = ps.foldl orElse p s := by
  cases ps with
  | nil => rw [choice_nil, List.foldl_nil]
  | cons q ps =>
      rw [foldl_orElse] at h ⊢
      refine (atomic_eq_self fun e stopped => ?_).symm
      rw [Tries, outcome_atomic, stopped] at h
      rcases h with ⟨v, value⟩ | ⟨e', failed, -⟩
      · cases value
      · cases failed
        exact restores_choice p q ps s e' stopped

/-- Where every branch gives a value or fails with everything as it was, the alternatives under
any brackets and the choice try the branches in order. -/
theorem isFirstOf_brackets {ι : Type u} {parser : ι → Parser α} (t : Bracketing ι)
    (h : ∀ a ∈ t.leaves, (parser a).Tries s) :
    (t.fold parser orElse s).IsFirstOf s (fun a => parser a s) t ∧
      ∃ first others, t.leaves = first :: others ∧
        ((parser first).choice (others.map parser) s).IsFirstOf s (fun a => parser a s)
          (.leftNested first others) := by
  obtain ⟨first, others, leaves⟩ := t.exists_cons_leaves
  refine ⟨isFirstOf_fold t h, first, others, leaves, ?_⟩
  rw [leaves, ← Bracketing.leaves_leftNested] at h
  have nested := isFirstOf_fold _ h
  have nestedTries := tries_fold _ h
  rw [Bracketing.fold_leftNested] at nested nestedTries
  rwa [choice_eq_foldl nestedTries]

end Parser

/-! ## Grammars -/

namespace Grammar

variable {ι : Type} {τ : ι → Type} {α : Type} {rules : (i : ι) → Grammar τ (τ i)} {s : State}

/-- Over parsers for the rules, brackets around grammars are brackets around parsers. -/
theorem meaning_fold (env : (i : ι) → Parser (τ i)) (t : Bracketing (Grammar τ α)) :
    (t.fold id orElse).meaning env = t.fold (fun p => p.meaning env) Parser.orElse := by
  induction t with
  | leaf p => rfl
  | node l r ihl ihr => rw [Bracketing.fold, meaning, ihl, ihr, Bracketing.fold]

/-- A choice is made from any list of branches that is not empty. -/
theorem choice?_cons (env : (i : ι) → Parser (τ i)) (p : Grammar τ α) (ps : List (Grammar τ α)) :
    ∃ c, choice? (p :: ps) = .ok c ∧
      c.meaning env = (p.meaning env).choice (ps.map fun q => q.meaning env) := by
  cases ps with
  | nil => exact ⟨p, rfl, (Parser.choice_nil _).symm⟩
  | cons q ps =>
      refine ⟨choice (p :: q :: ps).get, rfl, ?_⟩
      have others :
          List.ofFn (fun i : Fin (ps.length + 1) => ((p :: q :: ps).get i.succ).meaning env) =
            (q :: ps).map fun q => q.meaning env :=
        List.ofFn_getElem_eq_map (q :: ps) fun q => q.meaning env
      rw [meaning, others]
      rfl

/-- A run that fails with the cursor back is in the state in which it began, as no run
changes the nesting. -/
theorem tries_of_run {p : Grammar τ α}
    (h : (∃ v, (p.run rules s).outcome = .ok v) ∨
      ∃ e, (p.run rules s).outcome = .error (.failure e) ∧
        (p.run rules s).state.cursor = s.cursor) : (p.parser rules).Tries s := by
  simp only [outcome_run, state_run] at h
  rcases h with value | ⟨e, failed, back⟩
  · exact .inl value
  · exact .inr ⟨e, failed, State.eq_of_le_of_cursor (forward rules p s) back⟩

/-- What a whole run notes does not matter to what it ends as. -/
theorem isFirstOf_run {p : Grammar τ α} {t : Bracketing (Grammar τ α)}
    (h : (p.parser rules s).IsFirstOf s (fun q => q.parser rules s) t) :
    (p.run rules s).IsFirstOf s (fun q => q.run rules s) t := by
  have value?_run : ∀ q : Grammar τ α, (q.run rules s).value? = (q.parser rules s).value? := by
    intro q
    rw [Run.value?, Run.value?, outcome_run, state_run]
  refine ⟨?_, fun err failed => ?_⟩
  · simp only [value?_run]
    exact h.value
  · simp only [outcome_run, state_run] at failed ⊢
    exact h.failure err failed

/-- From a state in which each branch gives a value or fails with everything as it was, the
alternative under any brackets and the choice try the branches in order.  The failure of the
alternative shows its brackets, and that of the choice is nested to the left.  Of grammars it is
enough to say that the cursor is back, as no run changes the nesting. -/
theorem run_bracketing (rules : (i : ι) → Grammar τ (τ i)) :
    (∀ (t : Bracketing (Parser α)) (s : State), (∀ p ∈ t.leaves, p.Tries s) →
      (t.fold id Parser.orElse s).IsFirstOf s (fun p => p s) t ∧
        ∃ first others, t.leaves = first :: others ∧
          (first.choice others s).IsFirstOf s (fun p => p s) (.leftNested first others)) ∧
      ∀ (t : Bracketing (Grammar τ α)) (s : State),
        (∀ p ∈ t.leaves, (∃ v, (p.run rules s).outcome = .ok v) ∨
          ∃ e, (p.run rules s).outcome = .error (.failure e) ∧
            (p.run rules s).state.cursor = s.cursor) →
        ((t.fold id orElse).run rules s).IsFirstOf s (fun p => p.run rules s) t ∧
          ∃ first others c, t.leaves = first :: others ∧ choice? t.leaves = .ok c ∧
            (c.run rules s).IsFirstOf s (fun p => p.run rules s) (.leftNested first others) := by
  constructor
  · intro t s h
    obtain ⟨bracketed, first, others, leaves, flat⟩ := Parser.isFirstOf_brackets t h
    rw [List.map_id'] at flat
    exact ⟨bracketed, first, others, leaves, flat⟩
  · intro t s h
    let env := unroll rules (s.nesting.budget + 1)
    have tries : ∀ p ∈ t.leaves, (p.meaning env).Tries s := fun p hp => tries_of_run (h p hp)
    obtain ⟨bracketed, first, others, leaves, flat⟩ := Parser.isFirstOf_brackets t tries
    obtain ⟨c, made, meaning⟩ := choice?_cons env first others
    rw [← meaning_fold] at bracketed
    rw [← meaning] at flat
    exact ⟨isFirstOf_run bracketed, first, others, c, leaves, by rw [leaves, made],
      isFirstOf_run flat⟩

/-- Two pairs of alternatives. -/
def pairs : Bracketing (Grammar (fun _ : Empty => String) String) :=
  .node (.node (.leaf (token "ab")) (.leaf ((token "a").keepRight (token "c"))))
    (.node (.leaf (token "ad")) (.leaf (token "b")))

/-- A text with one character read. -/
def beforeAx : State := ⟨.ofChars "zax".toList 1, ⟨5, 0⟩⟩

/-- What a branch of the pairs fails with there. -/
def missing (p : Grammar (fun _ : Empty => String) String) : ParseError :=
  match (p.run nofun beforeAx).outcome with
  | .error (.failure e) => e
  | _ => default

/-- Three parsers with brackets around the second and the third. -/
def rightNested : Bracketing (Parser String) :=
  .node (.leaf (Parser.token "x")) (.node (.leaf (Parser.token "ab")) (.leaf (Parser.token "a")))

theorem tries_rightNested : ∀ p ∈ rightNested.leaves, p.Tries beforeAx := by
  intro p hp
  simp only [rightNested, Bracketing.leaves, List.cons_append, List.nil_append, List.mem_cons,
    List.not_mem_nil, or_false] at hp
  rcases hp with rfl | rfl | rfl
  · exact .inr ⟨_, rfl, rfl⟩
  · exact .inr ⟨_, rfl, rfl⟩
  · exact .inl ⟨_, rfl⟩

/-- Of the three parsers the last one is the first to read a text.  All four branches of the pairs
fail, the second one behind a letter.  The failures are nested as the alternatives are, and those
of the choice to the left. -/
theorem run_bracketing_pairs :
    ((∀ p ∈ rightNested.leaves, p.Tries beforeAx) ∧
      (rightNested.fold id Parser.orElse beforeAx).value? =
        some ("a", ⟨.ofChars "zax".toList 2, ⟨5, 0⟩⟩)) ∧
    (∀ p ∈ pairs.leaves, (∃ v, (p.run nofun beforeAx).outcome = .ok v) ∨
      ∃ e, (p.run nofun beforeAx).outcome = .error (.failure e) ∧
        (p.run nofun beforeAx).state.cursor = beforeAx.cursor) ∧
      ((pairs.fold id orElse).run nofun beforeAx).outcome =
        .error (.failure (.either (.either (.token (.one "ab")) (.token (.one "c")))
          (.either (.token (.one "ad")) (.token (.one "b"))))) ∧
      ∃ c, choice? pairs.leaves = .ok c ∧
        (c.run nofun beforeAx).outcome =
          .error (.failure (.either (.either (.either (.token (.one "ab")) (.token (.one "c")))
            (.token (.one "ad"))) (.token (.one "b")))) := by
  have failed : ∀ p ∈ pairs.leaves, (p.run nofun beforeAx).outcome = .error (.failure (missing p)) ∧
      (p.run nofun beforeAx).state.cursor = beforeAx.cursor := by
    intro p hp
    simp only [pairs, Bracketing.leaves, List.cons_append, List.nil_append, List.mem_cons,
      List.not_mem_nil, or_false] at hp
    rcases hp with rfl | rfl | rfl | rfl <;> exact ⟨rfl, rfl⟩
  have tries : ∀ p ∈ pairs.leaves, (∃ v, (p.run nofun beforeAx).outcome = .ok v) ∨
      ∃ e, (p.run nofun beforeAx).outcome = .error (.failure e) ∧
        (p.run nofun beforeAx).state.cursor = beforeAx.cursor :=
    fun p hp => .inr ⟨missing p, failed p hp⟩
  obtain ⟨bracketed, first, others, c, leaves, made, flat⟩ :=
    (run_bracketing _).2 pairs beforeAx tries
  have flatFailed : ∀ p ∈ (Bracketing.leftNested first others).leaves,
      (p.run nofun beforeAx).outcome = .error (.failure (missing p)) := by
    rw [Bracketing.leaves_leftNested, ← leaves]
    exact fun p hp => (failed p hp).1
  have found := ((run_bracketing (τ := fun _ : Empty => String) nofun).1 rightNested beforeAx
    tries_rightNested).1.value
  refine ⟨⟨tries_rightNested, found⟩, tries,
    (bracketed.failure missing fun p hp => (failed p hp).1).1, c, made, ?_⟩
  cases leaves
  exact (flat.failure missing flatFailed).1

end Grammar

end Descent
