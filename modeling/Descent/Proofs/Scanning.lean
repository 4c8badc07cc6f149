import Descent.Proofs.Primitives

/-!
# Characters up to a terminator

`upTo` tries its terminator at one position after the other and gives the text before the first
position where the terminator gives a value.  Said without the loop: a position is *tried* when
the terminator gives no value at any position from the start to it, and the first match is the
position that is tried and where there is a value (`Parser.IsTried`, `Parser.MatchesAt`).  The
end of the text is not tried.

A terminator that fails leaves no mark.  However much it has read, the next attempt begins one
character behind the one before, in the nesting of the start, as no run changes the nesting.  So
the scan from the start is the scan from any position that is tried (`scan_of_isTried`), and there
it either ends with the match or is at the end of the text.  How it ends then is a matter of the
options (`Run.IsUpTo`).  This holds of any terminator that does not change the nesting, and of the
run of any grammar (`run_upTo`).
-/

namespace Descent

open Descent.Parser (ScanOptions)

/-! ## Positions of a text -/

namespace Cursor

theorem pos_ofChars {text : List Char} {n : Nat} (h : n ≤ text.length) :
    (ofChars text n).pos = n := by
  rw [pos, ofChars, List.length_reverse, List.length_take, Nat.min_eq_left h]

theorem ofChars_source_pos (c : Cursor) : ofChars c.source c.pos = c :=
  eq_of_source_of_pos (source_ofChars _ _) (pos_ofChars (by rw [← pos_add_length_rest]; omega))

theorem advance_ofChars (text : List Char) (n : Nat) :
    (ofChars text n).advance 1 = ofChars text (n + 1) := by
  refine eq_of_source_of_pos (by simp) ?_
  rw [pos_advance]
  simp only [pos, ofChars, List.length_reverse, List.length_take, List.length_drop]
  omega

/-- The text from a place to a later position is read off the whole text. -/
theorem take_rest_sub (c : Cursor) (i : Nat) :
    c.rest.take (i - c.pos) = (c.source.take i).drop c.pos := by
  rw [List.drop_take, drop_pos_source]

end Cursor

namespace State

/-- The state at a position of its text. -/
def atPos (s : State) (i : Nat) : State := s.moveTo (.ofChars s.cursor.source i)

theorem atPos_pos (s : State) : s.atPos s.cursor.pos = s := by
  rw [atPos, Cursor.ofChars_source_pos, moveTo_cursor]

/-- Where a run has ended does not matter to where one goes on. -/
theorem moveTo_eq_of_le {s t : State} (h : s ≤ t) (c : Cursor) : t.moveTo c = s.moveTo c := by
  rw [moveTo, moveTo, nesting_eq_of_le h]

end State

namespace Run

variable {α : Type}

/-- The run ends with this outcome in this state. -/
def EndsAs (r : Run α) (o : Except Stop α) (t : State) : Prop := r.outcome = o ∧ r.state = t

theorem endsAs_of_eq_ok {r : Run α} {v : α} {t : State} (h : r = .ok v t) :
    r.EndsAs (.ok v) t :=
  h ▸ ⟨rfl, rfl⟩

theorem endsAs_of_eq_stop {r : Run α} {e : Stop} {t : State} (h : r = .stop e t) :
    r.EndsAs (.error e) t :=
  h ▸ ⟨rfl, rfl⟩

end Run

namespace Parser

variable {α : Type} {p : Parser α} {o : ScanOptions} {s t : State} {i : Nat}

/-! ## Tried positions and matches -/

/-- At this position of the text the parser gives a value. -/
def MatchesAt (p : Parser α) (s : State) (i : Nat) : Prop := ∃ v, (p (s.atPos i)).outcome = .ok v

/-- The positions from the place of a state to the end of the text that have no match before
them. -/
structure IsTried (p : Parser α) (s : State) (i : Nat) : Prop where
  /-- The position is not before the start. -/
  le : s.cursor.pos ≤ i
  /-- It is in the text. -/
  lt : i < s.cursor.source.length
  /-- There is no match before it. -/
  before : ∀ k, s.cursor.pos ≤ k → k < i → ¬ p.MatchesAt s k

/-! ## Steps of the scan -/

theorem scan_of_atEnd (atEnd : t.cursor.isAtEnd = true) (p : Parser α) (start : Cursor) :
    scan o p start t =
      if o.allowEnd ∧ (o.allowEmpty ∨ start.pos < t.cursor.pos) then .ok start.remaining t
      else
        .stop (.failure (if o.allowEnd then .satisfying else .termination)) (t.moveTo start) := by
  rw [scan, if_pos atEnd]

/-- A failure of the terminator leaves no mark. -/
theorem scan_of_failure (forward : Forward p) (more : ¬ t.cursor.isAtEnd = true) {f : ParseError}
    (failed : (p t).outcome = .error (.failure f)) (start : Cursor) :
    (scan o p start t).EndsAs (scan o p start (t.moveTo (t.cursor.advance 1))).outcome
      (scan o p start (t.moveTo (t.cursor.advance 1))).state := by
  rw [scan, if_neg more, Run.EndsAs, Run.outcome_resume, Run.state_resume, failed]
  dsimp only
  rw [State.moveTo_eq_of_le (forward t)]
  exact ⟨rfl, rfl⟩

/-- A match ends the scan. -/
theorem scan_of_ok (forward : Forward p) (more : ¬ t.cursor.isAtEnd = true) {v : α}
    (found : (p t).outcome = .ok v) (start : Cursor) :
    if t.cursor.pos = start.pos ∧ ¬ o.allowEmpty then
      (scan o p start t).EndsAs (.error (.failure .satisfying)) (t.moveTo start)
    else
      (scan o p start t).EndsAs (.ok (start.textTo t.cursor))
        (if o.consume then (p t).state else t) := by
  rw [scan, if_neg more, Run.EndsAs, Run.EndsAs, Run.outcome_resume, Run.state_resume, found]
  dsimp only
  rw [State.moveTo_eq_of_le (forward t), State.moveTo_eq_of_le (forward t), State.moveTo_cursor]
  split
  · exact ⟨rfl, rfl⟩
  · exact ⟨rfl, rfl⟩

/-! ## The scan up to the first match -/

theorem OnlyFails.chain {ps : List (Parser α)} (hps : ∀ p ∈ ps, p.OnlyFails) :
    (chain ps).OnlyFails := by
  induction ps with
  | nil => exact (readsOrFails_succeed []).onlyFails
  | cons p ps ih =>
      have rest : (Parser.chain ps).OnlyFails := ih fun q hq => hps q (.tail _ hq)
      exact (hps p (.head _)).andThen fun v => rest.andThen fun vs =>
        (readsOrFails_succeed (v :: vs)).onlyFails

/-- Where there is no match, a terminator that does nothing but fail has failed. -/
theorem exists_failure (onlyFails : (p (s.atPos i)).OnlyFails) (none : ¬ p.MatchesAt s i) :
    ∃ f, (p (s.atPos i)).outcome = .error (.failure f) := by
  cases ended : (p (s.atPos i)).outcome with
  | ok v => exact absurd ⟨v, ended⟩ none
  | error e =>
      obtain ⟨f, rfl⟩ := onlyFails e ended
      exact ⟨f, rfl⟩

/-- The scan goes over the positions at which the terminator fails. -/
theorem scan_of_failures (forward : Forward p) (le : s.cursor.pos ≤ i)
    (inside : i ≤ s.cursor.source.length)
    (fails : ∀ k, s.cursor.pos ≤ k → k < i → ∃ f, (p (s.atPos k)).outcome = .error (.failure f)) :
    (scan o p s.cursor s).EndsAs (scan o p s.cursor (s.atPos i)).outcome
      (scan o p s.cursor (s.atPos i)).state := by
  induction i, le using Nat.le_induction with
  | base =>
      rw [State.atPos_pos]
      exact ⟨rfl, rfl⟩
  | succ k le ih =>
      have more : ¬ (s.atPos k).cursor.isAtEnd = true := by
        simp [State.atPos, Cursor.isAtEnd, Cursor.ofChars]
        omega
      obtain ⟨f, failed⟩ := fails k le (Nat.lt_succ_self k)
      obtain ⟨outcome, state⟩ := ih (by omega) fun j hj hlt => fails j hj (by omega)
      obtain ⟨outcome', state'⟩ := scan_of_failure (o := o) forward more failed s.cursor
      have next : (s.atPos k).moveTo ((s.atPos k).cursor.advance 1) = s.atPos (k + 1) := by
        rw [State.atPos, State.cursor_moveTo, Cursor.advance_ofChars]
        rfl
      rw [next] at outcome' state'
      exact ⟨outcome.trans outcome', state.trans state'⟩

/-- So it goes over the tried positions without a match. -/
theorem scan_of_isTried (forward : Forward p)
    (onlyFails : ∀ i, p.IsTried s i → (p (s.atPos i)).OnlyFails) (le : s.cursor.pos ≤ i)
    (inside : i ≤ s.cursor.source.length)
    (before : ∀ k, s.cursor.pos ≤ k → k < i → ¬ p.MatchesAt s k) :
    (p.upTo o s).EndsAs (scan o p s.cursor (s.atPos i)).outcome
      (scan o p s.cursor (s.atPos i)).state := by
  refine scan_of_failures forward le inside fun k hk hlt => ?_
  have tried : p.IsTried s k :=
    ⟨hk, Nat.lt_of_lt_of_le hlt inside, fun j hj hjk => before j hj (Nat.lt_trans hjk hlt)⟩
  exact exists_failure (onlyFails k tried) (before k hk hlt)

theorem upTo_of_match (forward : Forward p)
    (onlyFails : ∀ i, p.IsTried s i → (p (s.atPos i)).OnlyFails) (tried : p.IsTried s i)
    (found : p.MatchesAt s i) :
    if i = s.cursor.pos ∧ o.allowEmpty = false then
      (p.upTo o s).EndsAs (.error (.failure .satisfying)) s
    else
      (p.upTo o s).EndsAs (.ok (String.ofList ((s.cursor.source.take i).drop s.cursor.pos)))
        (if o.consume then (p (s.atPos i)).state else s.atPos i) := by
  obtain ⟨v, found⟩ := found
  have place : (s.atPos i).cursor.pos = i := Cursor.pos_ofChars (Nat.le_of_lt tried.lt)
  have more : ¬ (s.atPos i).cursor.isAtEnd = true := by
    have := tried.lt
    simp [State.atPos, Cursor.isAtEnd, Cursor.ofChars]
    omega
  obtain ⟨outcome, state⟩ :=
    scan_of_isTried (o := o) forward onlyFails tried.le (Nat.le_of_lt tried.lt) tried.before
  rw [Run.EndsAs, Run.EndsAs, outcome, state]
  have ended := scan_of_ok (o := o) forward more found s.cursor
  have back : (s.atPos i).moveTo s.cursor = s := rfl
  rw [place, Cursor.textTo, place, Cursor.take_rest_sub, back] at ended
  simpa only [Bool.not_eq_true, Run.EndsAs] using ended

theorem upTo_of_none (forward : Forward p)
    (onlyFails : ∀ i, p.IsTried s i → (p (s.atPos i)).OnlyFails)
    (none : ∀ i, s.cursor.pos ≤ i → i < s.cursor.source.length → ¬ p.MatchesAt s i) :
    if o.allowEnd = false then (p.upTo o s).EndsAs (.error (.failure .termination)) s
    else if o.allowEmpty = true ∨ s.cursor.pos < s.cursor.source.length then
      (p.upTo o s).EndsAs (.ok (String.ofList (s.cursor.source.drop s.cursor.pos)))
        (s.atPos s.cursor.source.length)
    else (p.upTo o s).EndsAs (.error (.failure .satisfying)) s := by
  have le : s.cursor.pos ≤ s.cursor.source.length := s.cursor.pos_le_length_source
  have place : (s.atPos s.cursor.source.length).cursor.pos = s.cursor.source.length :=
    Cursor.pos_ofChars (le_refl _)
  have atEnd : (s.atPos s.cursor.source.length).cursor.isAtEnd = true := by
    simp [State.atPos, Cursor.isAtEnd, Cursor.ofChars]
  obtain ⟨outcome, state⟩ := scan_of_isTried (o := o) forward onlyFails le (le_refl _) none
  have back : (s.atPos s.cursor.source.length).moveTo s.cursor = s := rfl
  rw [scan_of_atEnd atEnd, place, Cursor.remaining, back] at outcome state
  rw [Run.EndsAs, Run.EndsAs, Run.EndsAs, outcome, state, Cursor.drop_pos_source]
  cases allowEnd : o.allowEnd with
  | false => simp [Run.stop]
  | true =>
      by_cases enough : o.allowEmpty = true ∨ s.cursor.pos < s.cursor.source.length
      · simp [enough, Run.ok]
      · simp [enough, Run.stop]

end Parser

/-- A run from a state reads the characters up to a parser: those before the first match.  The
options decide about a match at the start, about the place that is left, and about a text in which
there is no match. -/
structure Run.IsUpTo {α : Type} (r : Run String) (p : Parser α) (o : ScanOptions) (s : State) :
    Prop where
  matched : ∀ i, p.IsTried s i → p.MatchesAt s i →
    if i = s.cursor.pos ∧ o.allowEmpty = false then r.EndsAs (.error (.failure .satisfying)) s
    else
      r.EndsAs (.ok (String.ofList ((s.cursor.source.take i).drop s.cursor.pos)))
        (if o.consume then (p (s.atPos i)).state else s.atPos i)
  unmatched : (∀ i, s.cursor.pos ≤ i → i < s.cursor.source.length → ¬ p.MatchesAt s i) →
    if o.allowEnd = false then r.EndsAs (.error (.failure .termination)) s
    else if o.allowEmpty = true ∨ s.cursor.pos < s.cursor.source.length then
      r.EndsAs (.ok (String.ofList (s.cursor.source.drop s.cursor.pos)))
        (s.atPos s.cursor.source.length)
    else r.EndsAs (.error (.failure .satisfying)) s

namespace Grammar

variable {ι : Type} {τ : ι → Type} {α : Type} {rules : (i : ι) → Grammar τ (τ i)}
  {terminator : Grammar τ α} {s : State} {i : Nat}

/-- A whole run ends as its parser does. -/
theorem endsAs_run_iff {p : Grammar τ α} {o : Except Stop α} {t : State} :
    (p.run rules s).EndsAs o t ↔ (p.parser rules s).EndsAs o t := by
  rw [Run.EndsAs, Run.EndsAs, outcome_run, state_run]

/-- All attempts are made over rules that are unrolled for the start. -/
theorem matchesAt_run :
    (terminator.run rules).MatchesAt s i ↔
      (terminator.meaning (unroll rules (s.nesting.budget + 1))).MatchesAt s i := by
  rw [Parser.MatchesAt, outcome_run]
  rfl

theorem isTried_run :
    (terminator.run rules).IsTried s i ↔
      (terminator.meaning (unroll rules (s.nesting.budget + 1))).IsTried s i := by
  constructor
  · rintro ⟨le, lt, before⟩
    exact ⟨le, lt, fun k hk hlt found => before k hk hlt (matchesAt_run.mpr found)⟩
  · rintro ⟨le, lt, before⟩
    exact ⟨le, lt, fun k hk hlt found => before k hk hlt (matchesAt_run.mp found)⟩

/-- Where the terminator does nothing but fail at the tried positions without a match, the
characters up to it are those before the first match. -/
theorem run_upTo (rules : (i : ι) → Grammar τ (τ i)) :
    (∀ (p : Parser α) (o : ScanOptions) (s : State), p.Forward →
      (∀ i, p.IsTried s i → (p (s.atPos i)).OnlyFails) → (p.upTo o s).IsUpTo p o s) ∧
      ∀ (terminator : Grammar τ α) (o : ScanOptions) (s : State),
        (∀ i, (terminator.run rules).IsTried s i →
          (terminator.run rules (s.atPos i)).OnlyFails) →
        ((upTo terminator o).run rules s).IsUpTo (terminator.run rules) o s := by
  constructor
  · intro p o s forward onlyFails
    exact ⟨fun i => Parser.upTo_of_match forward onlyFails, Parser.upTo_of_none forward onlyFails⟩
  · intro terminator o s onlyFails
    have forward : (terminator.meaning (unroll rules (s.nesting.budget + 1))).Forward :=
      forward_meaning (forward_unroll rules _) terminator
    have onlyFails' : ∀ i, (terminator.meaning (unroll rules (s.nesting.budget + 1))).IsTried s i →
        (terminator.meaning (unroll rules (s.nesting.budget + 1)) (s.atPos i)).OnlyFails := by
      intro i tried e stopped
      refine onlyFails i (isTried_run.mpr tried) e ?_
      rw [outcome_run]
      exact stopped
    constructor
    · intro i tried found
      simp only [Run.EndsAs, outcome_run, state_run]
      exact Parser.upTo_of_match forward onlyFails' (isTried_run.mp tried) (matchesAt_run.mp found)
    · intro none
      simp only [Run.EndsAs, outcome_run, state_run]
      refine Parser.upTo_of_none forward onlyFails' fun i le lt found => ?_
      exact none i le lt (matchesAt_run.mpr found)

/-- Two stars.  Before one star alone it fails with that star read. -/
def twoStars : Grammar (fun _ : Empty => Unit) (List String) := chain fun _ : Fin 2 => token "*"

theorem onlyFails_twoStars (s : State) : (twoStars.run nofun s).OnlyFails := by
  intro e stopped
  rw [outcome_run] at stopped
  refine Parser.OnlyFails.chain (fun p hp => ?_) s e stopped
  obtain ⟨i, rfl⟩ := List.mem_ofFn.mp hp
  exact (Parser.readsOrFails_token "*").onlyFails

/-- One character is read of `/a*b**c`. -/
def beforeStars : State := ⟨.ofChars "/a*b**c".toList 1, ⟨5, 0⟩⟩

/-- The first star ends the text before it.  Up to two stars, the single star is part of the text,
and the cursor is left behind the two. -/
theorem run_upTo_twoStars :
    ((Parser.token "*").Forward ∧
      (∀ i, (Parser.token "*").IsTried beforeStars i →
        (Parser.token "*" (beforeStars.atPos i)).OnlyFails) ∧
      (Parser.token "*").IsTried beforeStars 2 ∧ (Parser.token "*").MatchesAt beforeStars 2 ∧
      ((Parser.token "*").upTo {} beforeStars).EndsAs (.ok "a") (beforeStars.atPos 2)) ∧
    (∀ i, (twoStars.run nofun).IsTried beforeStars i →
        (twoStars.run nofun (beforeStars.atPos i)).OnlyFails) ∧
      (twoStars.run nofun).IsTried beforeStars 4 ∧ (twoStars.run nofun).MatchesAt beforeStars 4 ∧
      ((upTo twoStars { consume := true }).run nofun beforeStars).EndsAs (.ok "a*b")
        (beforeStars.atPos 6) := by
  have onlyFails : ∀ i, (twoStars.run nofun).IsTried beforeStars i →
      (twoStars.run nofun (beforeStars.atPos i)).OnlyFails := fun i _ => onlyFails_twoStars _
  have found : (twoStars.run nofun).MatchesAt beforeStars 4 := ⟨["*", "*"], rfl⟩
  have start : beforeStars.cursor.pos = 1 := rfl
  have length : beforeStars.cursor.source.length = 7 := rfl
  have before : ∀ k, beforeStars.cursor.pos ≤ k → k < 4 →
      ¬ (twoStars.run nofun).MatchesAt beforeStars k := by
    rintro k le lt ⟨v, value⟩
    obtain rfl | rfl | rfl : k = 1 ∨ k = 2 ∨ k = 3 := by omega
    · cases value
    · cases value
    · cases value
  have tried : (twoStars.run nofun).IsTried beforeStars 4 := ⟨by omega, by omega, before⟩
  have behind : (twoStars.run nofun (beforeStars.atPos 4)).state = beforeStars.atPos 6 := rfl
  have text : (beforeStars.cursor.source.take 4).drop beforeStars.cursor.pos = "a*b".toList := by
    decide
  have ends := ((run_upTo _).2 _ { consume := true } _ onlyFails).matched 4 tried found
  rw [if_neg fun h => absurd h.1 (by omega), if_pos rfl, behind, text, String.ofList_toList] at ends
  have forward : (Parser.token "*").Forward := (Parser.isReading_token "*").forward
  have starFails : ∀ i, (Parser.token "*").IsTried beforeStars i →
      (Parser.token "*" (beforeStars.atPos i)).OnlyFails :=
    fun i _ => (Parser.readsOrFails_token "*").onlyFails _
  have star : (Parser.token "*").MatchesAt beforeStars 2 := ⟨"*", rfl⟩
  have letterFirst : (Parser.token "*").IsTried beforeStars 2 := by
    refine ⟨by omega, by omega, ?_⟩
    rintro k le lt ⟨v, value⟩
    obtain rfl : k = 1 := by omega
    cases value
  have letter : (beforeStars.cursor.source.take 2).drop beforeStars.cursor.pos = "a".toList := by
    decide
  have first := ((run_upTo (τ := fun _ : Empty => Unit) nofun).1 _ {} _ forward starFails).matched 2
    letterFirst star
  rw [if_neg fun h => absurd h.1 (by omega), if_neg Bool.false_ne_true, letter,
    String.ofList_toList] at first
  exact ⟨⟨forward, starFails, letterFirst, star, first⟩, onlyFails, tried, found, ends⟩

end Grammar

end Descent
