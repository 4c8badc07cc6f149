import Descent.Proofs.Collecting
import Descent.Proofs.LineBreaks

/-!
# A run in pieces

A run of a class of characters may be read at once or piece by piece.  A parser *reads pieces*
of the class if it reads a front of the run, and not an empty one, wherever there is a run, and
fails in place where there is none (`Parser.ReadsPieces`).  It need not take the same front every
time.  What it leaves of a run is a run again, so its repetition goes on to the end of the first
one, and the pieces make up the run (`join_many`).

The smallest pieces are the characters of the run, so a run that is read at once is the same as
its characters joined (`run_satisfyRun_characters`).

Blanks are cut in this way at the line breaks: a piece is a run of inline blanks, or else a line
break, and a carriage return and its line feed stay together.  So blanks that are read at once are
the same as such pieces joined (`run_blanks_pieces`).
-/

namespace Descent

open Descent.Text (isBlank isInlineBlank isLineBreak breakAhead)

/-! ## Fronts of a run -/

namespace Text

variable {c : Char → Bool} {text run piece : List Char}

theorem takeWhile_eq_nil_iff : text.takeWhile c = [] ↔ ∀ x ∈ text.head?, c x = false := by
  cases text with
  | nil => simp
  | cons x text => cases h : c x <;> simp [h]

theorem exists_cons_of_takeWhile_ne_nil (some : text.takeWhile c ≠ []) :
    ∃ x rest, text = x :: rest ∧ c x = true := by
  cases text with
  | nil => exact absurd rfl some
  | cons x rest =>
      refine ⟨x, rest, rfl, ?_⟩
      by_contra other
      exact some (List.takeWhile_cons_of_neg other)

/-- A front with characters of the class only is a front of the run. -/
theorem prefix_takeWhile (front : piece <+: text) (all : ∀ x ∈ piece, c x = true) :
    piece <+: text.takeWhile c := by
  obtain ⟨rest, rfl⟩ := front
  rw [List.takeWhile_append_of_pos all]
  exact List.prefix_append _ _

/-- What comes behind a front of the run is the run less this front, and what ends the run. -/
theorem exists_of_prefix_takeWhile (front : piece <+: text.takeWhile c) :
    ∃ left rest, text = piece ++ (left ++ rest) ∧ text.takeWhile c = piece ++ left ∧
      (left ++ rest).takeWhile c = left := by
  obtain ⟨left, split⟩ := front
  refine ⟨left, text.dropWhile c, ?_, split.symm, ?_⟩
  · rw [← List.append_assoc, split, List.takeWhile_append_dropWhile]
  · refine Parser.takeWhile_append (fun x hx => ?_) Parser.mem_head?_dropWhile
    exact List.mem_takeWhile_imp (split ▸ List.mem_append_right piece hx)

/-- Blanks are ahead if inline blanks or a line break are. -/
theorem takeWhile_isBlank_eq_nil_iff : text.takeWhile isBlank = [] ↔
    text.takeWhile isInlineBlank = [] ∧ breakAhead text = none := by
  simp only [takeWhile_eq_nil_iff, breakAhead_eq_none_iff, isBlank_eq_or, Bool.or_eq_false_iff]
  exact forall₂_and

theorem isBlank_of_isInlineBlank {x : Char} (h : isInlineBlank x = true) : isBlank x = true := by
  rw [isBlank_eq_or, h, Bool.true_or]

theorem dropWhile_eq_self (none : text.takeWhile c = []) : text.dropWhile c = text := by
  have both := text.takeWhile_append_dropWhile (p := c)
  rwa [none, List.nil_append] at both

end Text

namespace Parser

variable {c : Char → Bool} {e : ParseError} {p : Parser String} {s : State}

/-- Where there is a run of the class ahead, a front of it is read that is not empty.  Elsewhere
the parser fails in place. -/
structure ReadsPieces (c : Char → Bool) (e : ParseError) (p : Parser String) : Prop where
  piece {s : State} : s.cursor.rest.takeWhile c ≠ [] →
    ∃ v, v.toList ≠ [] ∧ v.toList <+: s.cursor.rest.takeWhile c ∧
      (p s).EndsAs (.ok v) (s.past v.toList)
  none {s : State} : s.cursor.rest.takeWhile c = [] → (p s).EndsAs (.error (.failure e)) s

namespace ReadsPieces

theorem forward (h : p.ReadsPieces c e) : Forward p := by
  intro s
  by_cases none : s.cursor.rest.takeWhile c = []
  · rw [(h.none none).2]
  · obtain ⟨v, -, -, ended⟩ := h.piece none
    rw [ended.2]
    exact State.le_moveTo (Cursor.le_advance _ _)

theorem stopsInPlace (h : p.ReadsPieces c e) : p.StopsInPlace := by
  intro s stop stopped _
  by_cases none : s.cursor.rest.takeWhile c = []
  · rw [(h.none none).2]
  · obtain ⟨v, -, -, ended⟩ := h.piece none
    rw [ended.1] at stopped
    cases stopped

/-- The pieces one after the other go to the end of the run and make it up. -/
theorem repeats (h : p.ReadsPieces c e) (s : State) :
    ∃ vs, p.Repeats s vs (s.past (s.cursor.rest.takeWhile c)) ∧
      vs.flatMap String.toList = s.cursor.rest.takeWhile c := by
  induction length : s.cursor.rest.length using Nat.strong_induction_on generalizing s with
  | h n ih =>
    by_cases none : s.cursor.rest.takeWhile c = []
    · rw [none, State.past_nil]
      exact ⟨[], .stop (h.none none).1 (by simp), rfl⟩
    · obtain ⟨v, ne_nil, front, ended⟩ := h.piece none
      obtain ⟨left, rest, split, run, others⟩ := Text.exists_of_prefix_takeWhile front
      have behind := State.rest_past split
      have some := List.length_pos_iff.mpr ne_nil
      have total := congrArg List.length split
      rw [List.length_append] at total
      have less : (s.past v.toList).cursor.rest.length < n := by
        rw [behind]
        omega
      obtain ⟨vs, repeats, pieces⟩ := ih _ less (s.past v.toList) rfl
      rw [behind, others] at repeats pieces
      have progress : s.cursor.pos < (s.past v.toList).cursor.pos := by
        rw [State.past, State.cursor_moveTo, Cursor.pos_advance]
        omega
      rw [run, ← State.past_append]
      exact ⟨v :: vs, .more ended progress repeats, by rw [List.flatMap_cons, pieces]⟩

/-- So the repetition collects pieces that make up the run, or fails where there is none and one
is asked for. -/
theorem many (h : p.ReadsPieces c e) (name : String) (allowEmpty : Bool) (s : State) :
    ∃ vs, vs.flatMap String.toList = s.cursor.rest.takeWhile c ∧
      (p.many name allowEmpty s).EndsAs
        (if allowEmpty = true ∨ s.cursor.rest.takeWhile c ≠ [] then .ok vs
          else .error (.failure e))
        (s.past (s.cursor.rest.takeWhile c)) := by
  obtain ⟨vs, repeats, pieces⟩ := h.repeats s
  refine ⟨vs, pieces, ?_⟩
  split
  next allowed =>
    refine repeats.many name h.forward h.stopsInPlace (allowed.imp_right ?_)
    rintro some rfl
    exact some pieces.symm
  next missing =>
    obtain ⟨notAllowed, none⟩ := not_or.mp missing
    rw [not_not] at none
    have stopped : (p.many name allowEmpty s).EndsAs
        (if allowEmpty then .ok [] else .error (.failure e)) (p s).state :=
      many_of_stop name (h.none none).1 (by simp)
    rw [if_neg notAllowed, (h.none none).2] at stopped
    rwa [none, State.past_nil]

end ReadsPieces

end Parser

namespace Grammar

variable {ι : Type} {τ : ι → Type} {env : (i : ι) → Parser (τ i)}

/-- Joined, the pieces of a run are the run. -/
theorem join_many {c : Char → Bool} {e : ParseError} {p : Grammar τ String}
    (h : (p.meaning env).ReadsPieces c e) (allowEmpty : Bool) (s : State) :
    ((String.join <$> p.many allowEmpty).meaning env s).EndsAs
      (if allowEmpty = true ∨ s.cursor.rest.takeWhile c ≠ [] then
        .ok (String.ofList (s.cursor.rest.takeWhile c)) else .error (.failure e))
      (s.past (s.cursor.rest.takeWhile c)) := by
  obtain ⟨vs, pieces, collected⟩ := h.many p.name allowEmpty s
  have texts : (String.join vs).toList = vs.flatMap String.toList := by
    rw [String.toList_join, List.flatMap]
  have joined : String.join vs = String.ofList (s.cursor.rest.takeWhile c) := by
    rw [← pieces, ← texts, String.ofList_toList]
  have ends := Parser.endsAs_mapOrStop String.join collected
  rw [apply_ite (Except.map String.join), Except.map, Except.map, joined] at ends
  exact ends

/-! ## One character at a time -/

/-- The smallest piece of a run is its first character. -/
theorem readsPieces_singleton (c : Char → Bool) :
    ((String.singleton <$> satisfy c : Grammar τ String).meaning env).ReadsPieces c .satisfying where
  piece {s} some := by
    obtain ⟨x, rest, ahead, holds⟩ := Text.exists_cons_of_takeWhile_ne_nil some
    have read : (satisfy c : Grammar τ Char).meaning env s = .ok x (s.past [x]) :=
      Parser.satisfy_of_cons ahead holds
    refine ⟨String.singleton x, ?_⟩
    rw [String.toList_singleton]
    exact ⟨List.cons_ne_nil _ _, Text.prefix_takeWhile ⟨rest, ahead.symm⟩ (by simpa using holds),
      Run.endsAs_of_eq_ok (fmap_of_ok String.singleton read)⟩
  none {s} none := by
    have stopped : (satisfy c : Grammar τ Char).meaning env s = .stop (.failure .satisfying) s :=
      Parser.satisfy_of_other (Text.takeWhile_eq_nil_iff.mp none)
    exact Run.endsAs_of_eq_stop (fmap_of_stop String.singleton stopped)

/-- A run of a class that is read at once is the one that is read character by character, joined.
Where it is empty and one is asked for, both fail in place, and with the same failure. -/
theorem run_satisfyRun_characters (rules : (i : ι) → Grammar τ (τ i)) (c : Char → Bool)
    (allowEmpty : Bool) (s : State) :
    let run := s.cursor.rest.takeWhile c
    let atOnce := (satisfyRun c allowEmpty).run rules s
    let oneByOne := (String.join <$> (String.singleton <$> satisfy c).many allowEmpty).run rules s
    if allowEmpty = true ∨ run ≠ [] then
      atOnce.EndsAs (.ok (String.ofList run)) (s.past run) ∧
        oneByOne.EndsAs (.ok (String.ofList run)) (s.past run)
    else
      atOnce.EndsAs (.error (.failure .satisfying)) s ∧
        oneByOne.EndsAs (.error (.failure .satisfying)) s := by
  have pieces : ((String.singleton <$> satisfy c : Grammar τ String).meaning
      (unroll rules (s.nesting.budget + 1))).ReadsPieces c _ := readsPieces_singleton c
  have joined := join_many pieces allowEmpty s
  simp only [endsAs_run_iff]
  split
  next allowed =>
    have atOnce : (satisfyRun c allowEmpty : Grammar τ String).parser rules s =
        .ok (String.ofList (s.cursor.rest.takeWhile c)) (s.past (s.cursor.rest.takeWhile c)) :=
      Parser.span_of_allowed _ allowed
    rw [if_pos allowed] at joined
    exact ⟨Run.endsAs_of_eq_ok atOnce, joined⟩
  next missing =>
    obtain ⟨notAllowed, none⟩ := not_or.mp missing
    rw [not_not] at none
    obtain rfl := Bool.eq_false_of_not_eq_true notAllowed
    have atOnce : (satisfyRun c false : Grammar τ String).parser rules s =
        .stop (.failure .satisfying) s := Parser.span_of_empty _ none
    rw [if_neg missing, none, State.past_nil] at joined
    exact ⟨Run.endsAs_of_eq_stop atOnce, joined⟩

/-! ## Blanks in pieces -/

/-- A piece of blanks are all inline blanks that are ahead, or else a line break. -/
theorem readsPieces_blanks : ((space.orElse newline : Grammar τ String).meaning env).ReadsPieces
    isBlank (.either .satisfying .satisfying) where
  piece {s} some := by
    by_cases none : s.cursor.rest.takeWhile isInlineBlank = []
    · have noBlanks := Text.dropWhile_eq_self none
      have noSpace := Parser.span_of_empty .satisfying none
      have found : breakAhead s.cursor.rest ≠ .none := fun missing =>
        some (Text.takeWhile_isBlank_eq_nil_iff.mpr ⟨none, missing⟩)
      obtain ⟨brk, found⟩ := Option.ne_none_iff_exists'.mp found
      obtain ⟨ne_nil, front, all⟩ := Text.prefix_of_breakAhead found
      have read : (newline : Grammar τ String).meaning env s = _ :=
        newline_of_some (noBlanks.symm ▸ found)
      rw [none, List.nil_append] at read
      refine ⟨String.ofList brk, ?_⟩
      rw [String.toList_ofList]
      exact ⟨ne_nil, Text.prefix_takeWhile front fun x hx => Text.isBlank_of_isLineBreak (all x hx),
        Run.endsAs_of_eq_ok (Parser.orElse_of_failure noSpace read)⟩
    · have read : Parser.span isInlineBlank false .satisfying s = _ :=
        Parser.span_of_allowed _ (.inr none)
      refine ⟨String.ofList (s.cursor.rest.takeWhile isInlineBlank), ?_⟩
      rw [String.toList_ofList]
      exact ⟨none, Text.prefix_takeWhile (List.takeWhile_prefix _) fun x hx =>
        Text.isBlank_of_isInlineBlank (List.mem_takeWhile_imp hx),
        Run.endsAs_of_eq_ok (Parser.orElse_of_ok _ read)⟩
  none {s} none := by
    obtain ⟨noBlanks, missing⟩ := Text.takeWhile_isBlank_eq_nil_iff.mp none
    have noSpace := Parser.span_of_empty .satisfying noBlanks
    rw [← Text.dropWhile_eq_self noBlanks] at missing
    have noBreak : (newline : Grammar τ String).meaning env s = _ := newline_of_none missing
    exact Run.endsAs_of_eq_stop (Parser.orElse_of_failures noSpace noBreak)

/-- Blanks that are read at once are those that are read piece by piece, joined.  Both end behind
the last of them. -/
theorem run_blanks_pieces (rules : (i : ι) → Grammar τ (τ i)) (s : State) :
    let run := s.cursor.rest.takeWhile isBlank
    ((blanks true).run rules s).EndsAs (.ok (String.ofList run)) (s.past run) ∧
      ((String.join <$> (space.orElse newline).many).run rules s).EndsAs
        (.ok (String.ofList run)) (s.past run) := by
  have atOnce : (blanks true : Grammar τ String).parser rules s =
      .ok (String.ofList (s.cursor.rest.takeWhile isBlank))
        (s.past (s.cursor.rest.takeWhile isBlank)) := Parser.span_of_allowed _ (.inl rfl)
  have pieces : ((space.orElse newline : Grammar τ String).meaning
      (unroll rules (s.nesting.budget + 1))).ReadsPieces isBlank _ := readsPieces_blanks
  have joined := join_many pieces true s
  rw [if_pos (.inl rfl)] at joined
  exact ⟨endsAs_run_iff.mpr (Run.endsAs_of_eq_ok atOnce), endsAs_run_iff.mpr joined⟩

end Grammar

end Descent
