import Descent.Proofs.Demand
import Descent.Proofs.Scanning

/-!
# Line breaks

A line break at the front of a text is a carriage return with a line feed, or else one character
of the line breaks (`Text.breakAhead`).  `lineBreak` reads it, and `newline` reads the inline
blanks before it as well.  It reads all of them, as none of them is a line break.

Three combinators decide how `newline` ends.  `optional` makes an empty text of blanks that are
missing.  `secondError` keeps of the two failures of a line break the one of the class, so that
the literal is never asked for.  And `bind` puts the cursor back before the blanks where no line
break follows them (`run_newline`).
-/

namespace Descent

namespace Text

variable {text brk : List Char}

/-- The line break at the front of a text. -/
def breakAhead (text : List Char) : Option (List Char) :=
  if crlf.toList <+: text then some crlf.toList
  else (text.head?.filter isLineBreak).map fun c => [c]

theorem breakAhead_of_other {c : Char} (other : ¬ crlf.toList <+: c :: text) :
    breakAhead (c :: text) = if isLineBreak c then some [c] else none := by
  rw [breakAhead, if_neg other, List.head?_cons, Option.filter]
  split <;> rfl

/-- There is a line break if the first character is one. -/
theorem breakAhead_eq_none_iff :
    breakAhead text = none ↔ ∀ c ∈ text.head?, isLineBreak c = false := by
  by_cases both : crlf.toList <+: text
  · obtain ⟨rest, rfl⟩ := both
    have first : isLineBreak '\r' = true := by decide
    simp [breakAhead, crlf, first]
  · cases text with
    | nil => simp [breakAhead, crlf]
    | cons c text => simp [breakAhead_of_other both]

/-- A line break is both characters together, or else one of the class. -/
theorem cases_of_breakAhead (found : breakAhead text = some brk) :
    (crlf.toList <+: text ∧ brk = crlf.toList) ∨
      ¬ crlf.toList <+: text ∧
        ∃ c rest, text = c :: rest ∧ isLineBreak c = true ∧ brk = [c] := by
  by_cases both : crlf.toList <+: text
  · rw [breakAhead, if_pos both] at found
    cases found
    exact .inl ⟨both, rfl⟩
  · refine .inr ⟨both, ?_⟩
    cases text with
    | nil => simp [breakAhead, crlf] at found
    | cons c rest =>
        rw [breakAhead_of_other both] at found
        split at found
        next isBreak =>
          cases found
          exact ⟨c, rest, rfl, isBreak, rfl⟩
        next => cases found

/-- It is a front of the text, and all of its characters are line breaks. -/
theorem prefix_of_breakAhead (found : breakAhead text = some brk) :
    brk ≠ [] ∧ brk <+: text ∧ ∀ c ∈ brk, isLineBreak c = true := by
  obtain ⟨both, rfl⟩ | ⟨-, c, rest, rfl, isBreak, rfl⟩ := cases_of_breakAhead found
  · exact ⟨by decide, both, List.all_eq_true.mp (by decide)⟩
  · exact ⟨List.cons_ne_nil _ _, ⟨rest, rfl⟩, by simpa using isBreak⟩

end Text

open Text (isInlineBlank isLineBreak breakAhead)

namespace Grammar

variable {ι : Type} {τ : ι → Type} {env : (i : ι) → Parser (τ i)} {s : State} {brk : List Char}

/-! ## One line break -/

theorem lineBreak_of_some (found : breakAhead s.cursor.rest = some brk) :
    (lineBreak : Grammar τ String).meaning env s = .ok (String.ofList brk) (s.past brk) := by
  obtain ⟨⟨rest, ahead⟩, rfl⟩ | ⟨other, c, rest, ahead, isBreak, rfl⟩ :=
    Text.cases_of_breakAhead found
  · have read := Parser.token_of_append (s := s) ahead.symm
    rw [String.ofList_toList]
    exact Parser.secondError_of_ok (Parser.orElse_of_ok _ read)
  · have noToken := Parser.token_of_not_prefix (s := s) other
    have read : (satisfy isLineBreak : Grammar τ Char).meaning env s = .ok c (s.past [c]) :=
      Parser.satisfy_of_cons ahead isBreak
    have single := fmap_of_ok String.singleton read
    rw [← String.singleton_eq_ofList]
    exact Parser.secondError_of_ok (Parser.orElse_of_failure noToken single)

/-- Both branches fail in place, and the failure of the second one is kept. -/
theorem lineBreak_of_none (missing : breakAhead s.cursor.rest = none) :
    (lineBreak : Grammar τ String).meaning env s = .stop (.failure .satisfying) s := by
  have other := Text.breakAhead_eq_none_iff.mp missing
  have noToken : ¬ Text.crlf.toList <+: s.cursor.rest := by
    intro both
    rw [breakAhead, if_pos both] at missing
    cases missing
  have noCharacter : (satisfy isLineBreak : Grammar τ Char).meaning env s =
      .stop (.failure .satisfying) s := Parser.satisfy_of_other other
  have noText := fmap_of_stop String.singleton noCharacter
  have noLiteral := Parser.token_of_not_prefix noToken
  exact Parser.secondError_of_either (Parser.orElse_of_failures noLiteral noText)

/-! ## Blanks and a line break -/

/-- The inline blanks that are ahead, or an empty text. -/
theorem optional_space :
    ((space : Grammar τ String).optional "").meaning env s =
      .ok (String.ofList (s.cursor.rest.takeWhile isInlineBlank))
        (s.past (s.cursor.rest.takeWhile isInlineBlank)) := by
  by_cases none : s.cursor.rest.takeWhile isInlineBlank = []
  · rw [none, State.past_nil]
    exact Parser.optional_of_failure _ _ (Parser.span_of_empty _ none)
  · exact Parser.optional_of_ok _ _ (Parser.span_of_allowed _ (.inr none))

/-- Behind the run of a class is what comes when the run is dropped. -/
theorem rest_past_takeWhile (c : Char → Bool) (s : State) :
    (s.past (s.cursor.rest.takeWhile c)).cursor.rest = s.cursor.rest.dropWhile c :=
  State.rest_past List.takeWhile_append_dropWhile.symm

theorem newline_of_some (found : breakAhead (s.cursor.rest.dropWhile isInlineBlank) = some brk) :
    (newline : Grammar τ String).meaning env s =
      .ok (String.ofList (s.cursor.rest.takeWhile isInlineBlank ++ brk))
        (s.past (s.cursor.rest.takeWhile isInlineBlank ++ brk)) := by
  rw [← rest_past_takeWhile] at found
  rw [String.ofList_append, ← State.past_append]
  exact Parser.bind_of_ok optional_space (fmap_of_ok _ (lineBreak_of_some found))

/-- The cursor goes back before the blanks. -/
theorem newline_of_none (missing : breakAhead (s.cursor.rest.dropWhile isInlineBlank) = none) :
    (newline : Grammar τ String).meaning env s = .stop (.failure .satisfying) s := by
  rw [← rest_past_takeWhile] at missing
  calc (newline : Grammar τ String).meaning env s
      = .stop (.failure .satisfying)
          ((s.past (s.cursor.rest.takeWhile isInlineBlank)).moveTo s.cursor) :=
        Parser.bind_of_ok_of_stop optional_space (fmap_of_stop _ (lineBreak_of_none missing))
    _ = .stop (.failure .satisfying) s := rfl

/-- Where a line break follows the inline blanks that are ahead, the blanks and the line break
are read, and nothing behind them.  Elsewhere nothing is read, and the failure is that of the
class. -/
theorem run_newline (rules : (i : ι) → Grammar τ (τ i)) (s : State) :
    let blanks := s.cursor.rest.takeWhile isInlineBlank
    match breakAhead (s.cursor.rest.dropWhile isInlineBlank) with
    | some brk =>
        (newline.run rules s).EndsAs (.ok (String.ofList (blanks ++ brk))) (s.past (blanks ++ brk))
    | none => (newline.run rules s).EndsAs (.error (.failure .satisfying)) s := by
  simp only [endsAs_run_iff]
  split
  next found => exact Run.endsAs_of_eq_ok (newline_of_some found)
  next missing => exact Run.endsAs_of_eq_stop (newline_of_none missing)

end Grammar

end Descent
