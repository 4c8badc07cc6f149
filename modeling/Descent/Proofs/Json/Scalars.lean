import Descent.Proofs.Json.Reader
import Descent.Proofs.Stepping

/-!
# Strings and numbers of JSON texts

The readers of strings and of numbers are sound and complete for their forms.  A string ends with
its quote, whatever follows.  A number ends before what may stand behind a value
(`readNumber_append`), as none of that could go on with the number.
-/

namespace Descent

namespace Json

/-! ## Strings are read -/

section Strings

variable {n : Nat} {c : Char} {t rest : List Char}

theorem readCode_append (form : CodeForm n t) : readCode (t ++ rest) = some (n, rest) := by
  cases form with
  | mk value => simp only [List.cons_append, List.nil_append, readCode, value, Option.map_some]

theorem sound_readCode : Sound CodeForm readCode := by
  intro t n rest read
  unfold readCode at read
  split at read
  · next a b c d t =>
      obtain ⟨m, value, same⟩ := Option.map_eq_some_iff.mp read
      obtain ⟨rfl, rfl⟩ := Prod.mk.inj same
      exact ⟨['\\', 'u', a, b, c, d], rfl, .mk value⟩
  · cases read

/-- A code is read as a character where it is the code of one. -/
theorem readCoded_of_isValidChar (form : CodeForm n t) (scalar : n.isValidChar) :
    readCoded (t ++ rest) = some (Char.ofNat n, rest) := by
  simp only [readCoded, readCode_append form, Option.bind_eq_bind, Option.bind_some, scalar,
    if_true, Option.pure_def]

/-- A half of a pair is no character, so the other half is read too. -/
theorem readCoded_of_pair {m : Nat} {u : List Char} (first : CodeForm n t)
    (second : CodeForm m u) (high : IsHigh n) (low : IsLow m) :
    readCoded (t ++ (u ++ rest)) = some (Char.ofNat (pairValue n m), rest) := by
  have half : ¬ n.isValidChar := by
    obtain ⟨least, most⟩ := high
    simp only [Nat.isValidChar]
    omega
  simp only [readCoded, readCode_append first, readCode_append second, Option.bind_eq_bind,
    Option.bind_some, half, if_false, high, low, and_self, if_true, Option.pure_def]

theorem sound_readCoded : Sound CharForm readCoded := by
  intro t c rest read
  simp only [readCoded, Option.bind_eq_bind, Option.bind_eq_some_iff, Prod.exists] at read
  obtain ⟨n, t₁, first, read⟩ := read
  obtain ⟨u, rfl, form⟩ := sound_readCode first
  split at read
  · next scalar =>
      obtain ⟨rfl, rfl⟩ := Prod.mk.inj (Option.some.inj read)
      exact ⟨u, rfl, .code form scalar⟩
  · simp only [Option.bind_eq_some_iff, Prod.exists] at read
    obtain ⟨m, t₂, second, read⟩ := read
    obtain ⟨w, rfl, other⟩ := sound_readCode second
    split at read
    · next halves =>
        obtain ⟨rfl, rfl⟩ := Prod.mk.inj (Option.some.inj read)
        exact ⟨u ++ w, (List.append_assoc ..).symm, .pair form other halves.1 halves.2⟩
    · cases read

theorem readChar_code (form : CodeForm n t) : readChar (t ++ rest) = readCoded (t ++ rest) := by
  cases form
  rfl

theorem readChar_append (form : CharForm c t) : readChar (t ++ rest) = some (c, rest) := by
  cases form with
  | plain visible notQuote notEscape =>
      rw [List.singleton_append, readChar, if_pos ⟨visible, notQuote, notEscape⟩]
      all_goals simp [notEscape]
  | @short c x letter =>
      have notCode : x ≠ 'u' := by
        rintro rfl
        cases letter
      rw [List.cons_append, List.singleton_append, readChar, letter, Option.map_some]
      exact notCode
  | code written scalar =>
      rw [readChar_code written, readCoded_of_isValidChar written scalar]
  | pair first second high low =>
      rw [List.append_assoc, readChar_code first, readCoded_of_pair first second high low]

theorem sound_readChar : Sound CharForm readChar := by
  intro t c rest read
  unfold readChar at read
  split at read
  · exact sound_readCoded read
  · next x t _ =>
      obtain ⟨d, letter, same⟩ := Option.map_eq_some_iff.mp read
      obtain ⟨rfl, rfl⟩ := Prod.mk.inj same
      exact ⟨['\\', x], rfl, .short letter⟩
  · next d t _ _ =>
      split at read
      · next h =>
          obtain ⟨rfl, rfl⟩ := Prod.mk.inj (Option.some.inj read)
          exact ⟨[d], rfl, .plain h.1 h.2.1 h.2.2⟩
      · cases read
  · cases read

theorem CharForm.head_ne_quote (form : CharForm c t) : ∃ x u, t = x :: u ∧ x ≠ '"' := by
  cases form with
  | plain visible notQuote notEscape => exact ⟨c, [], rfl, notQuote⟩
  | short letter => exact ⟨_, _, rfl, by decide⟩
  | code written scalar =>
      cases written
      exact ⟨_, _, rfl, by decide⟩
  | pair first second high low =>
      cases first
      exact ⟨_, _, rfl, by decide⟩

theorem readChars_append {cs : List Char} (form : CharsForm cs t) (bound : t.length < n) :
    readChars n (t ++ '"' :: rest) = some (cs, '"' :: rest) := by
  induction form generalizing n with
  | nil =>
      obtain ⟨n, rfl⟩ := Nat.exists_eq_add_one_of_ne_zero (Nat.ne_zero_of_lt bound)
      rfl
  | @cons c cs t ts first others ih =>
      obtain ⟨n, rfl⟩ := Nat.exists_eq_add_one_of_ne_zero (Nat.ne_zero_of_lt bound)
      obtain ⟨x, u, shape, notQuote⟩ := first.head_ne_quote
      have shorter : ts.length < n := by
        rw [shape, List.length_append, List.length_cons] at bound
        omega
      have notEnd : (t ++ (ts ++ '"' :: rest)).head? ≠ some '"' := by simp [shape, notQuote]
      simp only [List.append_assoc, readChars, notEnd, if_false, readChar_append first,
        ih shorter, Option.bind_eq_bind, Option.bind_some, Option.pure_def]

theorem sound_readChars (n : Nat) : Sound CharsForm (readChars n) := by
  induction n with
  | zero =>
      intro t cs rest read
      cases read
  | succ n ih =>
      intro t cs rest read
      unfold readChars at read
      split at read
      · obtain ⟨rfl, rfl⟩ := Prod.mk.inj (Option.some.inj read)
        exact ⟨[], rfl, .nil⟩
      · simp only [Option.bind_eq_bind, Option.bind_eq_some_iff, Prod.exists] at read
        obtain ⟨c, t₁, first, cs, t₂, others, same⟩ := read
        obtain ⟨u, rfl, form⟩ := sound_readChar first
        obtain ⟨w, rfl, forms⟩ := ih others
        obtain ⟨rfl, rfl⟩ := Prod.mk.inj (Option.some.inj same)
        exact ⟨u ++ w, (List.append_assoc ..).symm, .cons form forms⟩

theorem readString_append {s : String} (form : StringForm s t) :
    readString (t ++ rest) = some (s, rest) := by
  cases form with
  | @mk s t chars =>
      have bound : t.length < (t ++ '"' :: rest).length + 1 := by
        rw [List.length_append]
        omega
      simp only [readString, List.cons_append, List.append_assoc, List.nil_append,
        after_singleton, readChars_append chars bound, Option.bind_eq_bind, Option.bind_some,
        String.ofList_toList, Option.pure_def]

theorem sound_readString : Sound StringForm readString := by
  intro t s rest read
  simp only [readString, Option.bind_eq_bind, Option.bind_eq_some_iff, Prod.exists,
    after_eq_some_iff, Option.pure_def, Option.some.injEq, Prod.mk.injEq] at read
  obtain ⟨t₁, rfl, cs, t₂, chars, t₃, rfl, rfl, rfl⟩ := read
  obtain ⟨u, rfl, form⟩ := sound_readChars _ chars
  exact ⟨'"' :: (u ++ ['"']), by simp, .mk (by rwa [String.toList_ofList])⟩

end Strings

/-! ## Numbers are read -/

section Numbers

variable {P : Char → Prop} {t rest : List Char}

theorem readDigits_append {ds : List Char} (digits : Digits ds)
    (stop : Begins (·.isDigit = false) rest) : readDigits (ds ++ rest) = some (ds, rest) := by
  have run : (ds ++ rest).takeWhile Char.isDigit = ds :=
    Parser.takeWhile_append digits.isDigit stop
  have left : (ds ++ rest).dropWhile Char.isDigit = rest :=
    Parser.dropWhile_append digits.isDigit stop
  simp only [readDigits, run, left, digits.ne_nil, if_false]

theorem digits_of_readDigits {ds : List Char} (read : readDigits t = some (ds, rest)) :
    t = ds ++ rest ∧ Digits ds := by
  simp only [readDigits] at read
  split at read
  · cases read
  · next some_digit =>
      obtain ⟨rfl, rfl⟩ := Prod.mk.inj (Option.some.inj read)
      exact ⟨List.takeWhile_append_dropWhile.symm, some_digit,
        fun _ => List.mem_takeWhile_imp⟩

theorem readWhole_append {ds : List Char} (whole : WholeDigits ds)
    (stop : Begins (·.isDigit = false) rest) : readWhole (ds ++ rest) = some (ds, rest) := by
  simp only [readWhole, readDigits_append whole.digits stop, Option.bind_eq_bind,
    Option.bind_some, if_pos whole.leading, Option.pure_def]

theorem wholeDigits_of_readWhole {ds : List Char} (read : readWhole t = some (ds, rest)) :
    t = ds ++ rest ∧ WholeDigits ds := by
  simp only [readWhole, Option.bind_eq_bind, Option.bind_eq_some_iff, Prod.exists] at read
  obtain ⟨ds', t₁, digits, read⟩ := read
  split at read
  · next leading =>
      obtain ⟨rfl, rfl⟩ := Prod.mk.inj (Option.some.inj read)
      obtain ⟨shape, digits⟩ := digits_of_readDigits digits
      exact ⟨shape, digits, leading⟩
  · cases read

theorem readMinus_append {negative : Bool} (form : MinusForm negative t)
    (stop : Begins (· ≠ '-') rest) : readMinus (t ++ rest) = some (negative, rest) := by
  cases form with
  | absent => rw [List.nil_append, readMinus, after_singleton_eq_none_iff.mpr stop]
  | minus => rw [List.singleton_append, readMinus, after_singleton]

theorem sound_readMinus : Sound MinusForm readMinus := by
  intro t negative rest read
  unfold readMinus at read
  split at read
  · next h =>
      obtain ⟨rfl, rfl⟩ := Prod.mk.inj (Option.some.inj read)
      exact ⟨['-'], after_eq_some_iff.mp h, .minus⟩
  · obtain ⟨rfl, rfl⟩ := Prod.mk.inj (Option.some.inj read)
    exact ⟨[], rfl, .absent⟩

theorem readSign_append {negative : Bool} (form : SignForm negative t)
    (stop : Begins (fun c => c ≠ '+' ∧ c ≠ '-') rest) :
    readSign (t ++ rest) = some (negative, rest) := by
  cases form with
  | absent =>
      rw [List.nil_append, readSign,
        after_singleton_eq_none_iff.mpr (stop.imp fun _ h => h.1)]
      exact readMinus_append .absent (stop.imp fun _ h => h.2)
  | plus => rw [List.singleton_append, readSign, after_singleton]
  | minus =>
      have notPlus : after ['+'] ('-' :: rest) = none :=
        after_singleton_eq_none_iff.mpr (begins_cons.mpr (by decide))
      rw [List.singleton_append, readSign, notPlus]
      exact readMinus_append .minus (stop.imp fun _ h => h.2)

theorem sound_readSign : Sound SignForm readSign := by
  intro t negative rest read
  unfold readSign at read
  split at read
  · next h =>
      obtain ⟨rfl, rfl⟩ := Prod.mk.inj (Option.some.inj read)
      exact ⟨['+'], after_eq_some_iff.mp h, .plus⟩
  · obtain ⟨u, shape, form⟩ := sound_readMinus read
    cases form with
    | absent => exact ⟨[], shape, .absent⟩
    | minus => exact ⟨['-'], shape, .minus⟩

theorem readFraction_append {fraction : Option (List Char)} (form : FractionForm fraction t)
    (stop : Begins (fun c => c.isDigit = false ∧ c ≠ '.') rest) :
    readFraction (t ++ rest) = some (fraction, rest) := by
  cases form with
  | absent =>
      rw [List.nil_append, readFraction,
        after_singleton_eq_none_iff.mpr (stop.imp fun _ h => h.2)]
  | point digits =>
      rw [List.cons_append, readFraction, after_singleton]
      simp only [readDigits_append digits (stop.imp fun _ h => h.1), Option.bind_eq_bind,
        Option.bind_some, Option.pure_def]

theorem sound_readFraction : Sound FractionForm readFraction := by
  intro t fraction rest read
  unfold readFraction at read
  split at read
  · obtain ⟨rfl, rfl⟩ := Prod.mk.inj (Option.some.inj read)
    exact ⟨[], rfl, .absent⟩
  · next h =>
      simp only [Option.bind_eq_bind, Option.bind_eq_some_iff, Prod.exists] at read
      obtain ⟨ds, t₁, read, same⟩ := read
      obtain ⟨rfl, rfl⟩ := Prod.mk.inj (Option.some.inj same)
      obtain ⟨rfl, digits⟩ := digits_of_readDigits read
      exact ⟨'.' :: ds, by simpa using after_eq_some_iff.mp h, .point digits⟩

/-- Digits begin with no sign. -/
theorem Digits.begins {ds : List Char} (digits : Digits ds) :
    Begins (fun c => c ≠ '+' ∧ c ≠ '-') (ds ++ rest) := by
  cases ds with
  | nil => exact absurd rfl digits.ne_nil
  | cons c ds =>
      have isDigit := digits.isDigit c (List.mem_cons_self ..)
      refine begins_cons.mpr ⟨?_, ?_⟩ <;> rintro rfl <;> cases isDigit

theorem readExponent_append {exponent : Option Int} (form : ExponentForm exponent t)
    (stop : Begins (fun c => c.isDigit = false ∧ c ≠ 'e' ∧ c ≠ 'E') rest) :
    readExponent (t ++ rest) = some (exponent, rest) := by
  cases form with
  | absent =>
      have small : after ['e'] rest = none :=
        after_singleton_eq_none_iff.mpr (stop.imp fun _ h => h.2.1)
      have large : after ['E'] rest = none :=
        after_singleton_eq_none_iff.mpr (stop.imp fun _ h => h.2.2)
      simp only [List.nil_append, readExponent, small, large, Option.or_none]
  | @letter x negative sign ds isLetter signForm digits =>
      have opened : (after ['e'] (x :: (sign ++ ds ++ rest))).or
          (after ['E'] (x :: (sign ++ ds ++ rest))) = some (sign ++ ds ++ rest) := by
        rcases isLetter with rfl | rfl
        · rw [after_singleton, Option.some_or]
        · rw [after_singleton_eq_none_iff.mpr (begins_cons.mpr (by decide)), Option.none_or,
            after_singleton]
      rw [List.cons_append, readExponent, opened, List.append_assoc]
      simp only [readSign_append signForm digits.begins,
        readDigits_append digits (stop.imp fun _ h => h.1), Option.bind_eq_bind,
        Option.bind_some, Option.pure_def]

theorem sound_readExponent : Sound ExponentForm readExponent := by
  intro t exponent rest read
  unfold readExponent at read
  split at read
  · obtain ⟨rfl, rfl⟩ := Prod.mk.inj (Option.some.inj read)
    exact ⟨[], rfl, .absent⟩
  · next t₁ opened =>
      have shape : ∃ x, (x = 'e' ∨ x = 'E') ∧ t = x :: t₁ := by
        rcases Option.or_eq_some_iff.mp opened with small | ⟨-, large⟩
        · exact ⟨'e', .inl rfl, after_eq_some_iff.mp small⟩
        · exact ⟨'E', .inr rfl, after_eq_some_iff.mp large⟩
      obtain ⟨x, isLetter, rfl⟩ := shape
      simp only [Option.bind_eq_bind, Option.bind_eq_some_iff, Prod.exists] at read
      obtain ⟨negative, t₂, readSign, ds, t₃, readDigits, same⟩ := read
      obtain ⟨rfl, rfl⟩ := Prod.mk.inj (Option.some.inj same)
      obtain ⟨u, rfl, sign⟩ := sound_readSign readSign
      obtain ⟨rfl, digits⟩ := digits_of_readDigits readDigits
      exact ⟨x :: (u ++ ds), by simp, .letter isLetter sign digits⟩

theorem ExponentForm.begins {exponent : Option Int} (form : ExponentForm exponent t)
    (small : P 'e') (large : P 'E') (others : Begins P rest) : Begins P (t ++ rest) := by
  cases form with
  | absent => exact others
  | letter isLetter signForm digits =>
      rcases isLetter with rfl | rfl
      exacts [begins_cons.mpr small, begins_cons.mpr large]

theorem FractionForm.begins {fraction : Option (List Char)} (form : FractionForm fraction t)
    (point : P '.') (others : Begins P rest) : Begins P (t ++ rest) := by
  cases form with
  | absent => exact others
  | point digits => exact begins_cons.mpr point

theorem readNumber_append {v : Json} (form : NumberForm v t) (stop : Begins IsEnd rest) :
    readNumber (t ++ rest) = some (v, rest) := by
  cases form with
  | @mk negative fraction exponent minus ds behind ending sign digits point letter =>
      have atEnding : Begins (fun c => c.isDigit = false ∧ c ≠ '.') (ending ++ rest) :=
        letter.begins (by decide) (by decide)
          (stop.imp fun _ h => ⟨h.not_number.1, h.not_number.2.1⟩)
      have atPoint : Begins (·.isDigit = false) (behind ++ (ending ++ rest)) :=
        point.begins (by decide) (atEnding.imp fun _ h => h.1)
      have atRest : Begins (fun c => c.isDigit = false ∧ c ≠ 'e' ∧ c ≠ 'E') rest :=
        stop.imp fun _ h => ⟨h.not_number.1, h.not_number.2.2⟩
      simp only [readNumber, List.append_assoc,
        readMinus_append sign (digits.digits.begins.imp fun _ h => h.2),
        readWhole_append digits atPoint, readFraction_append point atEnding,
        readExponent_append letter atRest, Option.bind_eq_bind, Option.bind_some,
        Option.pure_def]

theorem sound_readNumber : Sound NumberForm readNumber := by
  intro t v rest read
  simp only [readNumber, Option.bind_eq_bind, Option.bind_eq_some_iff, Prod.exists] at read
  obtain ⟨negative, t₁, h₁, ds, t₂, h₂, fraction, t₃, h₃, exponent, t₄, h₄, same⟩ := read
  obtain ⟨rfl, rfl⟩ := Prod.mk.inj (Option.some.inj same)
  obtain ⟨minus, rfl, sign⟩ := sound_readMinus h₁
  obtain ⟨rfl, digits⟩ := wholeDigits_of_readWhole h₂
  obtain ⟨behind, rfl, point⟩ := sound_readFraction h₃
  obtain ⟨ending, rfl, letter⟩ := sound_readExponent h₄
  exact ⟨minus ++ (ds ++ (behind ++ ending)), by simp only [List.append_assoc],
    .mk sign digits point letter⟩

end Numbers

end Json

end Descent
