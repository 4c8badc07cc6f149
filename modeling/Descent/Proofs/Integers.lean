import Mathlib.Data.Nat.Digits.Defs
import Descent.Proofs.Scanning

/-!
# Integers

An integer is read from a minus sign or none and the whole run of digits behind it
(`SignedDigits`).  The digits count by their places in base ten, as `Nat.ofDigits` says, and a
digit counts for its place in the list of digits.  So zeros in front do not count, and digits of
other scripts are no digits.

This decides all runs of `number` (`run_number`).  Either there are no such digits ahead, and
nothing is read; or they are too many, and that is a fault; or their value is the result.  The
decimal form of an integer is one of the forms that are read, so it is read back, if what comes
behind it does not go on with a digit.
-/

namespace Descent

namespace Text

/-! ## Digits -/

/-- The value of a digit is its place among the digits. -/
def digitValue (c : Char) : Nat := digits.idxOf c

/-- The number that digits denote in base ten. -/
def denoted (cs : List Char) : Nat := Nat.ofDigits 10 (cs.map digitValue).reverse

theorem mem_digits_iff {c : Char} : c ∈ digits ↔ c.isDigit = true := by
  constructor
  · intro digit
    simp only [digits, List.mem_cons, List.not_mem_nil, or_false] at digit
    rcases digit with rfl | rfl | rfl | rfl | rfl | rfl | rfl | rfl | rfl | rfl <;> rfl
  · intro digit
    obtain ⟨least, most⟩ := Char.isDigit_iff_toNat.mp digit
    have all : ∀ n < 58, 48 ≤ n → Char.ofNat n ∈ digits := by decide
    rw [← Char.ofNat_toNat c]
    exact all c.toNat (Nat.lt_succ_of_le most) least

theorem not_mem_digits_iff {c : Char} : c ∉ digits ↔ c.isDigit = false := by
  rw [mem_digits_iff, Bool.not_eq_true]

/-- The digits stand in the order of their code points. -/
theorem digitValue_eq {c : Char} (digit : c ∈ digits) :
    digitValue c = c.toNat - '0'.toNat := by
  simp only [digits, List.mem_cons, List.not_mem_nil, or_false] at digit
  rcases digit with rfl | rfl | rfl | rfl | rfl | rfl | rfl | rfl | rfl | rfl <;> rfl

/-- Going through the digits from the left gives the number that they denote. -/
theorem ofDigitChars_eq_denoted {cs : List Char} (digit : ∀ c ∈ cs, c ∈ digits) :
    Nat.ofDigitChars 10 cs 0 = denoted cs := by
  induction cs with
  | nil => rfl
  | cons c cs ih =>
      have others := ih fun d hd => digit d (.tail _ hd)
      rw [Nat.ofDigitChars_cons, Nat.ofDigitChars_eq_ofDigitChars_zero, others, Nat.mul_zero,
        Nat.zero_add, ← digitValue_eq (digit c (.head _)), denoted, denoted, List.map_cons,
        Nat.ofDigits_reverse_cons, List.length_map, Nat.add_comm]

end Text

/-! ## Forms of an integer -/

/-- A sign and the digits behind it, with the text that comes behind them. -/
structure SignedDigits (sign digits rest : List Char) : Prop where
  /-- There may be a minus sign. -/
  sign : sign = [] ∨ sign = ['-']
  /-- There is a digit. -/
  ne_nil : digits ≠ []
  /-- The digits are digits. -/
  digit : ∀ c ∈ digits, c ∈ Text.digits
  /-- They are the whole run. -/
  stop : ∀ c ∈ rest.head?, c ∉ Text.digits

namespace SignedDigits

variable {sign digits rest : List Char}

/-- The integer that a sign and digits denote. -/
def value (sign digits : List Char) : Int :=
  if sign = ['-'] then -(Text.denoted digits : Int) else Text.denoted digits

theorem stop_isDigit (h : SignedDigits sign digits rest) :
    ∀ c ∈ rest.head?, c.isDigit = false :=
  fun c hc => Text.not_mem_digits_iff.mp (h.stop c hc)

/-- Digits that are not too many are a form of the integer that they denote. -/
theorem numeral (h : SignedDigits sign digits rest) (few : digits.length ≤ Fault.maxDigits) :
    Numeral (value sign digits) (sign ++ digits) := by
  have form : Digits digits :=
    ⟨h.ne_nil, fun c hc => Text.mem_digits_iff.mp (h.digit c hc), few⟩
  obtain rfl | rfl := h.sign
  · have plain := Numeral.plain form
    rwa [Text.ofDigitChars_eq_denoted h.digit] at plain
  · have negative := Numeral.negative form
    rwa [Text.ofDigitChars_eq_denoted h.digit] at negative

theorem tooManyDigits (h : SignedDigits sign digits rest)
    (many : Fault.maxDigits < digits.length) : Parser.TooManyDigits sign digits rest :=
  ⟨h.sign, fun c hc => Text.mem_digits_iff.mp (h.digit c hc), many, h.stop_isDigit⟩

end SignedDigits

/-- Without digits there is no number. -/
theorem Parser.number_of_missing {s : State}
    (missing : ∀ sign digits rest, s.cursor.rest = sign ++ (digits ++ rest) →
      ¬ SignedDigits sign digits rest) : number s = .stop (.failure .number) s := by
  obtain ⟨sign, form, length, split⟩ := exists_sign s.cursor.rest
  have none : (s.cursor.rest.drop sign.length).takeWhile Char.isDigit = [] := by
    by_contra some
    have run := (s.cursor.rest.drop sign.length).takeWhile_append_dropWhile (p := Char.isDigit)
    refine missing sign _ _ (split.trans (congrArg (sign ++ ·) run.symm)) ⟨form, some, ?_, ?_⟩
    · exact fun c hc => Text.mem_digits_iff.mpr (List.mem_takeWhile_imp hc)
    · exact fun c hc => Text.not_mem_digits_iff.mpr (mem_head?_dropWhile c hc)
  simp only [number_eq, numberReading, ← length, none, List.isEmpty_nil, if_true]
  rw [Reading.run_stop]
  rfl

namespace Grammar

variable {ι : Type} {τ : ι → Type}

/-- A form of an integer is read up to its end. -/
theorem run_number_of_numeral (rules : (i : ι) → Grammar τ (τ i)) {s : State} {n : Int}
    {text rest : List Char} (written : Numeral n text) (ahead : s.cursor.rest = text ++ rest)
    (stop : ∀ c ∈ rest.head?, c.isDigit = false) :
    (number.run rules s).EndsAs (.ok n) (s.moveTo (s.cursor.advance text.length)) ∧
      (number.run rules s).state.cursor.rest = rest := by
  have ends : (number.run rules s).EndsAs (.ok n) (s.moveTo (s.cursor.advance text.length)) :=
    endsAs_run_iff.mpr (Run.endsAs_of_eq_ok (Parser.number_of_numeral written ahead stop))
  refine ⟨ends, ?_⟩
  rw [ends.2, State.cursor_moveTo, Cursor.rest_advance, ahead, List.drop_left]

/-- Where a sign and digits are ahead, the number is the integer that they denote, with all of
them read, or it stops as they are too many.  Elsewhere it fails with nothing read.  So the
decimal form of an integer is read back. -/
theorem run_number (rules : (i : ι) → Grammar τ (τ i)) (s : State) :
    (∀ sign digits rest, s.cursor.rest = sign ++ (digits ++ rest) →
        SignedDigits sign digits rest →
        if digits.length ≤ Fault.maxDigits then
          (number.run rules s).EndsAs (.ok (SignedDigits.value sign digits))
              (s.moveTo (s.cursor.advance (sign.length + digits.length))) ∧
            (number.run rules s).state.cursor.rest = rest
        else (number.run rules s).outcome = .error (.fault (.tooManyDigits digits.length))) ∧
      ((∀ sign digits rest, s.cursor.rest = sign ++ (digits ++ rest) →
          ¬ SignedDigits sign digits rest) →
        (number.run rules s).EndsAs (.error (.failure .number)) s) ∧
      ∀ (n : Int) (rest : List Char),
        (Nat.toDigits 10 n.natAbs).length ≤ Fault.maxDigits →
        (∀ c ∈ rest.head?, c ∉ Text.digits) → s.cursor.rest = (toString n).toList ++ rest →
          (number.run rules s).EndsAs (.ok n) (s.moveTo (s.cursor.advance (toString n).length)) ∧
            (number.run rules s).state.cursor.rest = rest := by
  have parser : (number : Grammar τ Int).parser rules s = Parser.number s := rfl
  refine ⟨fun sign digits rest ahead h => ?_, fun missing => ?_, fun n rest few stop ahead => ?_⟩
  · split
    next few =>
      have ends := run_number_of_numeral rules (h.numeral few)
        (ahead.trans (List.append_assoc ..).symm) h.stop_isDigit
      rwa [List.length_append] at ends
    next notFew =>
      have many := h.tooManyDigits (Nat.lt_of_not_le notFew)
      rw [outcome_run, parser, Parser.number_of_tooManyDigits many ahead]
      rfl
  · exact endsAs_run_iff.mpr (Run.endsAs_of_eq_stop (Parser.number_of_missing missing))
  · exact run_number_of_numeral rules (numeral_repr n few) ahead fun c hc =>
      Text.not_mem_digits_iff.mp (stop c hc)

/-- One character is read of `x-0420px`. -/
def beforeNumber : State := ⟨.ofChars "x-0420px".toList 1, ⟨3, 0⟩⟩

/-- The zero in front does not count, and the letters behind the digits stay unread. -/
theorem run_number_negative :
    SignedDigits ['-'] "0420".toList "px".toList ∧
      beforeNumber.cursor.rest = ['-'] ++ ("0420".toList ++ "px".toList) ∧
      ((number : Grammar (fun _ : Empty => Unit) Int).run nofun beforeNumber).EndsAs
        (.ok (-420)) ⟨.ofChars "x-0420px".toList 6, ⟨3, 0⟩⟩ := by
  have form : SignedDigits ['-'] "0420".toList "px".toList :=
    ⟨.inr rfl, by decide, by simp [Text.digits], by simp [Text.digits]⟩
  have ends := (run_number (τ := fun _ : Empty => Unit) nofun beforeNumber).1 _ _ _ rfl form
  rw [if_pos (by decide)] at ends
  exact ⟨form, rfl, ends.1⟩

end Grammar

end Descent
