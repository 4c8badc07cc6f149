import Mathlib.Data.List.TakeWhile
import Descent.Proofs.Json.Grammar

/-!
# Readers of JSON texts

A reader for whole texts (`decode`), put together from readers of the parts, and what it means
that a reader agrees with a form of the grammar.  A reader is sound for a form if it reads nothing
else (`Sound`).

A part is read without its end being known, and what follows it decides where it ends.  So a
reader is complete for a form only before certain characters (`Complete`): a number ends before
a blank, a comma, a colon or a closing bracket, and a value with blanks around it before the same
without the blanks.  Nested parts are read with a bound, which the length of the text is.
-/

namespace Descent

namespace Json

variable {α : Type}

/-! ## Readers -/

/-- From a text, what is read of it and what is left of it, unless it is refused. -/
abbrev Reader (α : Type) := List Char → Option (α × List Char)

/-- A text that is read is a written form and what is left. -/
def Sound (R : Form α) (p : Reader α) : Prop :=
  ∀ ⦃t : List Char⦄ ⦃v : α⦄ ⦃rest : List Char⦄, p t = some (v, rest) → ∃ u, t = u ++ rest ∧ R v u

/-- What the text begins with, if it is not empty, has the property. -/
def Begins (P : Char → Prop) (t : List Char) : Prop := ∀ c ∈ t.head?, P c

/-- A written form of fewer than `n` characters is read, whatever follows it that begins so. -/
def Complete (n : Nat) (P : Char → Prop) (R : Form α) (p : Reader α) : Prop :=
  ∀ ⦃v : α⦄ ⦃t rest : List Char⦄, R v t → t.length < n → Begins P rest →
    p (t ++ rest) = some (v, rest)

/-- The characters that may stand behind a value and are not blank. -/
def IsDelimiter (c : Char) : Prop := c = ',' ∨ c = ':' ∨ c = ']' ∨ c = '\x7d'

/-- The characters that may stand behind a value. -/
def IsEnd (c : Char) : Prop := isBlank c = true ∨ IsDelimiter c

instance (c : Char) : Decidable (IsDelimiter c) := inferInstanceAs (Decidable (_ ∨ _))

instance (c : Char) : Decidable (IsEnd c) := inferInstanceAs (Decidable (_ ∨ _))

/-- What is left behind a given beginning. -/
def after (word t : List Char) : Option (List Char) :=
  if word <+: t then some (t.drop word.length) else none

/-- The text without the blanks that it begins with. -/
def skip (t : List Char) : List Char := t.dropWhile isBlank

/-! ## Readers of strings -/

/-- Reads a code behind a backslash. -/
def readCode : Reader Nat
  | '\\' :: 'u' :: a :: b :: c :: d :: t => (hexValue? [a, b, c, d]).map (·, t)
  | _ => none

/-- Reads a character that is written by codes. -/
def readCoded : Reader Char := fun t => do
  let (n, t) ← readCode t
  if n.isValidChar then return (Char.ofNat n, t)
  let (m, t) ← readCode t
  if IsHigh n ∧ IsLow m then return (Char.ofNat (pairValue n m), t)
  none

/-- Reads a character of a string. -/
def readChar : Reader Char
  | '\\' :: 'u' :: t => readCoded ('\\' :: 'u' :: t)
  | '\\' :: x :: t => (shortEscape? x).map (·, t)
  | c :: t => if 0x20 ≤ c.toNat ∧ c ≠ '"' ∧ c ≠ '\\' then some (c, t) else none
  | [] => none

/-- Reads the characters of a string and leaves the quote behind them. -/
def readChars : Nat → Reader (List Char)
  | 0, _ => none
  | n + 1, t =>
      if t.head? = some '"' then some ([], t)
      else do
        let (c, t) ← readChar t
        let (cs, t) ← readChars n t
        return (c :: cs, t)

/-- Reads a string. -/
def readString : Reader String := fun t => do
  let t ← after ['"'] t
  let (cs, t) ← readChars (t.length + 1) t
  let t ← after ['"'] t
  return (String.ofList cs, t)

/-! ## Readers of numbers -/

/-- Reads digits, at least one. -/
def readDigits : Reader (List Char) := fun t =>
  let ds := t.takeWhile Char.isDigit
  if ds = [] then none else some (ds, t.dropWhile Char.isDigit)

/-- Reads the digits of a whole number. -/
def readWhole : Reader (List Char) := fun t => do
  let (ds, t) ← readDigits t
  if ds.head? = some '0' → ds = ['0'] then return (ds, t)
  none

/-- Reads a minus sign, if there is one. -/
def readMinus : Reader Bool := fun t =>
  match after ['-'] t with
  | some t => some (true, t)
  | none => some (false, t)

/-- Reads a sign, if there is one. -/
def readSign : Reader Bool := fun t =>
  match after ['+'] t with
  | some t => some (false, t)
  | none => readMinus t

/-- Reads a point and the digits behind it, if there is one. -/
def readFraction : Reader (Option (List Char)) := fun t =>
  match after ['.'] t with
  | none => some (none, t)
  | some t => do
      let (ds, t) ← readDigits t
      return (some ds, t)

/-- Reads an exponent, if there is one. -/
def readExponent : Reader (Option Int) := fun t =>
  match (after ['e'] t).or (after ['E'] t) with
  | none => some (none, t)
  | some t => do
      let (negative, t) ← readSign t
      let (ds, t) ← readDigits t
      return (some (signed negative (Nat.ofDigitChars 10 ds 0)), t)

/-- Reads a number. -/
def readNumber : Reader Json := fun t => do
  let (negative, t) ← readMinus t
  let (ds, t) ← readWhole t
  let (fraction, t) ← readFraction t
  let (exponent, t) ← readExponent t
  return (numberValue negative ds fraction exponent, t)

/-! ## Readers of values -/

/-- Reads with blanks around. -/
def readPadded (p : Reader α) : Reader α := fun t => do
  let (v, t) ← p (skip t)
  return (v, skip t)

/-- Reads again behind every comma. -/
def readListed (p : Reader α) : Nat → Reader (List α)
  | 0, _ => none
  | n + 1, t => do
      let (v, t) ← p t
      match after [','] t with
      | none => return ([v], t)
      | some t =>
          let (vs, t) ← readListed p n t
          return (v :: vs, t)

/-- Reads any number of times between brackets. -/
def readEnclosed (opening closing : Char) (p : Reader α) (n : Nat) : Reader (List α) := fun t => do
  let t ← after [opening] t
  match after [closing] (skip t) with
  | some t => return ([], t)
  | none =>
      let (vs, t) ← readListed p n t
      let t ← after [closing] t
      return (vs, t)

/-- Reads a name and a value. -/
def readMember (p : Reader Json) : Reader (String × Json) := fun t => do
  let (name, t) ← readPadded readString t
  let t ← after [':'] t
  let (v, t) ← readPadded p t
  return ((name, v), t)

/-- Reads a value that is nested less than `n` levels deep. -/
def readValue : Nat → Reader Json
  | 0, _ => none
  | n + 1, t =>
      match t.head? with
      | some 'n' => (after ['n', 'u', 'l', 'l'] t).map (null, ·)
      | some 't' => (after ['t', 'r', 'u', 'e'] t).map (bool true, ·)
      | some 'f' => (after ['f', 'a', 'l', 's', 'e'] t).map (bool false, ·)
      | some '"' => (readString t).map fun (s, t) => (string s, t)
      | some '[' =>
          (readEnclosed '[' ']' (readPadded (readValue n)) n t).map fun (vs, t) => (array vs, t)
      | some '\x7b' =>
          (readEnclosed '\x7b' '\x7d' (readMember (readValue n)) n t).map
            fun (ms, t) => (object ms, t)
      | _ => readNumber t

/-- The value that a text is the text of. -/
def decode (t : List Char) : Option Json :=
  match readPadded (readValue (t.length + 1)) t with
  | some (v, []) => some v
  | _ => none

/-! ## Beginnings -/

section Beginnings

variable {P Q : Char → Prop} {c : Char} {t u rest : List Char}

theorem after_eq_some_iff {word : List Char} : after word t = some u ↔ t = word ++ u := by
  simp only [after]
  constructor
  · intro read
    split at read
    · next h => exact Option.some.inj read ▸ (List.prefix_iff_eq_append.mp h).symm
    · cases read
  · rintro rfl
    rw [if_pos (List.prefix_append word u), List.drop_left]

theorem after_append (word t : List Char) : after word (word ++ t) = some t :=
  after_eq_some_iff.mpr rfl

theorem after_singleton (c : Char) (t : List Char) : after [c] (c :: t) = some t :=
  after_append [c] t

theorem after_singleton_eq_none_iff : after [c] t = none ↔ Begins (· ≠ c) t := by
  cases t with
  | nil => simp [after, Begins]
  | cons x t => simp [after, Begins, eq_comm]

theorem begins_cons : Begins P (c :: t) ↔ P c := by simp [Begins]

theorem Begins.imp (h : Begins P t) (weaker : ∀ c, P c → Q c) : Begins Q t :=
  fun c head => weaker c (h c head)

theorem skip_append (blanks : Blanks t) : skip (t ++ u) = skip u :=
  List.dropWhile_append_of_pos blanks

theorem skip_eq_self (h : Begins (isBlank · = false) t) : skip t = t := by
  cases t with
  | nil => rfl
  | cons c t => exact List.dropWhile_cons_of_neg (by simp [h c rfl])

theorem exists_blanks (t : List Char) : ∃ b, t = b ++ skip t ∧ Blanks b :=
  ⟨t.takeWhile isBlank, List.takeWhile_append_dropWhile.symm,
    fun _ => List.mem_takeWhile_imp⟩

/-- A value ends before anything that belongs to no number. -/
theorem IsEnd.not_number (h : IsEnd c) :
    c.isDigit = false ∧ c ≠ '.' ∧ c ≠ 'e' ∧ c ≠ 'E' := by
  simp only [IsEnd, IsDelimiter, isBlank, Bool.or_eq_true, beq_iff_eq, or_assoc] at h
  rcases h with rfl | rfl | rfl | rfl | rfl | rfl | rfl | rfl <;> decide

end Beginnings

end Json

end Descent
