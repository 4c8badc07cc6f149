import Mathlib.Algebra.Group.Nat.Defs
import Descent.Error.Constructed
import Descent.Proofs.Json.Grammar

/-!
# Constructor forms tell failures apart

Failures have the same constructor form exactly if they are the same, however deep they are and
whatever is written in their texts (`ParseError.constructed_inj`).

A form stands inside others, with text behind it.  So it is not enough that different failures
have different forms: of a text that begins with a form it has to be seen where the form ends
(`Text.Delimited`).

* A quoted literal ends with the first quote that is not written behind a backslash.  What stands
  before is read back one character after the other (`Text.readChar_quoteChar`).  So a text may
  hold quotes, commas and what looks like another form.
* A tuple shows behind each literal whether another one follows.
* A number, and the name of a constructor, end before a character that is in none of them.
* A failure is written as the name of its constructor, which tells what the arguments are, and its
  arguments.  With the failures among these, this is an induction.
-/

namespace Descent

/-! ## Forms that end visibly -/

namespace Text

variable {α : Type} {s t : List Char}

/-- What a form belongs to, and what stands behind it, are known from the text that begins with
the form. -/
def Delimited (form : α → List Char) : Prop :=
  ∀ ⦃a b : α⦄ ⦃s t : List Char⦄, form a ++ s = form b ++ t → a = b ∧ s = t

/-- A text ends before the first character that is not in it. -/
theorem append_cons_inj {a b : List Char} {x : Char} (ha : x ∉ a) (hb : x ∉ b)
    (h : a ++ x :: s = b ++ x :: t) : a = b ∧ s = t := by
  have front {run : List Char} (hrun : x ∉ run) (rest : List Char) :
      (run ++ x :: rest).takeWhile (· != x) = run := by
    rw [List.takeWhile_append_of_pos, List.takeWhile_cons_of_neg (by simp), List.append_nil]
    rintro y mem
    exact bne_iff_ne.mpr fun same => hrun (same ▸ mem)
  have same : a = b := by rw [← front ha s, h, front hb t]
  subst same
  exact ⟨rfl, (List.cons.inj (List.append_cancel_left h)).2⟩

/-! ## Reading an escaped character -/

/-- Hexadecimal digits are read as the number that they are the last digits of. -/
theorem hexValue?_hexDigits (width n : Nat) :
    Json.hexValue? (hexDigits width n) = some (n % 16 ^ width) := by
  have digit : ∀ k < 16, Json.hexDigit? k.digitChar = some k := by decide +kernel
  induction width generalizing n with
  | zero =>
      rw [Nat.pow_zero, Nat.mod_one]
      rfl
  | succ width ih =>
      have front := ih (n / 16)
      have last := digit (n % 16) (Nat.mod_lt n (by decide))
      rw [Json.hexValue?] at front ⊢
      rw [hexDigits, List.foldlM_append, front, Nat.pow_succ, Nat.mul_comm, Nat.mod_mul,
        Nat.add_comm]
      simp [last]

/-- Reads the code of a character, of so many digits. -/
def readCode (width : Nat) (text : List Char) : Option (Char × List Char) :=
  (Json.hexValue? (text.take width)).map fun n => (Char.ofNat n, text.drop width)

/-- Reads what stands behind a backslash. -/
def readEscape : List Char → Option (Char × List Char)
  | 't' :: rest => some ('\t', rest)
  | 'n' :: rest => some ('\n', rest)
  | 'r' :: rest => some ('\r', rest)
  | 'x' :: rest => readCode 2 rest
  | 'u' :: rest => readCode 4 rest
  | 'U' :: rest => readCode 8 rest
  | x :: rest => some (x, rest)
  | [] => none

/-- Reads a character of a quoted literal. -/
def readChar : List Char → Option (Char × List Char)
  | x :: rest => if x = '\\' then readEscape rest else some (x, rest)
  | [] => none

theorem readCode_hexDigits {width : Nat} {x : Char} (short : x.toNat < 16 ^ width)
    (rest : List Char) : readCode width (hexDigits width x.toNat ++ rest) = some (x, rest) := by
  have length := length_hexDigits width x.toNat
  rw [readCode, List.take_left' length, List.drop_left' length, hexValue?_hexDigits,
    Nat.mod_eq_of_lt short, Option.map_some, Char.ofNat_toNat]

theorem readChar_escapeCode (x : Char) (rest : List Char) :
    readChar (escapeCode x ++ rest) = some (x, rest) := by
  unfold escapeCode
  split
  next short => exact readCode_hexDigits short rest
  next =>
    split
    next short => exact readCode_hexDigits short rest
    next => exact readCode_hexDigits x.val.toNat_lt_size rest

/-- The marks that a text may be written between. -/
def IsQuote (quote : Char) : Prop := quote = '\'' ∨ quote = '"'

theorem isQuote_quoteFor (text : List Char) : IsQuote (quoteFor text) := by
  unfold quoteFor
  split
  · exact .inr rfl
  · exact .inl rfl

/-- Every character of a literal is read back, whatever stands behind it. -/
theorem readChar_quoteChar {quote : Char} (hquote : IsQuote quote) (x : Char) (rest : List Char) :
    readChar (quoteChar quote x ++ rest) = some (x, rest) := by
  unfold quoteChar
  split
  next own =>
    obtain rfl | rfl := own
    · obtain rfl | rfl := hquote <;> rfl
    · rfl
  next other =>
    -- Tab, line feed and carriage return have a letter of their own.
    iterate 3
      split
      next named => rw [named]; rfl
    split
    next => exact if_neg fun same => other (.inr same)
    next => exact readChar_escapeCode x rest

/-! ## Literals -/

/-- No character of a literal is written like the quote at its end. -/
theorem quoteChar_append_ne {quote : Char} (hquote : IsQuote quote) (x : Char)
    (rest behind : List Char) : quoteChar quote x ++ rest ≠ quote :: behind := by
  intro h
  have back := readChar_quoteChar hquote x rest
  have notEscape : quote ≠ '\\' := by obtain rfl | rfl := hquote <;> decide
  rw [h, readChar, if_neg notEscape] at back
  obtain ⟨rfl, rfl⟩ := Prod.mk.inj (Option.some.inj back)
  rw [quoteChar, if_pos (.inl rfl)] at h
  exact notEscape (List.cons.inj h).1.symm

/-- A literal ends with the first quote that is not escaped. -/
theorem flatMap_quoteChar_inj {quote : Char} (hquote : IsQuote quote) {a b : List Char}
    (h : a.flatMap (quoteChar quote) ++ quote :: s = b.flatMap (quoteChar quote) ++ quote :: t) :
    a = b ∧ s = t := by
  induction a generalizing b with
  | nil =>
      cases b with
      | nil => exact ⟨rfl, (List.cons.inj h).2⟩
      | cons y b =>
          rw [List.flatMap_cons, List.append_assoc] at h
          exact absurd h.symm (quoteChar_append_ne hquote y _ _)
  | cons x a ih =>
      rw [List.flatMap_cons, List.append_assoc] at h
      cases b with
      | nil => exact absurd h (quoteChar_append_ne hquote x _ _)
      | cons y b =>
          rw [List.flatMap_cons, List.append_assoc] at h
          have first := readChar_quoteChar hquote x (a.flatMap (quoteChar quote) ++ quote :: s)
          rw [h, readChar_quoteChar hquote y] at first
          obtain ⟨rfl, others⟩ := Prod.mk.inj (Option.some.inj first)
          obtain ⟨rfl, behind⟩ := ih others.symm
          exact ⟨rfl, behind⟩

theorem delimited_quoted : Delimited fun text : String => (quoted text).toList := by
  intro a b s t h
  simp only [quoted, quoteChars, String.toList_ofList, List.append_assoc, List.cons_append,
    List.nil_append] at h
  obtain ⟨quote, inside⟩ := List.cons.inj h
  rw [quote] at inside
  obtain ⟨same, behind⟩ := flatMap_quoteChar_inj (isQuote_quoteFor _) inside
  exact ⟨String.toList_inj.mp same, behind⟩

/-! ## Tuples and numbers -/

/-- What is written behind a literal of a tuple: the literals that follow, each behind a comma,
and the end of the tuple. -/
def followers : List String → List Char
  | [] => [')']
  | text :: texts => ", ".toList ++ ((quoted text).toList ++ followers texts)

theorem toList_intercalate_append (text : String) (texts : List String) :
    (", ".intercalate ((text :: texts).map quoted) ++ ")").toList =
      (quoted text).toList ++ followers texts := by
  rw [String.toList_append, String.toList_intercalate]
  induction texts generalizing text with
  | nil =>
      rw [List.map_singleton, List.map_singleton, List.intercalate_singleton]
      rfl
  | cons second texts ih =>
      rw [List.map_cons, List.map_cons, List.map_cons, List.map_cons, List.intercalate_cons_cons,
        List.append_assoc, List.append_assoc, followers, ← ih second]
      rfl

/-- What is written behind the first literal of a tuple.  A tuple of one keeps its comma. -/
def afterFirst : List String → List Char
  | [] => [',', ')']
  | text :: texts => followers (text :: texts)

theorem toList_quotedTuple_cons (text : String) (texts : List String) :
    (quotedTuple (text :: texts)).toList = '(' :: ((quoted text).toList ++ afterFirst texts) := by
  have opening : "(".toList = ['('] := by decide +kernel
  cases texts with
  | nil =>
      have closing : ",)".toList = [',', ')'] := by decide +kernel
      rw [quotedTuple, String.toList_append, String.toList_append, opening, closing, afterFirst,
        List.append_assoc, List.singleton_append]
  | cons second texts =>
      have form : quotedTuple (text :: second :: texts) =
          "(" ++ ", ".intercalate ((text :: second :: texts).map quoted) ++ ")" := rfl
      rw [form, String.append_assoc, String.toList_append, toList_intercalate_append, opening,
        afterFirst, List.singleton_append]

/-- A comma shows that another literal follows. -/
theorem delimited_followers : Delimited followers := by
  intro a b s t h
  induction a generalizing b with
  | nil =>
      cases b with
      | nil => exact ⟨rfl, (List.cons.inj h).2⟩
      | cons text b => exact absurd (List.cons.inj h).1 (by decide)
  | cons text a ih =>
      cases b with
      | nil => exact absurd (List.cons.inj h).1 (by decide)
      | cons text' b =>
          rw [followers, followers, List.append_assoc, List.append_assoc, List.append_assoc,
            List.append_assoc] at h
          obtain ⟨rfl, rest⟩ := delimited_quoted (List.append_cancel_left h)
          obtain ⟨rfl, behind⟩ := ih rest
          exact ⟨rfl, behind⟩

/-- A literal is not taken for the end of a tuple. -/
theorem quoted_append_ne (text : String) (rest behind : List Char) :
    (quoted text).toList ++ rest ≠ ')' :: behind := by
  rw [quoted, quoteChars, String.toList_ofList]
  intro h
  have quote := (List.cons.inj h).1
  obtain same | same := isQuote_quoteFor text.toList <;> rw [same] at quote <;> cases quote

/-- A tuple of one is told by what stands behind its comma. -/
theorem delimited_afterFirst : Delimited afterFirst := by
  intro a b s t h
  cases a with
  | nil =>
      cases b with
      | nil => exact ⟨rfl, List.append_cancel_left h⟩
      | cons text b => exact absurd (List.cons.inj (List.cons.inj h).2).1 (by decide)
  | cons text a =>
      cases b with
      | nil => exact absurd (List.cons.inj (List.cons.inj h).2).1 (by decide)
      | cons text' b => exact delimited_followers h

theorem delimited_quotedTuple :
    Delimited fun texts : List String => (quotedTuple texts).toList := by
  intro a b s t h
  cases a with
  | nil =>
      cases b with
      | nil => exact ⟨rfl, List.append_cancel_left h⟩
      | cons text b =>
          simp only [toList_quotedTuple_cons, List.cons_append, List.append_assoc] at h
          exact absurd (List.cons.inj h).2.symm (quoted_append_ne text _ _)
  | cons text a =>
      simp only [toList_quotedTuple_cons, List.cons_append, List.append_assoc] at h
      cases b with
      | nil => exact absurd (List.cons.inj h).2 (quoted_append_ne text _ _)
      | cons text' b =>
          simp only [toList_quotedTuple_cons, List.cons_append, List.append_assoc] at h
          obtain ⟨rfl, rest⟩ := delimited_quoted (List.cons.inj h).2
          obtain ⟨rfl, behind⟩ := delimited_afterFirst rest
          exact ⟨rfl, behind⟩

/-- A number ends before the parenthesis behind it. -/
theorem number_inj {m n : Nat}
    (h : (toString m).toList ++ (")".toList ++ s) = (toString n).toList ++ (")".toList ++ t)) :
    m = n ∧ s = t := by
  have digits (n : Nat) : ')' ∉ Nat.toDigits 10 n := fun mem =>
    absurd (Nat.isDigit_of_mem_toDigits (by decide) (by decide) mem) (by decide)
  simp only [Nat.toString_eq_ofList_toDigits, String.toList_ofList] at h
  obtain ⟨same, behind⟩ := append_cons_inj (digits m) (digits n) h
  have value := congrArg (Nat.ofDigitChars 10 · 0) same
  rw [Nat.ofDigitChars_ten_toDigits, Nat.ofDigitChars_ten_toDigits] at value
  exact ⟨value, behind⟩

end Text

open Text (Delimited delimited_quoted)

/-! ## Arguments of failures -/

theorem Cursor.delimited_constructed : Delimited fun c : Cursor => c.constructed.toList := by
  intro c d s t h
  unfold constructed at h
  simp only [String.toList_append, List.append_assoc] at h
  obtain ⟨source, rest⟩ := delimited_quoted (List.append_cancel_left h)
  obtain ⟨pos, behind⟩ := Text.number_inj (List.append_cancel_left rest)
  exact ⟨eq_of_source_of_pos (String.ofList_injective source) pos, behind⟩

theorem ExpectationKind.ofValue?_value (kind : ExpectationKind) :
    ofValue? kind.value = some kind := by
  cases kind <;> decide +kernel

theorem Expectation.delimited_constructed :
    Delimited fun expected : Expectation => expected.constructed.toList := by
  intro e e' s t h
  have plain (kind : ExpectationKind) : ':' ∉ kind.name.toList := by
    cases kind <;> decide +kernel
  have colon : ": ".toList = [':', ' '] := by decide +kernel
  unfold constructed at h
  simp only [String.toList_append, List.append_assoc, colon, List.cons_append,
    List.nil_append] at h
  obtain ⟨-, rest⟩ := Text.append_cons_inj (plain e.kind) (plain e'.kind)
    (List.append_cancel_left h)
  obtain ⟨value, rest⟩ := delimited_quoted (List.cons.inj rest).2
  obtain ⟨tokens, rest⟩ := Text.delimited_quotedTuple (List.append_cancel_left rest)
  have kind := congrArg ExpectationKind.ofValue? value
  rw [ExpectationKind.ofValue?_value, ExpectationKind.ofValue?_value] at kind
  have same := ofKind?_kind_tokens e
  rw [Option.some.inj kind, tokens, ofKind?_kind_tokens] at same
  exact ⟨(Except.ok.inj same).symm, List.append_cancel_left rest⟩

/-! ## Failures -/

namespace ParseError

/-- What stands between the parentheses of a form. -/
def arguments : ParseError → String
  | character text | typed text => Text.quoted text
  | token expected => expected.constructed
  | incomplete stopped => stopped.constructed
  | context label error => Text.quoted label ++ ", " ++ error.constructed
  | either first second => first.constructed ++ ", " ++ second.constructed
  | _ => ""

/-- A form is the name of the constructor and its arguments. -/
theorem constructed_eq (e : ParseError) :
    e.constructed = e.constructorName ++ "(" ++ e.arguments ++ ")" := by
  have opened {front name : String} (h : front = name ++ "(") (arguments : String) :
      front ++ arguments ++ ")" = name ++ "(" ++ arguments ++ ")" := by rw [h]
  have pair {front name : String} (h : front = name ++ "(") (first second : String) :
      front ++ first ++ ", " ++ second ++ ")" =
        name ++ "(" ++ (first ++ ", " ++ second) ++ ")" := by
    rw [h, ← String.append_assoc, ← String.append_assoc]
  cases e with
  | character char =>
      exact opened (by decide +kernel : "ExpectedCharacter(" = "ExpectedCharacter" ++ "(") _
  | token expected =>
      exact opened (by decide +kernel : "ExpectedToken(" = "ExpectedToken" ++ "(") _
  | typed name =>
      exact opened (by decide +kernel : "ExpectedType(" = "ExpectedType" ++ "(") _
  | incomplete stopped =>
      exact opened (by decide +kernel : "IncompleteParse(" = "IncompleteParse" ++ "(") _
  | context label error =>
      exact pair (by decide +kernel : "ContextualError(" = "ContextualError" ++ "(") _ _
  | either first second =>
      exact pair (by decide +kernel : "EitherError(" = "EitherError" ++ "(") _ _
  | _ => decide +kernel

/-- The code of the failures that the constructor of a name makes. -/
def codeOf? : (name : String) → Option ErrorCode
  | "ExpectedCharacter" => some .expectedCharacter
  | "ExpectedWhitespace" => some .expectedWhitespace
  | "ExpectedTerminationSequence" => some .expectedTermination
  | "ExpectedToken" => some .expectedToken
  | "ExpectedType" => some .expectedType
  | "ExpectedNumber" => some .expectedNumber
  | "ExpectedAlphaNumericString" => some .expectedAlphanumeric
  | "ExpectedCharactersSatisfyingPredicate" => some .expectedSatisfying
  | "IncompleteParse" => some .incompleteParse
  | "ContextualError" => some .contextual
  | "EitherError" => some .either
  | _ => none

theorem codeOf?_constructorName (e : ParseError) : codeOf? e.constructorName = some e.code := by
  cases e <;> rfl

theorem not_mem_constructorName (e : ParseError) : '(' ∉ e.constructorName.toList := by
  cases e <;> simp only [constructorName] <;> decide +kernel

/-- Forms that begin a text are of one constructor, and what stands behind its parenthesis is the
same. -/
theorem code_eq_and_arguments_eq {e e' : ParseError} {s t : List Char}
    (h : e.constructed.toList ++ s = e'.constructed.toList ++ t) :
    e.code = e'.code ∧ e.arguments.toList ++ ')' :: s = e'.arguments.toList ++ ')' :: t := by
  have opening : "(".toList = ['('] := by decide +kernel
  have closing : ")".toList = [')'] := by decide +kernel
  simp only [constructed_eq, String.toList_append, opening, closing, List.append_assoc,
    List.cons_append, List.nil_append] at h
  obtain ⟨name, rest⟩ := Text.append_cons_inj (not_mem_constructorName e)
    (not_mem_constructorName e') h
  have code := congrArg codeOf? (String.toList_inj.mp name)
  rw [codeOf?_constructorName, codeOf?_constructorName] at code
  exact ⟨Option.some.inj code, rest⟩

/-- Failures of one constructor with the same arguments are the same. -/
theorem eq_of_arguments_eq {e e' : ParseError} {s t : List Char} (code : e.code = e'.code)
    (h : e.arguments.toList ++ ')' :: s = e'.arguments.toList ++ ')' :: t) : e = e' ∧ s = t := by
  induction e generalizing e' s t with
  | whitespace | termination | number | alphanumeric | satisfying =>
      cases e' <;> cases code
      exact ⟨rfl, (List.cons.inj (List.append_cancel_left h)).2⟩
  | character text | typed text =>
      cases e' <;> cases code
      obtain ⟨rfl, behind⟩ := delimited_quoted h
      exact ⟨rfl, (List.cons.inj behind).2⟩
  | token expected =>
      cases e' <;> cases code
      obtain ⟨rfl, behind⟩ := Expectation.delimited_constructed h
      exact ⟨rfl, (List.cons.inj behind).2⟩
  | incomplete stopped =>
      cases e' <;> cases code
      obtain ⟨rfl, behind⟩ := Cursor.delimited_constructed h
      exact ⟨rfl, (List.cons.inj behind).2⟩
  | context label error ih =>
      cases e' <;> cases code
      simp only [arguments, String.toList_append, List.append_assoc] at h
      obtain ⟨rfl, rest⟩ := delimited_quoted h
      obtain ⟨nested, inside⟩ := code_eq_and_arguments_eq (List.append_cancel_left rest)
      obtain ⟨rfl, behind⟩ := ih nested inside
      exact ⟨rfl, (List.cons.inj behind).2⟩
  | either first second ih ih' =>
      cases e' <;> cases code
      simp only [arguments, String.toList_append, List.append_assoc] at h
      obtain ⟨left, inside⟩ := code_eq_and_arguments_eq h
      obtain ⟨rfl, rest⟩ := ih left inside
      obtain ⟨right, inside'⟩ := code_eq_and_arguments_eq (List.append_cancel_left rest)
      obtain ⟨rfl, behind⟩ := ih' right inside'
      exact ⟨rfl, (List.cons.inj behind).2⟩

theorem delimited_constructed : Delimited fun e : ParseError => e.constructed.toList := by
  intro e e' s t h
  obtain ⟨code, arguments⟩ := code_eq_and_arguments_eq h
  exact eq_of_arguments_eq code arguments

/-- Failures have the same constructor form exactly if they are the same. -/
theorem constructed_inj (e e' : ParseError) : e.constructed = e'.constructed ↔ e = e' := by
  constructor
  · intro same
    have whole : e.constructed.toList ++ [] = e'.constructed.toList ++ [] := by rw [same]
    exact (delimited_constructed whole).1
  · rintro rfl
    rfl

/-- A label may hold what looks like the end of its literal. -/
example :
    (context "a', ExpectedNumber()" whitespace).constructed =
      "ContextualError(\"a', ExpectedNumber()\", ExpectedWhitespace())" := by
  decide +kernel

end ParseError

end Descent
