import Descent.Enumeration
import Descent.Grammar.Basic

/-!
# Standard grammars

Grammars that are put together from the basic ones: blanks and line breaks, the
comma, and literals that stand for values.  Those that cannot be put together
from every argument give an error in place of a grammar.
-/

namespace Descent

/-! ## Errors -/

/-- Why a part of a grammar cannot be made. -/
inductive BuildError where
  /-- A choice of no branches. -/
  | emptyChoice
  /-- A member whose value is not a text. -/
  | memberWithoutText (member : Member)
  /-- There are no symbols for the locale. -/
  | locale (e : LocaleError)
  /-- An expectation of one literal with another number of tokens. -/
  | notOneToken (e : NotOneToken)
  /-- A cursor outside its text. -/
  | cursor (e : CursorError)
  /-- A value that no member of an enumeration has, as a literal. -/
  | noSuchMember (enumeration literal : String)
  /-- An operand that is not a grammar. -/
  | notGrammar (operator type : String)
  deriving Inhabited

/-- The text of the error. -/
def BuildError.message : BuildError → String
  | emptyChoice => "choice() requires at least one parser"
  | memberWithoutText member =>
      "raw_value() requires a str-valued enum member, got " ++ literal member
  | locale e => e.message
  | notOneToken e => e.message
  | cursor e => e.message
  | noSuchMember enumeration literal => literal ++ " is not a valid " ++ enumeration
  | notGrammar operator type =>
      "unsupported operand type(s) for " ++ operator ++ ": 'Parser' and '" ++ type ++ "'"

namespace Grammar

variable {ι : Type} {τ : ι → Type} {α : Type}

/-! ## Blanks and line breaks -/

/-- Nothing, with an empty text for its value. -/
def empty : Grammar τ String := pure "empty" ""

/-- The blanks that are there, if any. -/
def optionalBlanks : Grammar τ (Option String) :=
  ((some <$> blanks).optional none).named "optional_whitespace"

/-- Blanks within a line. -/
def space : Grammar τ String := (satisfyRun Text.isInlineBlank).named "space"

/-- One line break.  Carriage return and line feed together are one. -/
def lineBreak : Grammar τ String :=
  ((token Text.crlf).orElse (String.singleton <$> satisfy Text.isLineBreak)).secondError

/-- Blanks within a line, or none, and the line break after them. -/
def newline : Grammar τ String :=
  ((space.optional "").bind fun blanks => (blanks ++ ·) <$> lineBreak).named "newline"

/-- A comma and the blanks after it. -/
def comma : Grammar τ Unit :=
  ((fun _ => ()) <$> (token ",").keepRight (blanks true)).named "comma"

/-- The next `n` characters, or those up to the end. -/
def skipping (n : Nat) : Grammar τ Unit :=
  (fun _ => ()) <$> chain fun _ : Fin n => (satisfy fun _ => true).discard

/-! ## Branches -/

/-- Several branches, at least one. -/
def choice? : List (Grammar τ α) → Except BuildError (Grammar τ α)
  | [] => .error .emptyChoice
  | [p] => .ok p
  | p :: q :: ps => .ok (choice (p :: q :: ps).get)

/-! ## Literals that stand for values -/

/-- The value of the first literal that the input begins with.  A failure shows
all literals. -/
def firstLiteral (entries : List (String × α)) : Grammar τ α :=
  entries.foldl (fun p entry => (p.orElse ((fun _ => entry.2) <$> token entry.1)).firstError)
    (fail (.token (.oneOf (entries.map Prod.fst))))

/-- What is kept by adding a literal as a last alternative holds of the first literal of any
list. -/
theorem firstLiteral_of_step {motive : Grammar τ α → Prop} (none : ∀ e, motive (fail e))
    (step : ∀ p text v, motive p →
      motive ((p.orElse ((fun _ => v) <$> token text)).firstError))
    (entries : List (String × α)) : motive (firstLiteral entries) :=
  List.foldlRecOn entries _ (none _) fun p hp entry _ => step p entry.1 entry.2 hp

/-- The text of a member beside the member. -/
def memberText? (m : Member) : Except BuildError (String × Member) :=
  match m.value.text? with
  | some text => .ok (text, m)
  | none => .error (.memberWithoutText m)

/-- A member, where the input begins with its text. -/
def member? (m : Member) : Except BuildError (Grammar τ Member) :=
  (memberText? m).map fun entry =>
    ((fun _ => entry.2) <$> token entry.1).named ("raw_value(" ++ literal m ++ ")")

/-- Any member of an enumeration. -/
def enumeration? (e : Enumeration) : Except BuildError (Grammar τ Member) :=
  (e.members.mapM memberText?).map fun entries =>
    (firstLiteral entries).named ("enumeration(" ++ e.name ++ ")")

/-- A grammar that was made for a member reads a literal. -/
theorem exists_of_member? {m : Member} {p : Grammar τ Member} (h : member? m = .ok p) :
    ∃ text v label, p = ((fun _ => v) <$> token text).named label := by
  unfold member? at h
  cases hm : memberText? m with
  | error e =>
      rw [hm] at h
      cases h
  | ok entry =>
      rw [hm] at h
      cases h
      exact ⟨_, _, _, rfl⟩

/-- A grammar that was made for an enumeration reads the first of several literals. -/
theorem exists_of_enumeration? {e : Enumeration} {p : Grammar τ Member}
    (h : enumeration? e = .ok p) : ∃ entries label, p = (firstLiteral entries).named label := by
  unfold enumeration? at h
  cases hm : e.members.mapM memberText? with
  | error e =>
      rw [hm] at h
      cases h
  | ok entries =>
      rw [hm] at h
      cases h
      exact ⟨_, _, rfl⟩

/-! ## Numbers of a locale -/

/-- A number in the notation of the locale with this code, and the conversion for its symbols. -/
def decimal? (table : Option LocaleTable) (code : String)
    (convert : NumberSymbols → Conversion := NumberSymbols.convert) :
    Except BuildError (Grammar τ Decimal) :=
  match Locale.symbols? table "decimal" code with
  | .ok symbols => .ok (decimal code symbols (convert symbols))
  | .error e => .error (.locale e)

end Grammar

end Descent
