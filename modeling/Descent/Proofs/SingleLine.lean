import Descent.Error.Report

/-!
# Reports on one line

A text is *unbroken* if there is no line boundary in it (`Text.Unbroken`).  Every part of a report
in the simple format is.

* Labels, literals, characters and names are given to a failure from outside.  They are the
  `texts` of the failure, and that they are unbroken is what the main statement asks for.
* Unread input is shown as a quoted literal.  No line boundary is printable, so each one is written
  by its letter or its code point, and the characters of such a form are no boundaries
  (`Text.unbroken_quoted`).  It makes no difference where the excerpt is cut.
* What is left are words, digits and punctuation.

So the whole report is one line (`Report.unbroken_render`).
-/

namespace Descent

/-! ## Unbroken texts -/

namespace Text

/-- There is no line boundary in the text. -/
def Unbroken (text : List Char) : Prop := ∀ x ∈ text, isLineBoundary x = false

instance (text : List Char) : Decidable (Unbroken text) :=
  List.decidableBAll (fun x => isLineBoundary x = false) text

variable {a b text sep : List Char} {x : Char}

theorem unbroken_nil : Unbroken [] := nofun

@[simp] theorem unbroken_cons :
    Unbroken (x :: text) ↔ isLineBoundary x = false ∧ Unbroken text :=
  List.forall_mem_cons

@[simp] theorem unbroken_append : Unbroken (a ++ b) ↔ Unbroken a ∧ Unbroken b :=
  List.forall_mem_append

theorem unbroken_toList_append {a b : String} :
    Unbroken (a ++ b).toList ↔ Unbroken a.toList ∧ Unbroken b.toList := by
  rw [String.toList_append, unbroken_append]

theorem Unbroken.enclosed {before text after : String} (hbefore : Unbroken before.toList)
    (h : Unbroken text.toList) (hafter : Unbroken after.toList) :
    Unbroken (before ++ text ++ after).toList :=
  unbroken_toList_append.mpr ⟨unbroken_toList_append.mpr ⟨hbefore, h⟩, hafter⟩

theorem unbroken_singleton (h : isLineBoundary x = false) : Unbroken [x] :=
  unbroken_cons.mpr ⟨h, unbroken_nil⟩

theorem unbroken_flatMap {α : Type} {f : α → List Char} {xs : List α}
    (h : ∀ x ∈ xs, Unbroken (f x)) : Unbroken (xs.flatMap f) := by
  intro y hy
  obtain ⟨x, hx, hy⟩ := List.mem_flatMap.mp hy
  exact h x hx y hy

theorem unbroken_intercalate {texts : List (List Char)} (hsep : Unbroken sep)
    (h : ∀ text ∈ texts, Unbroken text) : Unbroken (sep.intercalate texts) := by
  induction texts with
  | nil => exact unbroken_nil
  | cons text texts ih =>
      have others := ih fun text' mem => h text' (.tail _ mem)
      cases texts with
      | nil =>
          rw [List.intercalate_singleton]
          exact h text (.head _)
      | cons _ _ =>
          rw [List.intercalate_cons_cons, unbroken_append, unbroken_append]
          exact ⟨⟨h text (.head _), hsep⟩, others⟩

/-! ### Digits -/

theorem isLineBoundary_of_isDigit (h : x.isDigit = true) : isLineBoundary x = false := by
  rw [← Bool.not_eq_true]
  intro boundary
  have mem := List.contains_iff_mem.mp boundary
  have none : lineBoundaries.all (fun y => !y.isDigit) = true := by decide
  have other := List.all_eq_true.mp none x mem
  rw [h] at other
  cases other

theorem unbroken_toString (n : Nat) : Unbroken (toString n).toList := by
  rw [Nat.toString_eq_repr, Nat.repr_eq_ofList_toDigits, String.toList_ofList]
  intro x hx
  exact isLineBoundary_of_isDigit (Nat.isDigit_of_mem_toDigits (by decide) (by decide) hx)

theorem unbroken_hexDigits (width n : Nat) : Unbroken (hexDigits width n) := by
  have digit : ∀ k < 16, isLineBoundary k.digitChar = false := by decide
  induction width generalizing n with
  | zero => exact unbroken_nil
  | succ width ih =>
      rw [hexDigits, unbroken_append, unbroken_cons]
      exact ⟨ih (n / 16), digit (n % 16) (Nat.mod_lt n (by decide)), unbroken_nil⟩

/-! ### Quoted literals -/

theorem isLineBoundary_of_isPrintable (h : isPrintable x = true) : isLineBoundary x = false := by
  rw [← Bool.not_eq_true]
  intro boundary
  rw [isPrintable_of_isLineBoundary boundary] at h
  cases h

theorem unbroken_escapeCode (x : Char) : Unbroken (escapeCode x) := by
  unfold escapeCode
  split
  · exact unbroken_append.mpr ⟨(by decide : Unbroken ['\\', 'x']), unbroken_hexDigits 2 _⟩
  · split
    · exact unbroken_append.mpr ⟨(by decide : Unbroken ['\\', 'u']), unbroken_hexDigits 4 _⟩
    · exact unbroken_append.mpr ⟨(by decide : Unbroken ['\\', 'U']), unbroken_hexDigits 8 _⟩

/-- A character may be any, a line boundary as well. -/
theorem unbroken_quoteChar {quote : Char} (hquote : isLineBoundary quote = false) (x : Char) :
    Unbroken (quoteChar quote x) := by
  unfold quoteChar
  split
  next own =>
    rcases own with rfl | rfl
    · exact unbroken_cons.mpr ⟨by decide, unbroken_singleton hquote⟩
    · decide
  -- Tab, line feed and carriage return have a letter of their own.
  iterate 3
    split
    · decide
  split
  next printable => exact unbroken_singleton (isLineBoundary_of_isPrintable printable)
  next => exact unbroken_escapeCode x

theorem isLineBoundary_quoteFor (text : List Char) : isLineBoundary (quoteFor text) = false := by
  unfold quoteFor
  split <;> decide

/-- The quoted literal of any text is one line. -/
theorem unbroken_quoted (text : String) : Unbroken (quoted text).toList := by
  have quote := isLineBoundary_quoteFor text.toList
  rw [quoted, String.toList_ofList, quoteChars, unbroken_append, unbroken_cons]
  exact ⟨⟨quote, unbroken_flatMap fun x _ => unbroken_quoteChar quote x⟩,
    unbroken_singleton quote⟩

end Text

open Text (Unbroken unbroken_toList_append)

/-! ## Failures -/

namespace ParseError

/-- The texts that a failure and those nested in it were given. -/
def texts : ParseError → List String
  | character char => [char]
  | token expected => expected.tokens
  | typed name => [name]
  | context label error => label :: error.texts
  | either first second => first.texts ++ second.texts
  | _ => []

/-- The failure nests no other one and shows no unread input. -/
def IsPlain : ParseError → Prop
  | incomplete _ | context _ _ | either _ _ => False
  | _ => True

/-- What holds of plain failures and of those that show unread input, and is kept by nesting,
holds of every failure. -/
@[elab_as_elim] theorem plain_induction {motive : ParseError → Prop}
    (plain : ∀ e, e.IsPlain → motive e) (incomplete : ∀ stopped, motive (.incomplete stopped))
    (context : ∀ label error, motive error → motive (.context label error))
    (either : ∀ first second, motive first → motive second → motive (.either first second))
    (e : ParseError) : motive e := by
  induction e with
  | incomplete stopped => exact incomplete stopped
  | context label error ih => exact context label error ih
  | either first second ih ih' => exact either first second ih ih'
  | _ => exact plain _ trivial

end ParseError

theorem Expectation.unbroken_text {expected : Expectation}
    (h : ∀ token ∈ expected.tokens, Unbroken token.toList) : Unbroken expected.text.toList := by
  have list (tokens : List String) (h : ∀ token ∈ tokens, Unbroken token.toList) :
      Unbroken ("[" ++ ", ".intercalate tokens ++ "]").toList := by
    refine .enclosed (by decide) ?_ (by decide)
    rw [String.toList_intercalate]
    exact Text.unbroken_intercalate (by decide) (List.forall_mem_map.mpr h)
  have literal (token : String) (h : Unbroken token.toList) :
      Unbroken ("'" ++ token ++ "'").toList := .enclosed (by decide) h (by decide)
  cases expected with
  | one token => exact literal token (h token (.head _))
  | oneOf tokens =>
      exact list _ (List.forall_mem_map.mpr fun token mem => literal token (h token mem))
  | sequence tokens => exact list tokens h

/-- The message of a failure that shows no unread input is one line. -/
theorem ParseError.unbroken_message {e : ParseError} (shown : ∀ stopped, e ≠ .incomplete stopped)
    (h : ∀ text ∈ e.texts, Unbroken text.toList) : Unbroken e.message.toList := by
  cases e with
  | character char => exact .enclosed (by decide) (h char (.head _)) (by decide)
  | token expected =>
      exact unbroken_toList_append.mpr ⟨by decide, Expectation.unbroken_text h⟩
  | typed name => exact .enclosed (by decide) (h name (.head _)) (by decide)
  | incomplete stopped => exact absurd rfl (shown stopped)
  | context label error => exact unbroken_toList_append.mpr ⟨by decide, h label (.head _)⟩
  | either first second =>
      show Unbroken "Parsing Failed in Either".toList
      decide +kernel
  | _ => decide +kernel

theorem ErrorCode.unbroken_name (code : ErrorCode) : Unbroken code.name.toList := by
  cases code <;> decide +kernel

/-! ## Simple reports -/

namespace Report

variable (r : Report) {e : ParseError}

theorem renderSimple_of_isPlain (h : e.IsPlain) :
    r.renderSimple e = e.code.name ++ ": " ++ e.message := by
  cases e with
  | incomplete _ | context _ _ | either _ _ => exact h.elim
  | _ => rfl

theorem unbroken_renderSimple (h : ∀ text ∈ e.texts, Unbroken text.toList) :
    Unbroken (r.renderSimple e).toList := by
  induction e using ParseError.plain_induction with
  | plain e plain =>
      have message := ParseError.unbroken_message (by rintro _ rfl; exact plain) h
      rw [r.renderSimple_of_isPlain plain]
      exact .enclosed (ErrorCode.unbroken_name _) (by decide) message
  | incomplete stopped =>
      simp only [renderSimple_incomplete, unbroken_toList_append, Text.unbroken_toString,
        Text.unbroken_quoted, and_true]
      decide +kernel
  | context label error ih =>
      rw [renderSimple_context]
      exact .enclosed (h label (.head _)) (by decide) (ih fun text mem => h text (.tail _ mem))
  | either first second ih ih' =>
      have left := ih fun text mem => h text (List.mem_append_left _ mem)
      have right := ih' fun text mem => h text (List.mem_append_right _ mem)
      rw [renderSimple_either]
      exact .enclosed (.enclosed (by decide) left (by decide)) right (by decide)

/-- A simple report is one line, whatever input was left unread and however much of it is shown,
if the texts that the failure was given are. -/
theorem unbroken_render (excerpt : Option Int) {e : ParseError}
    (h : ∀ text ∈ e.texts, Unbroken text.toList) :
    Unbroken ((Report.mk .simple excerpt).render e).toList :=
  unbroken_renderSimple _ h

/-- Unread input of several lines is cut behind a line separator. -/
theorem unbroken_render_lines :
    let stopped := Cursor.ofChars "a\nb\r\u2028c\u0085".toList 2
    let error : ParseError := .context "list" (.either (.token (.oneOf ["+", "-"]))
      (.incomplete stopped))
    (∀ text ∈ error.texts, Unbroken text.toList) ∧ ¬ Unbroken stopped.rest ∧
      Unbroken ((Report.mk .simple (some 3)).render error).toList := by
  intro stopped error
  have texts : ∀ text ∈ error.texts, Unbroken text.toList := by decide
  exact ⟨texts, by decide, unbroken_render (some 3) texts⟩

end Report

end Descent
