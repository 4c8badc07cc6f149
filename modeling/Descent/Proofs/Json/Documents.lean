import Descent.Error.Report
import Descent.Proofs.Json.Decoding

/-!
# Documents as JSON texts

A document is a JSON value (`Document.json`), and its written form is a text of that value
(`Document.isText_render`).  So a report in JSON is read back as the document of the failure and as
nothing else, whatever strings and however many levels the failure has (`Report.decode_render`).
No object of such a document has two fields of one name (`Report.distinct_document`), so it makes
no difference which of several a reader would take.
-/

namespace Descent

open Json

/-! ## Texts -/

theorem Document.charForm_escapeChar (c : Char) : CharForm c (escapeChar c) := by
  unfold escapeChar
  split
  · next either => rcases either with rfl | rfl <;> exact .short rfl
  -- The characters below U+0020 that have a letter of their own.
  iterate 5
    split
    · next same => exact same ▸ .short rfl
  split
  · next control =>
      have digits : ∀ n < 32,
          hexValue? ['0', '0', (n / 16).digitChar, (n % 16).digitChar] = some n := by decide
      have form := CharForm.code (.mk (digits c.toNat control)) c.valid
      rwa [Char.ofNat_toNat] at form
  · next notNamed _ _ _ _ _ visible =>
      exact .plain (Nat.not_lt.mp visible) (fun same => notNamed (.inl same))
        fun same => notNamed (.inr same)

theorem Document.charsForm_flatMap (cs : List Char) : CharsForm cs (cs.flatMap escapeChar) := by
  induction cs with
  | nil => exact .nil
  | cons c cs ih => exact .cons (charForm_escapeChar c) ih

theorem Document.stringForm_renderText (text : String) : StringForm text (renderText text) :=
  .mk (charsForm_flatMap text.toList)

/-! ## Numbers -/

theorem Json.digits_toDigits (n : Nat) : Json.Digits (Nat.toDigits 10 n) :=
  ⟨Nat.toDigits_ne_nil, fun _ => Nat.isDigit_of_mem_toDigits (by decide) (by decide)⟩

/-- The decimal form of a number begins with zero only where it is zero. -/
theorem Json.wholeDigits_toDigits (n : Nat) : WholeDigits (Nat.toDigits 10 n) := by
  refine ⟨digits_toDigits n, ?_⟩
  induction n using Nat.strongRecOn with
  | _ n ih =>
    intro zero
    by_cases small : n < 10
    · rw [Nat.toDigits_of_lt_base small] at zero ⊢
      rw [Option.some.inj zero]
    · rw [Nat.toDigits_of_base_le (by decide) (by omega),
        List.head?_append, Option.or_of_isSome (List.isSome_head?.mpr Nat.toDigits_ne_nil)] at zero
      have tens := congrArg (Nat.ofDigitChars 10 · 0) (ih (n / 10) (by omega) zero)
      rw [Nat.ofDigitChars_ten_toDigits] at tens
      have none : n / 10 = 0 := tens
      omega

theorem Json.numberForm_toString (n : Int) : NumberForm (.whole n) (toString n).toList := by
  rw [Int.toString_eq_repr]
  cases n with
  | ofNat m =>
      have form := NumberForm.mk .absent (wholeDigits_toDigits m) .absent .absent
      rw [numberValue, Nat.ofDigitChars_ten_toDigits] at form
      simpa [signed, Int.repr] using form
  | negSucc m =>
      have form := NumberForm.mk .minus (wholeDigits_toDigits (m + 1)) .absent .absent
      rw [numberValue, Nat.ofDigitChars_ten_toDigits] at form
      simpa [signed, Int.repr, Int.negSucc_eq] using form

/-! ## Documents -/

namespace Document

mutual

/-- The value that a document is. -/
def json : Document → Json
  | number value => .whole value
  | text value => .string value
  | object fields => .object (jsonFields fields)

/-- The members that the fields of an object are. -/
def jsonFields : List (String × Document) → List (String × Json)
  | [] => []
  | field :: fields => jsonField field :: jsonFields fields

/-- The member that a field is. -/
def jsonField : String × Document → String × Json
  | (name, value) => (name, value.json)

end

mutual

/-- No object of the document has two fields of one name. -/
def Distinct : Document → Prop
  | number _ | text _ => True
  | object fields => (fields.map Prod.fst).Nodup ∧ DistinctFields fields

/-- No object in the fields has two fields of one name. -/
def DistinctFields : List (String × Document) → Prop
  | [] => True
  | field :: fields => DistinctField field ∧ DistinctFields fields

/-- No object in the field has two fields of one name. -/
def DistinctField : String × Document → Prop
  | (_, value) => value.Distinct

end

theorem blanks_nil : Blanks [] := nofun

theorem blanks_singleton : Blanks [' '] := by simp [Blanks, isBlank]

/-! ### Written forms -/

mutual

theorem valueForm_render : ∀ d : Document, ValueForm d.json d.render
  | number value => .number (numberForm_toString value)
  | text value => .string (stringForm_renderText value)
  | object [] => .object (.empty blanks_nil)
  | object (field :: fields) =>
      .object (.listed (listed_renderFields (field :: fields) (List.cons_ne_nil _ _) blanks_nil))

theorem listed_renderFields : ∀ (fields : List (String × Document)), fields ≠ [] →
    ∀ {blanks : List Char}, Blanks blanks →
      Listed (MemberForm ValueForm) (jsonFields fields) (blanks ++ renderFields fields)
  | [], some_field, _, _ => absurd rfl some_field
  | [field], _, _, front => .one (memberForm_renderField field front)
  | field :: next :: fields, _, blanks, front => by
      have others := listed_renderFields (next :: fields) (List.cons_ne_nil _ _) blanks_singleton
      rw [renderFields, ← List.append_assoc]
      exact .cons (memberForm_renderField field front) others

theorem memberForm_renderField : ∀ (field : String × Document) {blanks : List Char},
    Blanks blanks → MemberForm ValueForm (jsonField field) (blanks ++ renderField field)
  | (name, value), blanks, front => by
      have left := Padded.mk front (stringForm_renderText name) blanks_nil
      have right := Padded.mk blanks_singleton (valueForm_render value) blanks_nil
      rw [renderField, ← List.append_assoc]
      simpa [jsonField] using MemberForm.mk left right

end

/-- The written form of a document is a text of the value that the document is. -/
theorem isText_render (d : Document) : IsText d.json d.render := by
  simpa [IsText] using Padded.mk blanks_nil (valueForm_render d) blanks_nil

end Document

/-! ## Reports -/

namespace Report

open Document

/-- The fields of a failure that has none of its own. -/
theorem distinct_header (code : ErrorCode) (message : String) :
    (object (header code message)).Distinct := by
  simp [header, Distinct, DistinctFields, DistinctField]

theorem distinct_document (r : Report) (error : ParseError) : (r.document error).Distinct := by
  induction error with
  | context label error ih =>
      rw [document_context]
      simp [header, Distinct, DistinctFields, DistinctField, ih]
  | either first second ihFirst ihSecond =>
      rw [document_either]
      simp [header, Distinct, DistinctFields, DistinctField, ihFirst, ihSecond]
  | incomplete stopped =>
      rw [document_incomplete]
      simp [header, Distinct, DistinctFields, DistinctField]
  | _ => exact distinct_header _ _

/-- A report in JSON is a text of the document of the failure and of no other value. -/
theorem decode_render (excerpt : Option Int) (error : ParseError) :
    let r : Report := { format := .json, excerpt := excerpt }
    let text := (r.render error).toList
    (∀ v, IsText v text ↔ v = (r.document error).json) ∧
      decode text = some (r.document error).json ∧ (r.document error).Distinct := by
  intro r text
  have written : text = (r.document error).render := String.toList_ofList
  have read : decode text = some (r.document error).json :=
    decode_eq_some_iff.mpr (written ▸ isText_render (r.document error))
  refine ⟨fun v => ?_, read, distinct_document r error⟩
  rw [← decode_eq_some_iff, read, Option.some.injEq, eq_comm]

end Report

end Descent
