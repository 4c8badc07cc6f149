import Descent.Error.Report

/-!
# What a report with an excerpt shows

A report with an excerpt of `m` characters shows the place where a parse stopped and the next
`m` characters.  What comes behind them it does not show, in no format and at no depth of the
failure.

Two places *agree* up to `m` characters ahead when they have the same position, the texts are
the same up to there, and both go on behind.  So they have the same characters before them
(`Cursor.AgreesUpTo.passed`), which decide the line and the column, and the same excerpt
(`Cursor.AgreesUpTo.cut`).  A report looks at nothing else of a place.  Failures agree when they
are equal but for the places in them, and the reports of failures that agree are equal
(`Report.render_eq_of_agreesUpTo`).
-/

namespace Descent

/-! ## Places -/

/-- Two places with the same position, in texts that are the same up to `m` characters behind it
and go on after that. -/
structure Cursor.AgreesUpTo (m : Nat) (c d : Cursor) : Prop where
  /-- The positions are the same. -/
  pos : c.pos = d.pos
  /-- So are the texts, from the front. -/
  text : c.source.take (c.pos + m) = d.source.take (d.pos + m)
  /-- There is more of the one text. -/
  more : m < c.rest.length
  /-- And of the other one. -/
  more' : m < d.rest.length

namespace Cursor

variable {m : Nat} {c d : Cursor}

theorem take_source (c : Cursor) (m : Nat) :
    c.source.take (c.pos + m) = c.passed.reverse ++ c.rest.take m := by
  rw [source, pos, ← List.length_reverse, List.take_length_add_append]

namespace AgreesUpTo

theorem parts (h : c.AgreesUpTo m d) : c.passed = d.passed ∧ c.rest.take m = d.rest.take m := by
  have text := h.text
  rw [take_source, take_source] at text
  have length : c.passed.reverse.length = d.passed.reverse.length := by
    rw [List.length_reverse, List.length_reverse]
    exact h.pos
  obtain ⟨passed, ahead⟩ := List.append_inj text length
  exact ⟨List.reverse_inj.mp passed, ahead⟩

/-- The same characters come before both places. -/
theorem passed (h : c.AgreesUpTo m d) : c.passed = d.passed := h.parts.1

theorem lineColumn (h : c.AgreesUpTo m d) : c.lineColumn = d.lineColumn := by
  rw [Cursor.lineColumn, Cursor.lineColumn, h.passed]

end AgreesUpTo

end Cursor

/-! ## Failures -/

/-- Failures that are equal but for the places in them, which agree up to `m` characters
ahead. -/
inductive ParseError.AgreesUpTo (m : Nat) : ParseError → ParseError → Prop where
  | refl (e : ParseError) : AgreesUpTo m e e
  | incomplete {c d : Cursor} (h : c.AgreesUpTo m d) : AgreesUpTo m (.incomplete c) (.incomplete d)
  | context (label : String) {e f : ParseError} (h : AgreesUpTo m e f) :
      AgreesUpTo m (.context label e) (.context label f)
  | either {e f e' f' : ParseError} (h : AgreesUpTo m e f) (h' : AgreesUpTo m e' f') :
      AgreesUpTo m (.either e e') (.either f f')

/-! ## Reports -/

namespace Report

/-- What is longer than the excerpt is cut. -/
theorem cut_of_lt (format : ReportFormat) {m : Nat} {chars : List Char} (h : m < chars.length) :
    (Report.mk format (some m)).cut (String.ofList chars) =
      String.ofList (chars.take m) ++ "..." := by
  have longer : (m : Int) < (chars.length : Int) := by exact_mod_cast h
  simp [cut, longer]

end Report

/-- The excerpts at both places are the same. -/
theorem Cursor.AgreesUpTo.cut {m : Nat} {c d : Cursor} (h : c.AgreesUpTo m d)
    (format : ReportFormat) :
    (Report.mk format (some m)).cut c.remaining = (Report.mk format (some m)).cut d.remaining := by
  rw [remaining, remaining, Report.cut_of_lt format h.more, Report.cut_of_lt format h.more',
    h.parts.2]

namespace Report

variable {m : Nat} {e f : ParseError} (format : ReportFormat)

theorem renderText_eq (h : e.AgreesUpTo m f) :
    (Report.mk format (some m)).renderText e = (Report.mk format (some m)).renderText f := by
  induction h with
  | refl e => rfl
  | incomplete h => rw [renderText_incomplete, renderText_incomplete, h.cut]
  | context label h ih =>
      rw [renderText_context, renderText_context, ih]
      rfl
  | either h h' ih ih' =>
      rw [renderText_either, renderText_either, ih, ih']
      rfl

theorem renderSimple_eq (h : e.AgreesUpTo m f) :
    (Report.mk format (some m)).renderSimple e = (Report.mk format (some m)).renderSimple f := by
  induction h with
  | refl e => rfl
  | incomplete h => rw [renderSimple_incomplete, renderSimple_incomplete, h.lineColumn, h.cut]
  | context label h ih => rw [renderSimple_context, renderSimple_context, ih]
  | either h h' ih ih' => rw [renderSimple_either, renderSimple_either, ih, ih']

theorem document_eq (h : e.AgreesUpTo m f) :
    (Report.mk format (some m)).document e = (Report.mk format (some m)).document f := by
  induction h with
  | refl e => rfl
  | incomplete h => rw [document_incomplete, document_incomplete, h.pos, h.lineColumn, h.cut]
  | context label h ih =>
      rw [document_context, document_context, ih]
      rfl
  | either h h' ih ih' =>
      rw [document_either, document_either, ih, ih']
      rfl

/-- With an excerpt of `m` characters, failures that agree up to `m` characters ahead have the
same report in every format, and the same document. -/
theorem render_eq_of_agreesUpTo (format : ReportFormat) (m : Nat) {e f : ParseError}
    (h : e.AgreesUpTo m f) :
    (Report.mk format (some m)).render e = (Report.mk format (some m)).render f ∧
      (Report.mk format (some m)).document e = (Report.mk format (some m)).document f := by
  refine ⟨?_, document_eq format h⟩
  cases format with
  | text => exact renderText_eq .text h
  | simple => exact renderSimple_eq .simple h
  | json => exact congrArg (fun d => String.ofList d.render) (document_eq .json h)

/-- A failure in a list, with a place on the second line before `cde` and what follows. -/
def listBefore (rest : String) : ParseError :=
  .context "list" (.either .number (.incomplete (.ofChars ("ab\ncde" ++ rest).toList 3)))

/-- What follows does not show in three characters. -/
theorem render_listBefore :
    (listBefore "f").AgreesUpTo 3 (listBefore "\"gh") ∧ listBefore "f" ≠ listBefore "\"gh" ∧
      (Report.mk .simple (some 3)).render (listBefore "f") =
        (Report.mk .simple (some 3)).render (listBefore "\"gh") ∧
      (Report.mk .simple (some 3)).document (listBefore "f") =
        (Report.mk .simple (some 3)).document (listBefore "\"gh") := by
  have agree : (listBefore "f").AgreesUpTo 3 (listBefore "\"gh") :=
    .context _ (.either (.refl _) (.incomplete ⟨rfl, rfl, by decide, by decide⟩))
  exact ⟨agree, by decide, render_eq_of_agreesUpTo .simple 3 agree⟩

end Report

end Descent
