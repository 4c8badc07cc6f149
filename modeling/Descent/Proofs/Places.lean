import Mathlib.Data.List.TakeWhile
import Mathlib.Data.Prod.Lex
import Descent.Cursor

/-!
# Lines and columns

A reader finds a place of a text by its line and its column.  `Cursor.lineColumn` reads both off
the characters before the place: the line from the number of line feeds, and the column from what
stands behind the last of them.  This module looks at the whole text instead, cut at its line
feeds into lines.

A line and a column lie in the text if there is such a line, and the column is one of it or the
one behind its end (`Text.HasPlace`).  The position that they stand for is the length of the lines
before, each with its line feed, and of what is before the column (`Text.offset`).  A column
behind the end of a line is the place before its line feed, and is still before the first column
of the next line.  So `offset` follows the order of the lines, and of the columns within a line
(`Text.offset_lt_offset`).

The line and the column of a place lie in the text and stand for its position.  They are therefore
different for different places, and come in the order of the places
(`Cursor.lineColumn_determines`).
-/

namespace Descent

/-! ## Lines -/

namespace Text

variable {text front : List Char}

/-- The number of characters of lines, each with the line feed that ends it. -/
def widths : List (List Char) → Nat
  | [] => 0
  | line :: lines => line.length + 1 + widths lines

/-- A line and a column, counted from one, that lie in the text. -/
structure HasPlace (text : List Char) (place : Nat × Nat) : Prop where
  /-- The line is not before the first. -/
  line_pos : 1 ≤ place.1
  /-- It is not behind the last. -/
  line_le : place.1 ≤ (text.splitOn '\n').length
  /-- The column is not before the first. -/
  column_pos : 1 ≤ place.2
  /-- It is at most one behind the end of the line. -/
  column_le : ∃ line, (text.splitOn '\n')[place.1 - 1]? = some line ∧ place.2 ≤ line.length + 1

/-- The position that a line and a column stand for. -/
def offset (text : List Char) (place : Nat × Nat) : Nat :=
  widths ((text.splitOn '\n').take (place.1 - 1)) + (place.2 - 1)

theorem widths_append (a b : List (List Char)) : widths (a ++ b) = widths a + widths b := by
  induction a with
  | nil => rw [List.nil_append, widths, Nat.zero_add]
  | cons line a ih => rw [List.cons_append, widths, widths, ih, Nat.add_assoc (line.length + 1)]

theorem widths_take_le (lines : List (List Char)) {m n : Nat} (h : m ≤ n) :
    widths (lines.take m) ≤ widths (lines.take n) := by
  obtain ⟨k, rfl⟩ := Nat.exists_eq_add_of_le h
  rw [List.take_add, widths_append]
  exact Nat.le_add_right _ _

theorem widths_take_succ {lines : List (List Char)} {n : Nat} {line : List Char}
    (found : lines[n]? = some line) :
    widths (lines.take (n + 1)) = widths (lines.take n) + (line.length + 1) := by
  rw [List.take_add_one, found, widths_append]
  rfl

/-- A later line is behind every column of an earlier one. -/
theorem offset_lt_offset {a b : Nat × Nat} (ha : HasPlace text a) (h : toLex a < toLex b) :
    offset text a < offset text b := by
  have first := ha.column_pos
  obtain later | ⟨same, later⟩ := Prod.Lex.toLex_lt_toLex.mp h
  · obtain ⟨line, found, inside⟩ := ha.column_le
    have next : a.1 - 1 + 1 ≤ b.1 - 1 := by
      have := ha.line_pos
      omega
    have before := widths_take_le (text.splitOn '\n') next
    rw [widths_take_succ found] at before
    rw [offset, offset]
    omega
  · rw [offset, offset, same]
    omega

/-! ## Cutting a text -/

/-- One more character at the front begins a line of its own or makes the first line longer. -/
theorem splitOn_cons (x : Char) (text : List Char) : ∃ line lines,
    text.splitOn '\n' = line :: lines ∧
      (x :: text).splitOn '\n' = if x = '\n' then [] :: line :: lines else (x :: line) :: lines := by
  obtain ⟨line, lines, cut⟩ := List.exists_cons_of_ne_nil (List.splitOn_ne_nil '\n' text)
  refine ⟨line, lines, cut, ?_⟩
  rw [List.splitOn_cons_eq_if_modifyHead, cut, List.modifyHead_cons]
  simp only [beq_iff_eq]

theorem length_splitOn (text : List Char) :
    (text.splitOn '\n').length = text.count '\n' + 1 := by
  induction text with
  | nil => rfl
  | cons x text ih =>
      obtain ⟨line, lines, cut, cut'⟩ := splitOn_cons x text
      rw [cut] at ih
      rw [cut', List.count_cons]
      split
      next feed => simp [feed, ← ih]
      next other => simp [other, ← ih]

/-- The lines make up the text, and the last one has no line feed. -/
theorem widths_splitOn (text : List Char) : widths (text.splitOn '\n') = text.length + 1 := by
  induction text with
  | nil => rfl
  | cons x text ih =>
      obtain ⟨line, lines, cut, cut'⟩ := splitOn_cons x text
      rw [cut] at ih
      rw [cut', List.length_cons, ← ih]
      split
      · rw [widths, List.length_nil, Nat.zero_add, Nat.add_comm]
      · rw [widths, widths, List.length_cons]
        omega

/-- Characters at the front that are no line feeds belong to the first line. -/
theorem splitOn_append (h : '\n' ∉ front) (text : List Char) : ∃ line lines,
    (front ++ text).splitOn '\n' = (front ++ line) :: lines := by
  induction front with
  | nil => exact List.exists_cons_of_ne_nil (List.splitOn_ne_nil '\n' text)
  | cons x front ih =>
      obtain ⟨other, others⟩ := not_or.mp (mt List.mem_cons.mpr h)
      obtain ⟨line, lines, cut⟩ := ih others
      obtain ⟨line', lines', cut', cut''⟩ := splitOn_cons x (front ++ text)
      obtain ⟨rfl, rfl⟩ := List.cons.inj (cut.symm.trans cut')
      exact ⟨line, lines, by rw [List.cons_append, cut'', if_neg (Ne.symm other)]; rfl⟩

end Text

/-! ## Places of a text -/

namespace Cursor

variable {c : Cursor} {front before : List Char}

theorem lineColumn_of_not_mem (plain : '\n' ∉ c.passed) :
    c.lineColumn = (1, c.passed.length + 1) := by
  have same : c.passed.takeWhile (· != '\n') = c.passed := by
    refine List.takeWhile_eq_self_iff.mpr fun x mem => bne_iff_ne.mpr ?_
    rintro rfl
    exact plain mem
  rw [lineColumn, same, List.count_eq_zero_of_not_mem plain]

theorem lineColumn_of_append (plain : '\n' ∉ front) (split : c.passed = front ++ '\n' :: before) :
    c.lineColumn = (before.count '\n' + 1 + 1, front.length + 1) := by
  have same : c.passed.takeWhile (· != '\n') = front := by
    rw [split, List.takeWhile_append_of_pos, List.takeWhile_cons_of_neg, List.append_nil]
    · decide
    · intro x mem
      refine bne_iff_ne.mpr ?_
      rintro rfl
      exact plain mem
  rw [lineColumn, same, split, List.count_append, List.count_eq_zero_of_not_mem plain,
    List.count_cons_self, Nat.zero_add]

/-- The line of a place, cut there in two, and the lines before it decide everything. -/
theorem exists_lines (c : Cursor) : ∃ earlier front back later,
    c.source.splitOn '\n' = earlier ++ (front ++ back) :: later ∧
      c.lineColumn = (earlier.length + 1, front.length + 1) ∧
      c.pos = Text.widths earlier + front.length := by
  by_cases feed : '\n' ∈ c.passed
  · obtain ⟨front, before, split, plain⟩ := List.eq_append_cons_of_mem feed
    obtain ⟨back, later, cut⟩ := Text.splitOn_append (mt List.mem_reverse.mp plain) c.rest
    have source : c.source = before.reverse ++ '\n' :: (front.reverse ++ c.rest) := by
      simp [Cursor.source, split]
    refine ⟨before.reverse.splitOn '\n', front.reverse, back, later, ?_, ?_, ?_⟩
    · rw [source, List.splitOn_append_cons_self, cut]
    · rw [lineColumn_of_append plain split, Text.length_splitOn, List.count_reverse,
        List.length_reverse]
    · rw [pos, split, Text.widths_splitOn, List.length_append, List.length_cons,
        List.length_reverse, List.length_reverse, Nat.add_comm]
  · obtain ⟨back, later, cut⟩ := Text.splitOn_append (mt List.mem_reverse.mp feed) c.rest
    refine ⟨[], c.passed.reverse, back, later, cut, ?_, ?_⟩
    · rw [lineColumn_of_not_mem feed, List.length_reverse]
      rfl
    · rw [List.length_reverse, pos]
      exact (Nat.zero_add _).symm

/-- The line and the column of a place lie in its text. -/
theorem hasPlace_lineColumn (c : Cursor) : Text.HasPlace c.source c.lineColumn := by
  obtain ⟨earlier, front, back, later, cut, place, -⟩ := c.exists_lines
  rw [place]
  refine ⟨Nat.le_add_left 1 _, ?_, Nat.le_add_left 1 _, front ++ back, ?_, ?_⟩
  · rw [cut, List.length_append, List.length_cons]
    omega
  · rw [cut, Nat.add_sub_cancel, List.getElem?_append_right (Nat.le_refl _), Nat.sub_self]
    rfl
  · rw [List.length_append]
    omega

/-- They stand for its position. -/
theorem offset_lineColumn (c : Cursor) : Text.offset c.source c.lineColumn = c.pos := by
  obtain ⟨earlier, front, back, later, cut, place, pos⟩ := c.exists_lines
  rw [Text.offset, place, cut, Nat.add_sub_cancel, Nat.add_sub_cancel, List.take_left, pos]

/-- The line and the column of a place determine where it is: they lie in the text, they stand for
the position, and those of two places are equal or in order as the positions are. -/
theorem lineColumn_determines (c : Cursor) :
    Text.HasPlace c.source c.lineColumn ∧ Text.offset c.source c.lineColumn = c.pos ∧
      ∀ d : Cursor, d.source = c.source →
        (c.lineColumn = d.lineColumn ↔ c.pos = d.pos) ∧
          (toLex c.lineColumn < toLex d.lineColumn ↔ c.pos < d.pos) := by
  refine ⟨c.hasPlace_lineColumn, c.offset_lineColumn, fun d same => ?_⟩
  have equal (h : c.lineColumn = d.lineColumn) : c.pos = d.pos := by
    rw [← c.offset_lineColumn, ← d.offset_lineColumn, same, h]
  have ahead (h : toLex c.lineColumn < toLex d.lineColumn) : c.pos < d.pos := by
    rw [← c.offset_lineColumn, ← d.offset_lineColumn, same]
    exact Text.offset_lt_offset c.hasPlace_lineColumn h
  have behind (h : toLex d.lineColumn < toLex c.lineColumn) : d.pos < c.pos := by
    rw [← c.offset_lineColumn, ← d.offset_lineColumn, same]
    exact Text.offset_lt_offset (same ▸ d.hasPlace_lineColumn) h
  refine ⟨⟨equal, fun h => congrArg lineColumn (eq_of_source_of_pos same.symm h)⟩, ahead, ?_⟩
  intro less
  by_contra notLess
  obtain h | h := (not_lt.mp notLess).eq_or_lt
  · exact less.ne (equal (toLex.injective h).symm)
  · exact less.asymm (behind h)

/-- The place before a line feed is the last one of its line, and the place behind it is the first
one of the next line. -/
theorem lineColumn_around_feed :
    let c := ofChars "ab\ncd".toList 2
    let d := ofChars "ab\ncd".toList 3
    d.source = c.source ∧ c.lineColumn = (1, 3) ∧ d.lineColumn = (2, 1) ∧
      toLex c.lineColumn < toLex d.lineColumn := by
  intro c d
  have same : d.source = c.source := rfl
  have order := ((c.lineColumn_determines).2.2 d same).2
  exact ⟨same, rfl, rfl, order.mpr (by decide)⟩

end Cursor

end Descent
