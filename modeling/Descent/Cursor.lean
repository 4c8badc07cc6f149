/-!
# Cursors

A cursor is a place in a text.  It holds the characters on its two sides: those
already *passed*, nearest first, and the *rest*.  So every cursor lies within its
text, moving forward shares the text, and going back is keeping an older cursor.

What a parser may see is the rest.  `source` and `pos` say where the cursor
stands in the whole text, and `lineColumn` says it for a reader.  `source_advance`
and `rest_advance` state how a cursor moves: over its own text, to the right, and
not past the end.
-/

namespace Descent

/-- A place in a text. -/
structure Cursor where
  /-- The characters before the place, nearest first. -/
  passed : List Char := []
  /-- The characters from the place on. -/
  rest : List Char
  deriving DecidableEq

/-- Why there is no cursor or no character where one was asked for. -/
inductive CursorError where
  /-- The position lies outside a text of this length. -/
  | outside (length : Nat) (pos : Int)
  /-- The current character was asked for at the end. -/
  | atEnd (pos : Nat)
  /-- The index lies before the text, even when counted from its end. -/
  | noSuchIndex
  deriving DecidableEq

namespace CursorError

/-- The text of the error. -/
def message : CursorError → String
  | outside length pos => s!"Cursor.pos must be within 0..{length}, got {pos}"
  | atEnd pos => s!"Unexpected EOF at position {pos}"
  | noSuchIndex => "string index out of range"

end CursorError

namespace Cursor

/-! ## Views -/

/-- The whole text. -/
def source (c : Cursor) : List Char := c.passed.reverse ++ c.rest

/-- The number of characters before the place. -/
def pos (c : Cursor) : Nat := c.passed.length

/-- The unread text. -/
def remaining (c : Cursor) : String := String.ofList c.rest

/-- Nothing is left to read. -/
def isAtEnd (c : Cursor) : Bool := c.rest.isEmpty

/-! ## Placing -/

/-- The cursor before the first character of a text. -/
def start (text : String) : Cursor := ⟨[], text.toList⟩

/-- The cursor after the first `n` characters of a text, or at its end. -/
def ofChars (text : List Char) (n : Nat) : Cursor := ⟨(text.take n).reverse, text.drop n⟩

/-- The cursor at a position of a text, from the front to the end inclusive. -/
def at? (text : String) (pos : Int) : Except CursorError Cursor :=
  if 0 ≤ pos ∧ pos ≤ text.length then .ok (ofChars text.toList pos.toNat)
  else .error (.outside text.length pos)

/-! ## Moving -/

/-- The cursor `n` characters further, or at the end. -/
def advance (c : Cursor) (n : Nat) : Cursor :=
  ⟨(c.rest.take n).reverse ++ c.passed, c.rest.drop n⟩

/-- The cursor moved by any distance.  Beyond the end it stops there, and before
the front there is no cursor. -/
def move? (c : Cursor) (count : Int) : Except CursorError Cursor :=
  let target := min (c.pos + count) c.source.length
  if 0 ≤ target then .ok (ofChars c.source target.toNat)
  else .error (.outside c.source.length target)

/-- The longest run of characters of a class, and the cursor behind it. -/
def takeWhile (c : Cursor) (p : Char → Bool) : List Char × Cursor :=
  let run := c.rest.takeWhile p
  (run, c.advance run.length)

/-! ## Looking -/

/-- The unread text begins with `text`. -/
def startsWith (c : Cursor) (text : String) : Bool := text.toList.isPrefixOf c.rest

/-- The character at the place. -/
def current? (c : Cursor) : Except CursorError Char :=
  match c.rest with
  | x :: _ => .ok x
  | [] => .error (.atEnd c.pos)

/-- The character at a distance from the place, if the text reaches so far.  A
place before the front counts from the end of the text. -/
def peek? (c : Cursor) (offset : Int) : Except CursorError (Option Char) :=
  let target := c.pos + offset
  let index := if target < 0 then target + c.source.length else target
  if index < 0 then .error .noSuchIndex else .ok c.source[index.toNat]?

/-- The text from the place to an end position.  A negative end counts from the
end of the text, and an end before the place gives nothing. -/
def slice (c : Cursor) (stop : Int) : String :=
  let stop := if stop < 0 then max 0 (stop + c.source.length) else stop
  String.ofList (c.rest.take (stop - c.pos).toNat)

/-- The text from the place to a later cursor of the same text. -/
def textTo (c later : Cursor) : String :=
  String.ofList (c.rest.take (later.pos - c.pos))

/-- The line and the column of the place, both counted from one.  Only a line
feed ends a line. -/
def lineColumn (c : Cursor) : Nat × Nat :=
  (c.passed.count '\n' + 1, (c.passed.takeWhile (· != '\n')).length + 1)

/-! ## How the operations look through the views -/

@[simp] theorem source_start (text : String) : (start text).source = text.toList := by
  simp [start, source]

@[simp] theorem pos_start (text : String) : (start text).pos = 0 := rfl

@[simp] theorem source_ofChars (text : List Char) (n : Nat) : (ofChars text n).source = text := by
  simp [ofChars, source]

@[simp] theorem advance_zero (c : Cursor) : c.advance 0 = c := by
  simp [advance]

@[simp] theorem rest_advance (c : Cursor) (n : Nat) : (c.advance n).rest = c.rest.drop n := rfl

@[simp] theorem source_advance (c : Cursor) (n : Nat) : (c.advance n).source = c.source := by
  simp [advance, source]

theorem pos_advance (c : Cursor) (n : Nat) :
    (c.advance n).pos = c.pos + min n c.rest.length := by
  simp [advance, pos, Nat.add_comm]

/-- Two steps are one step of their total length. -/
theorem advance_advance (c : Cursor) (m n : Nat) :
    (c.advance m).advance n = c.advance (m + n) := by
  simp [advance, List.take_add]

/-- A step from anywhere but the end leaves less to read. -/
theorem length_rest_advance_lt {c : Cursor} (h : ¬ c.isAtEnd = true) {n : Nat} (hn : 0 < n) :
    (c.advance n).rest.length < c.rest.length := by
  have hpos : 0 < c.rest.length := List.length_pos_iff.mpr (by simpa [isAtEnd] using h)
  simp only [rest_advance, List.length_drop]
  omega

/-- The positions and the rest add up to the text. -/
theorem pos_add_length_rest (c : Cursor) : c.pos + c.rest.length = c.source.length := by
  simp [pos, source]

/-- What is left of the text behind the position is the rest. -/
theorem drop_pos_source (c : Cursor) : c.source.drop c.pos = c.rest := by
  rw [source, pos, ← List.length_reverse, List.drop_left]

/-- A cursor is known by its text and its position. -/
theorem eq_of_source_of_pos {c d : Cursor} (hs : c.source = d.source) (hp : c.pos = d.pos) :
    c = d := by
  obtain ⟨p, r⟩ := c
  obtain ⟨q, t⟩ := d
  obtain ⟨h₁, h₂⟩ := List.append_inj hs (by simpa [pos] using hp)
  simp_all

end Cursor

end Descent
