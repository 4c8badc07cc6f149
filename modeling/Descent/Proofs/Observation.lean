import Descent.Proofs.Closure

/-!
# What a cursor shows

Cursors that have the same text ahead look the same, whatever stands behind them
(`Cursor.LooksAlike`): each of them is at the end or none is, and they agree on the current
character, on the rest and on how it begins, and on every run of a class of characters.  They also
agree on the character at a distance ahead.

A distance back is the exception.  `peek?` refuses no place that is before the cursor, and goes on
at the end of the text when it comes to the front.  So what it meets is first the passed
characters and then the whole text, backwards (`Cursor.backward`), and a place is refused only
behind that.  From what is met in this way the front can be read off.  Two cursors with the same
text ahead therefore answer alike at every distance only if they are one cursor
(`Cursor.looksAlike_suffix`).
-/

namespace Descent

/-! ## Errors without their places -/

/-- The kinds of errors of a cursor. -/
inductive CursorErrorKind where
  /-- A position outside the text. -/
  | outside
  /-- No current character. -/
  | atEnd
  /-- No character at an index. -/
  | noSuchIndex
  deriving DecidableEq

/-- The kind of an error, which leaves out the positions that it names. -/
def CursorError.kind : CursorError → CursorErrorKind
  | outside _ _ => .outside
  | atEnd _ => .atEnd
  | noSuchIndex => .noSuchIndex

namespace Cursor

variable {c d : Cursor}

/-! ## Looking at the rest -/

/-- The cursors give the same answers about what is at the place and ahead of it, or errors of the
same kind. -/
structure LooksAlike (c d : Cursor) : Prop where
  /-- Both are at the end, or none. -/
  isAtEnd : c.isAtEnd = d.isAtEnd
  /-- They have the same current character, or none. -/
  current : c.current?.mapError CursorError.kind = d.current?.mapError CursorError.kind
  /-- They have the same text ahead. -/
  remaining : c.remaining = d.remaining
  /-- It begins with the same texts. -/
  startsWith : ∀ text, c.startsWith text = d.startsWith text
  /-- The same characters of a class are taken. -/
  taken : ∀ p, (c.takeWhile p).1 = (d.takeWhile p).1
  /-- The same text is ahead of the cursors behind them. -/
  left : ∀ p, (c.takeWhile p).2.remaining = (d.takeWhile p).2.remaining

theorem looksAlike_of_rest_eq (rest : c.rest = d.rest) : LooksAlike c d where
  isAtEnd := by rw [isAtEnd, isAtEnd, rest]
  current := by
    rw [current?, current?, rest]
    cases d.rest <;> rfl
  remaining := by rw [remaining, remaining, rest]
  startsWith text := by rw [startsWith, startsWith, rest]
  taken p := by rw [takeWhile, takeWhile, rest]
  left p := by rw [takeWhile, takeWhile, remaining, remaining, rest_advance, rest_advance, rest]

/-! ## Looking back -/

/-- The cursors give the same answer about the character at a distance, or errors of the same
kind. -/
def PeeksAlike (c d : Cursor) (offset : Int) : Prop :=
  (c.peek? offset).mapError CursorError.kind = (d.peek? offset).mapError CursorError.kind

instance (c d : Cursor) (offset : Int) : Decidable (PeeksAlike c d offset) :=
  inferInstanceAs (Decidable (_ = _))

/-- What is met on the way back from a cursor: the passed characters, and behind the first of them
the text again, from its end. -/
def backward (c : Cursor) : List Char := c.passed ++ c.source.reverse

/-- The answer to looking back over `n` characters. -/
def lookBack (c : Cursor) (n : Nat) : Except CursorError (Option Char) :=
  match c.backward[n]? with
  | some x => .ok (some x)
  | none => .error .noSuchIndex

/-- A place back within the passed characters. -/
theorem peek?_of_lt_pos {n : Nat} (h : n < c.pos) : c.peek? (-(n + 1 : Nat)) = c.lookBack n := by
  have inside : ¬ ((c.pos : Int) + -(n + 1 : Nat) < 0) := by omega
  have index : ((c.pos : Int) + -(n + 1 : Nat)).toNat = c.passed.reverse.length - 1 - n := by
    rw [List.length_reverse, ← pos]
    omega
  have found : c.source[c.passed.reverse.length - 1 - n]? = some c.passed[n] := by
    rw [source, List.getElem?_append_left (by rw [List.length_reverse, ← pos]; omega),
      ← List.getElem?_reverse (by rwa [List.length_reverse]), List.reverse_reverse,
      List.getElem?_eq_getElem h]
  have met : c.backward[n]? = some c.passed[n] := by
    rw [backward, List.getElem?_append_left h, List.getElem?_eq_getElem h]
  simp only [peek?, lookBack, inside, index, found, met, if_false]

/-- A place back before the front. -/
theorem peek?_of_pos_le {n : Nat} (h : c.pos ≤ n) : c.peek? (-(n + 1 : Nat)) = c.lookBack n := by
  have before : (c.pos : Int) + -(n + 1 : Nat) < 0 := by omega
  have met : c.backward[n]? = c.source.reverse[n - c.pos]? := List.getElem?_append_right h
  simp only [peek?, lookBack, before, met, if_true]
  by_cases inside : n - c.pos < c.source.length
  · have index : ((c.pos : Int) + -(n + 1 : Nat) + c.source.length).toNat =
        c.source.length - 1 - (n - c.pos) := by omega
    rw [if_neg (by omega), index, List.getElem?_reverse inside,
      List.getElem?_eq_getElem (by omega)]
  · rw [if_pos (by omega), List.getElem?_eq_none (by rw [List.length_reverse]; omega)]

/-- Looking back goes on at the end of the text where it comes to the front. -/
theorem peek?_back (c : Cursor) (n : Nat) : c.peek? (-(n + 1 : Nat)) = c.lookBack n := by
  obtain h | h := Nat.lt_or_ge n c.pos
  · exact peek?_of_lt_pos h
  · exact peek?_of_pos_le h

theorem lookBack_alike_iff (c d : Cursor) (n : Nat) :
    (c.lookBack n).mapError CursorError.kind = (d.lookBack n).mapError CursorError.kind ↔
      c.backward[n]? = d.backward[n]? := by
  rw [lookBack, lookBack]
  cases c.backward[n]? <;> cases d.backward[n]? <;> simp [Except.mapError]

/-- With the same text ahead, cursors agree on every character ahead, and on a character back if
the same one is met there. -/
theorem peeksAlike_iff (rest : c.rest = d.rest) (offset : Int) :
    PeeksAlike c d offset ↔
      0 ≤ offset ∨ c.backward[offset.natAbs - 1]? = d.backward[offset.natAbs - 1]? := by
  by_cases ahead : 0 ≤ offset
  · obtain ⟨n, rfl⟩ := Int.eq_ofNat_of_zero_le ahead
    rw [PeeksAlike, peek?_natCast, peek?_natCast, rest]
    exact iff_of_true rfl (.inl ahead)
  · obtain ⟨n, rfl⟩ : ∃ n : Nat, offset = -(n + 1 : Nat) := ⟨offset.natAbs - 1, by omega⟩
    rw [PeeksAlike, peek?_back, peek?_back, lookBack_alike_iff, Int.natAbs_neg,
      Int.natAbs_natCast, Nat.add_sub_cancel]
    exact ⟨.inr, fun h => h.resolve_left ahead⟩

/-- What is met on the way back tells where the text ahead began. -/
theorem eq_of_backward_eq (rest : c.rest = d.rest) (h : c.backward = d.backward) : c = d := by
  have length : c.passed.length = d.passed.length := by
    have := congrArg List.length h
    simp only [backward, source, rest, List.length_append, List.length_reverse] at this
    omega
  obtain ⟨passed, -⟩ := List.append_inj h length
  obtain ⟨_, _⟩ := c
  obtain ⟨_, _⟩ := d
  exact congrArg₂ Cursor.mk passed rest

theorem eq_of_peeksAlike (rest : c.rest = d.rest) (h : ∀ offset, PeeksAlike c d offset) :
    c = d := by
  refine eq_of_backward_eq rest (List.ext_getElem? fun n => ?_)
  have alike := h (-(n + 1 : Nat))
  rwa [PeeksAlike, peek?_back, peek?_back, lookBack_alike_iff] at alike

/-! ## Behind two fronts -/

/-- The cursor behind a front, before the rest of a text. -/
def behind (front rest : List Char) : Cursor := ofChars (front ++ rest) front.length

theorem rest_behind (front rest : List Char) : (behind front rest).rest = rest := List.drop_left

theorem source_behind (front rest : List Char) : (behind front rest).source = front ++ rest :=
  source_ofChars _ _

/-- Behind any two fronts, cursors look alike.  They agree on the character at a distance if this
is ahead, or the same character is met on the way back; and on the characters at all distances
only if the fronts are the same. -/
theorem looksAlike_suffix (front front' rest : List Char) :
    LooksAlike (behind front rest) (behind front' rest) ∧
      (∀ offset, PeeksAlike (behind front rest) (behind front' rest) offset ↔
        0 ≤ offset ∨ (behind front rest).backward[offset.natAbs - 1]? =
          (behind front' rest).backward[offset.natAbs - 1]?) ∧
      ((∀ offset, PeeksAlike (behind front rest) (behind front' rest) offset) ↔
        front = front') := by
  have same : (behind front rest).rest = (behind front' rest).rest := by
    rw [rest_behind, rest_behind]
  refine ⟨looksAlike_of_rest_eq same, peeksAlike_iff same, fun alike => ?_, ?_⟩
  · have source := congrArg Cursor.source (eq_of_peeksAlike same alike)
    rw [source_behind, source_behind] at source
    exact List.append_cancel_right source
  · rintro rfl offset
    rfl

/-- Looking back over one character shows what was passed, and at the front of a text its last
character.  Looking back over two, it is refused at the front only. -/
theorem peek?_back_tells_apart :
    let c := behind ['a'] ['b']
    let d := behind [] ['b']
    c.rest = d.rest ∧ c.peek? (-1) = .ok (some 'a') ∧ d.peek? (-1) = .ok (some 'b') ∧
      c.peek? (-2) = .ok (some 'b') ∧ d.peek? (-2) = .error .noSuchIndex ∧
      ¬ ∀ offset, PeeksAlike c d offset := by
  intro c d
  have apart : ¬ PeeksAlike c d (-1) := by decide
  exact ⟨rfl, rfl, rfl, rfl, rfl, fun alike => apart (alike (-1))⟩

end Cursor

end Descent
