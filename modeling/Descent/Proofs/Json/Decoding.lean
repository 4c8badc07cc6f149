import Descent.Proofs.Json.Scalars

/-!
# Values of JSON texts

A text is read as a value exactly where it is a text of the value (`decode_eq_some_iff`).  So no
text is a text of two values.

No value begins with a blank or with what may stand behind a value (`StartsVisibly`).  That tells
where the blanks in front of a value end, and an empty array from one with items.  The rest is an
induction on the bound of the reader.
-/

namespace Descent

namespace Json

variable {α : Type}

/-! ## Where forms begin -/

section Values

variable {n : Nat} {P : Char → Prop} {R : Form α} {p : Reader α} {t rest : List Char}

/-- The text begins with a character that may not stand behind a value. -/
def StartsVisibly (t : List Char) : Prop := ∃ c u, t = c :: u ∧ ¬ IsEnd c

theorem StartsVisibly.append (h : StartsVisibly t) (rest : List Char) :
    StartsVisibly (t ++ rest) := by
  obtain ⟨c, u, rfl, visible⟩ := h
  exact ⟨c, u ++ rest, rfl, visible⟩

theorem StartsVisibly.skip_eq_self (h : StartsVisibly t) : skip t = t := by
  obtain ⟨c, u, rfl, visible⟩ := h
  have notBlank : isBlank c = false := by
    rw [Bool.eq_false_iff]
    exact fun blank => visible (.inl blank)
  exact Json.skip_eq_self (begins_cons.mpr notBlank)

theorem StartsVisibly.skip_append (h : StartsVisibly (skip t)) (rest : List Char) :
    StartsVisibly (skip (t ++ rest)) := by
  obtain ⟨b, shape, blanks⟩ := exists_blanks t
  have whole := h.append rest
  rw [shape, List.append_assoc, Json.skip_append blanks, whole.skip_eq_self]
  exact whole

/-- All forms of the kind begin visibly. -/
def Visible (R : Form α) : Prop := ∀ ⦃v : α⦄ ⦃t : List Char⦄, R v t → StartsVisibly t

/-- All forms of the kind begin visibly behind their blanks. -/
def Opens (R : Form α) : Prop := ∀ ⦃v : α⦄ ⦃t : List Char⦄, R v t → StartsVisibly (skip t)

theorem visible_string : Visible StringForm := by
  intro s t form
  cases form with
  | mk chars => exact ⟨_, _, rfl, by decide⟩

theorem NumberForm.head {v : Json} (form : NumberForm v t) :
    ∃ c u, t = c :: u ∧ (c = '-' ∨ c.isDigit = true) := by
  cases form with
  | @mk negative fraction exponent minus ds behind ending sign digits point letter =>
      cases sign with
      | minus => exact ⟨_, _, rfl, .inl rfl⟩
      | absent =>
          obtain ⟨c, ds, rfl⟩ := List.exists_cons_of_ne_nil digits.digits.ne_nil
          exact ⟨c, _, rfl, .inr (digits.digits.isDigit c (List.mem_cons_self ..))⟩

theorem visible_value : Visible ValueForm := by
  intro v t form
  cases form with
  | null | true | false => exact ⟨_, _, rfl, by decide⟩
  | number form =>
      obtain ⟨c, u, rfl, rfl | digit⟩ := form.head
      · exact ⟨_, _, rfl, by decide⟩
      · refine ⟨c, u, rfl, fun atEnd => ?_⟩
        rw [atEnd.not_number.1] at digit
        cases digit
  | string form => exact visible_string form
  | array form | object form => cases form <;> exact ⟨_, _, rfl, by decide⟩

theorem Visible.padded (visible : Visible R) : Opens (Padded R) := by
  intro v t form
  cases form with
  | @mk v before t after front form back =>
      have inner := (visible form).append after
      rw [skip_append front, inner.skip_eq_self]
      exact inner

theorem opens_member (R : Form Json) : Opens (MemberForm R) := by
  intro m t form
  cases form with
  | mk left right => exact (visible_string.padded left).skip_append _

theorem Opens.listed (opens : Opens R) : Opens (Listed R) := by
  intro vs t form
  cases form with
  | one form => exact opens form
  | cons form others => exact (opens form).skip_append _

/-! ## Parts are read -/

theorem complete_readPadded (visible : Visible R) (h : Complete n IsEnd R p) :
    Complete n IsDelimiter (Padded R) (readPadded p) := by
  intro v t rest form bound stop
  cases form with
  | @mk v before t after front form back =>
      have shorter : t.length < n := by
        simp only [List.length_append] at bound
        omega
      have behind : Begins IsEnd (after ++ rest) := by
        cases after with
        | nil => exact stop.imp fun _ => .inr
        | cons c after => exact begins_cons.mpr (.inl (back c (List.mem_cons_self ..)))
      have left : skip (after ++ rest) = rest := by
        rw [skip_append back, skip_eq_self (stop.imp ?_)]
        rintro c (rfl | rfl | rfl | rfl) <;> rfl
      have atForm : skip (before ++ (t ++ after) ++ rest) = t ++ (after ++ rest) := by
        rw [List.append_assoc, List.append_assoc, skip_append front,
          ((visible form).append _).skip_eq_self]
      simp only [readPadded, atForm, h form shorter behind, left, Option.bind_eq_bind,
        Option.bind_some, Option.pure_def]

theorem sound_readPadded (h : Sound R p) : Sound (Padded R) (readPadded p) := by
  intro t v rest read
  simp only [readPadded, Option.bind_eq_bind, Option.bind_eq_some_iff, Prod.exists] at read
  obtain ⟨v, t₁, read, same⟩ := read
  obtain ⟨rfl, rfl⟩ := Prod.mk.inj (Option.some.inj same)
  obtain ⟨u, shape, form⟩ := h read
  obtain ⟨before, whole, front⟩ := exists_blanks t
  obtain ⟨after, behind, back⟩ := exists_blanks t₁
  refine ⟨before ++ (u ++ after), ?_, .mk front form back⟩
  calc t = before ++ (u ++ t₁) := by rw [← shape, ← whole]
    _ = before ++ (u ++ (after ++ skip t₁)) := by rw [← behind]
    _ = before ++ (u ++ after) ++ skip t₁ := by simp only [List.append_assoc]

theorem complete_readListed {k : Nat} (le : k ≤ n) (h : Complete n IsDelimiter R p) :
    Complete k (fun c => IsDelimiter c ∧ c ≠ ',') (Listed R) (readListed p k) := by
  intro vs t rest form bound stop
  induction form generalizing k with
  | @one v t form =>
      obtain ⟨k, rfl⟩ := Nat.exists_eq_add_one_of_ne_zero (Nat.ne_zero_of_lt bound)
      have read := h form (Nat.lt_of_lt_of_le bound le) (stop.imp fun _ h => h.1)
      have noComma : after [','] rest = none :=
        after_singleton_eq_none_iff.mpr (stop.imp fun _ h => h.2)
      simp only [readListed, read, noComma, Option.bind_eq_bind, Option.bind_some,
        Option.pure_def]
  | @cons v vs t ts form others ih =>
      obtain ⟨k, rfl⟩ := Nat.exists_eq_add_one_of_ne_zero (Nat.ne_zero_of_lt bound)
      rw [List.length_append, List.length_cons] at bound
      have read : p (t ++ ',' :: (ts ++ rest)) = some (v, ',' :: (ts ++ rest)) :=
        h form (by omega) (begins_cons.mpr (by decide))
      have readOthers : readListed p k (ts ++ rest) = some (vs, rest) := ih (by omega) (by omega)
      simp only [readListed, List.append_assoc, List.cons_append, read, after_singleton,
        readOthers, Option.bind_eq_bind, Option.bind_some, Option.pure_def]

theorem sound_readListed (h : Sound R p) (n : Nat) : Sound (Listed R) (readListed p n) := by
  induction n with
  | zero =>
      intro t vs rest read
      cases read
  | succ n ih =>
      intro t vs rest read
      simp only [readListed, Option.bind_eq_bind, Option.bind_eq_some_iff, Prod.exists] at read
      obtain ⟨v, t₁, first, read⟩ := read
      obtain ⟨u, rfl, form⟩ := h first
      split at read
      · obtain ⟨rfl, rfl⟩ := Prod.mk.inj (Option.some.inj read)
        exact ⟨u, rfl, .one form⟩
      · next comma =>
          simp only [Option.bind_eq_some_iff, Prod.exists] at read
          obtain ⟨ws, t₃, others, same⟩ := read
          obtain ⟨rfl, rfl⟩ := Prod.mk.inj (Option.some.inj same)
          obtain ⟨w, rfl, forms⟩ := ih others
          refine ⟨u ++ ',' :: w, ?_, .cons form forms⟩
          rw [after_eq_some_iff.mp comma]
          simp

theorem complete_readEnclosed {opening closing : Char} (opens : Opens R)
    (h : Complete n IsDelimiter R p) (closes : IsDelimiter closing ∧ closing ≠ ',') :
    Complete (n + 1) P (Enclosed opening closing R) (readEnclosed opening closing p n) := by
  intro vs t rest form bound _
  cases form with
  | @empty t blanks =>
      have left : skip (t ++ closing :: rest) = closing :: rest := by
        rw [skip_append blanks, skip_eq_self (begins_cons.mpr ?_)]
        obtain ⟨rfl | rfl | rfl | rfl, -⟩ := closes <;> rfl
      simp only [readEnclosed, List.cons_append, List.append_assoc, List.nil_append,
        after_singleton, left, Option.bind_eq_bind, Option.bind_some, Option.pure_def]
  | @listed vs t forms =>
      simp only [List.length_cons, List.length_append, List.length_nil] at bound
      have notClosed : after [closing] (skip (t ++ closing :: rest)) = none := by
        obtain ⟨c, u, shape, notEnd⟩ := (opens.listed forms).skip_append (closing :: rest)
        rw [shape, after_singleton_eq_none_iff, begins_cons]
        rintro rfl
        exact notEnd (.inr closes.1)
      have read : readListed p n (t ++ closing :: rest) = some (vs, closing :: rest) :=
        complete_readListed le_rfl h forms (by omega) (begins_cons.mpr closes)
      simp only [readEnclosed, List.cons_append, List.append_assoc, List.nil_append,
        after_singleton, notClosed, read, Option.bind_eq_bind, Option.bind_some, Option.pure_def]

theorem sound_readEnclosed {opening closing : Char} (h : Sound R p) (n : Nat) :
    Sound (Enclosed opening closing R) (readEnclosed opening closing p n) := by
  intro t vs rest read
  simp only [readEnclosed, Option.bind_eq_bind, Option.bind_eq_some_iff] at read
  obtain ⟨t₁, opened, read⟩ := read
  obtain rfl := after_eq_some_iff.mp opened
  split at read
  · next closed =>
      obtain ⟨rfl, rfl⟩ := Prod.mk.inj (Option.some.inj read)
      obtain ⟨b, shape, blanks⟩ := exists_blanks t₁
      refine ⟨opening :: (b ++ [closing]), ?_, .empty blanks⟩
      rw [shape, after_eq_some_iff.mp closed]
      simp
  · simp only [Option.bind_eq_some_iff, Prod.exists] at read
    obtain ⟨ws, t₂, listed, t₃, closed, same⟩ := read
    obtain ⟨rfl, rfl⟩ := Prod.mk.inj (Option.some.inj same)
    obtain ⟨u, rfl, forms⟩ := sound_readListed h n listed
    refine ⟨opening :: (u ++ [closing]), ?_, .listed forms⟩
    rw [after_eq_some_iff.mp closed]
    simp

theorem complete_readMember {R : Form Json} {p : Reader Json} (visible : Visible R)
    (h : Complete n IsEnd R p) : Complete n IsDelimiter (MemberForm R) (readMember p) := by
  intro m t rest form bound stop
  cases form with
  | @mk name v t u left right =>
      rw [List.length_append, List.length_cons] at bound
      have strings : Complete n IsEnd StringForm readString :=
        fun _ _ _ form _ _ => readString_append form
      have readName : readPadded readString (t ++ ':' :: (u ++ rest)) =
          some (name, ':' :: (u ++ rest)) :=
        complete_readPadded visible_string strings left (by omega) (begins_cons.mpr (by decide))
      have readRight := complete_readPadded visible h right (by omega) stop
      simp only [readMember, List.append_assoc, List.cons_append, readName, after_singleton,
        readRight, Option.bind_eq_bind, Option.bind_some, Option.pure_def]

theorem sound_readMember {R : Form Json} {p : Reader Json} (h : Sound R p) :
    Sound (MemberForm R) (readMember p) := by
  intro t m rest read
  simp only [readMember, Option.bind_eq_bind, Option.bind_eq_some_iff, Prod.exists] at read
  obtain ⟨name, t₁, h₁, t₂, colon, v, t₃, h₂, same⟩ := read
  obtain ⟨rfl, rfl⟩ := Prod.mk.inj (Option.some.inj same)
  obtain ⟨u, rfl, left⟩ := sound_readPadded sound_readString h₁
  obtain ⟨w, rfl, right⟩ := sound_readPadded h h₂
  refine ⟨u ++ ':' :: w, ?_, .mk left right⟩
  rw [after_eq_some_iff.mp colon]
  simp

/-! ## Values are read -/

/-- A minus sign and a digit begin a number. -/
theorem readValue_number {c : Char} (head : c = '-' ∨ c.isDigit = true) :
    readValue (n + 1) (c :: t) = readNumber (c :: t) := by
  have other : c ≠ 'n' ∧ c ≠ 't' ∧ c ≠ 'f' ∧ c ≠ '"' ∧ c ≠ '[' ∧ c ≠ '\x7b' := by
    refine ⟨?_, ?_, ?_, ?_, ?_, ?_⟩ <;> rintro rfl <;> revert head <;> decide
  unfold readValue
  split <;> simp_all

/-- A value is read by as many steps as its text has characters. -/
theorem complete_readValue (n : Nat) : Complete n IsEnd ValueForm (readValue n) := by
  induction n with
  | zero =>
      intro v t rest _ bound
      cases bound
  | succ n ih =>
      intro v t rest form bound stop
      cases form with
      | null =>
          exact congrArg (Option.map (null, ·)) (after_append ['n', 'u', 'l', 'l'] rest)
      | true =>
          exact congrArg (Option.map (bool true, ·)) (after_append ['t', 'r', 'u', 'e'] rest)
      | false =>
          exact congrArg (Option.map (bool false, ·))
            (after_append ['f', 'a', 'l', 's', 'e'] rest)
      | number form =>
          obtain ⟨c, u, rfl, head⟩ := form.head
          rw [← readNumber_append form stop, List.cons_append, readValue_number head]
      | string form =>
          have read : readString (t ++ rest) = some (_, rest) := readString_append form
          cases form
          exact congrArg (Option.map _) read
      | array form =>
          have read := complete_readEnclosed (P := IsEnd) visible_value.padded
            (complete_readPadded visible_value ih) (by decide) form bound stop
          cases form <;> exact congrArg (Option.map _) read
      | object form =>
          have read := complete_readEnclosed (P := IsEnd) (opens_member _)
            (complete_readMember visible_value ih) (by decide) form bound stop
          cases form <;> exact congrArg (Option.map _) read

theorem sound_readValue (n : Nat) : Sound ValueForm (readValue n) := by
  induction n with
  | zero =>
      intro t v rest read
      cases read
  | succ n ih =>
      intro t v rest read
      unfold readValue at read
      split at read
      case h_7 =>
        obtain ⟨u, shape, form⟩ := sound_readNumber read
        exact ⟨u, shape, .number form⟩
      all_goals
        obtain ⟨_, inner, same⟩ := Option.map_eq_some_iff.mp read
        obtain ⟨rfl, rfl⟩ := Prod.mk.inj same
      · exact ⟨_, after_eq_some_iff.mp inner, .null⟩
      · exact ⟨_, after_eq_some_iff.mp inner, .true⟩
      · exact ⟨_, after_eq_some_iff.mp inner, .false⟩
      · obtain ⟨u, shape, form⟩ := sound_readString inner
        exact ⟨u, shape, .string form⟩
      · obtain ⟨u, shape, form⟩ := sound_readEnclosed (sound_readPadded ih) n inner
        exact ⟨u, shape, .array form⟩
      · obtain ⟨u, shape, form⟩ := sound_readEnclosed (sound_readMember ih) n inner
        exact ⟨u, shape, .object form⟩

/-- The texts of a value are the texts that are read as it. -/
theorem decode_eq_some_iff {v : Json} : decode t = some v ↔ IsText v t := by
  constructor
  · intro read
    unfold decode at read
    split at read
    · next w whole =>
        obtain rfl := Option.some.inj read
        obtain ⟨u, rfl, form⟩ := sound_readPadded (sound_readValue _) whole
        rwa [List.append_nil]
    · cases read
  · intro form
    have read : readPadded (readValue (t.length + 1)) (t ++ []) = some (v, []) :=
      complete_readPadded visible_value (complete_readValue _) form (Nat.lt_succ_self _) nofun
    rw [List.append_nil] at read
    rw [decode, read]

example : decode "[\"\\ud83d\\ude00\", -2.50]".toList =
    some (.array [.string "😀", .decimal ⟨true, 250, -2⟩]) := by rfl

/-- Half of a pair is refused. -/
example : decode "[\"\\ud83d\"]".toList = none := by rfl

end Values

end Json

end Descent
