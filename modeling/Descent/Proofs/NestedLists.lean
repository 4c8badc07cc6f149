import Descent.Grammar.Standard
import Descent.Proofs.Composition
import Descent.Proofs.Demand

/-!
# Nested lists of integers

The grammar of integers and bracketed lists of the same, read back from everything that
writes such a value down (`Grammar.run_nestedList`).  A value demands as many levels as its
lists are nested, no more and no fewer.  An empty list demands one too, since whether there
is a first element is found out one level deeper.

The written forms of a list and of the elements after its first one are defined together,
and the demand of a form is found by going along with them (`NestedList.Written.reads`).
-/

namespace Descent

/-! ## Values -/

/-- An integer, or a list of such values. -/
inductive NestedList where
  | number (n : Int)
  | list (items : List NestedList)

namespace NestedList

mutual

/-- How deep the lists of a value are nested.  An integer is no list. -/
def depth : NestedList → Nat
  | number _ => 0
  | list items => depthAll items + 1

/-- How deep the lists of several values are nested. -/
def depthAll : List NestedList → Nat
  | [] => 0
  | t :: ts => max t.depth (depthAll ts)

end

/-! ## Written forms -/

mutual

/-- The text writes the value down. -/
inductive Written : NestedList → List Char → Prop where
  | number {n : Int} {text : List Char} : Numeral n text → Written (number n) text
  | nil : Written (list []) ['[', ']']
  | cons {t : NestedList} {ts : List NestedList} {text tail : List Char} :
      Written t text → WrittenTail ts tail →
        Written (list (t :: ts)) ('[' :: (text ++ (tail ++ [']'])))

/-- The text writes elements down that come after another one: each with a comma before it
and any blanks between. -/
inductive WrittenTail : List NestedList → List Char → Prop where
  | nil : WrittenTail [] []
  | cons {t : NestedList} {ts : List NestedList} {blanks text tail : List Char} :
      (∀ x ∈ blanks, Text.isBlank x = true) → Written t text → WrittenTail ts tail →
        WrittenTail (t :: ts) (',' :: (blanks ++ (text ++ tail)))

end

/-- What may follow a value: an integer is not followed by one more digit. -/
def MayPrecede : NestedList → List Char → Prop
  | number _, rest => ∀ x ∈ rest.head?, x.isDigit = false
  | list _, _ => True

end NestedList

/-! ## The grammar -/

namespace Grammar

/-- An integer, or a list of such values in brackets. -/
def nestedList (_ : Unit) : Grammar (fun _ : Unit => NestedList) NestedList :=
  (NestedList.number <$> number).orElse
    (((token "[").keepRight (NestedList.list <$> (rule () "value").separated comma)).keepLeft
      (token "]"))

end Grammar

namespace NestedList

open Descent.Parser (Reads Refuses)

/-! ## Parsers of the parts -/

/-- The parser of a value. -/
def value : Parser NestedList := (Grammar.nestedList ()).parser Grammar.nestedList

/-- The parser of what stands between elements. -/
def separator : Parser Unit := Grammar.comma.parser Grammar.nestedList

/-- The parser of the elements of a list. -/
def items : Parser (List NestedList) := value.nested.sequence "value" {} separator

theorem value_eq : value =
    (Parser.number.mapOrStop fun n => .ok (number n)).orElse
      (((Parser.token "[").keepRight (items.mapOrStop fun ts => .ok (list ts))).keepLeft
        (Parser.token "]")) := by
  conv_lhs => rw [value, Grammar.nestedList, Grammar.parser_orElse, Grammar.parser_keepLeft,
    Grammar.parser_keepRight, Grammar.parser_functor, Grammar.parser_functor,
    Grammar.parser_separated, Grammar.parser_rule]
  rfl

theorem separator_eq : separator =
    ((Parser.token ",").keepRight (Parser.span Text.isBlank true .whitespace)).mapOrStop
      fun _ => .ok () := by
  conv_lhs => rw [separator, Grammar.comma, Grammar.parser_named, Grammar.parser_functor,
    Grammar.parser_keepRight]
  rfl

theorem reads_separator {blanks rest : List Char} (blank : ∀ x ∈ blanks, Text.isBlank x = true)
    (stop : ∀ x ∈ rest.head?, Text.isBlank x = false) :
    Reads separator () 0 (',' :: blanks) rest := by
  rw [separator_eq]
  exact ((Parser.reads_token ",").keepRight (Parser.reads_span _ blank stop)).map _

/-- No separator begins with a closing bracket. -/
theorem refuses_separator (rest : List Char) : Refuses separator (']' :: rest) := by
  rw [separator_eq]
  exact ((Parser.refuses_token (by simp)).keepRight _).map _

/-- No value begins with a closing bracket. -/
theorem refuses_value (rest : List Char) : Refuses value (']' :: rest) := by
  rw [value_eq]
  refine ((Parser.refuses_number rfl (by decide)).map _).orElse ?_
  exact (Refuses.keepRight (Parser.refuses_token (by simp)) _).keepLeft _

theorem reads_value_of_numeral {n : Int} {text rest : List Char} (written : Numeral n text)
    (stop : ∀ x ∈ rest.head?, x.isDigit = false) : Reads value (number n) 0 text rest := by
  rw [value_eq]
  exact ((Parser.reads_number written stop).map number).orElse_left _

/-- The brackets demand nothing. -/
theorem reads_value_of_items {ts : List NestedList} {levels : Nat} {text rest : List Char}
    (read : Reads items ts levels text (']' :: rest)) :
    Reads value (list ts) levels ('[' :: (text ++ [']'])) rest := by
  rw [value_eq]
  refine .orElse_right ((Parser.refuses_number rfl (by decide)).map _) ?_
  have opened := (Parser.reads_token "[").keepRight (read.map list)
  simpa using opened.keepLeft (Parser.reads_token "]")

/-! ## Written forms are read -/

theorem isBlank_of_isDigit {x : Char} (h : x.isDigit = true) : Text.isBlank x = false := by
  simp only [Char.isDigit, ge_iff_le, Bool.and_eq_true, decide_eq_true_eq,
    UInt32.le_iff_toNat_le] at h
  obtain ⟨low, high⟩ := h
  have low : 48 ≤ x.toNat := low
  have high : x.toNat ≤ 57 := high
  simp [Text.isBlank]
  omega

/-- No written form begins with a blank. -/
theorem Written.isBlank_head? {t : NestedList} {text : List Char} (h : Written t text)
    (rest : List Char) : ∀ x ∈ (text ++ rest).head?, Text.isBlank x = false := by
  cases h with
  | number numeral =>
      cases numeral with
      | plain h =>
          obtain ⟨x, tail, rfl⟩ := List.exists_cons_of_ne_nil h.ne_nil
          simpa using isBlank_of_isDigit (h.isDigit x (.head _))
      | negative h => simpa using (by decide : Text.isBlank '-' = false)
  | nil => simpa using (by decide : Text.isBlank '[' = false)
  | cons h tail => simpa using (by decide : Text.isBlank '[' = false)

/-- What comes after an element is a comma or the closing bracket. -/
theorem WrittenTail.mayPrecede {ts : List NestedList} {tail : List Char} (h : WrittenTail ts tail)
    (t : NestedList) (rest : List Char) : t.MayPrecede (tail ++ ']' :: rest) := by
  cases t with
  | list items => exact trivial
  | number n =>
      cases h with
      | nil => simp [MayPrecede]
      | cons => simp [MayPrecede]

/-- What the rounds of a sequence demand.  Each element is one level deeper. -/
def roundsDepth : List NestedList → Nat
  | [] => 0
  | t :: ts => max (t.depth + 1) (roundsDepth ts)

theorem max_one_roundsDepth (ts : List NestedList) :
    max 1 (roundsDepth ts) = depthAll ts + 1 := by
  induction ts with
  | nil => rfl
  | cons t ts ih =>
      simp only [roundsDepth, depthAll]
      omega

mutual

theorem Written.reads {t : NestedList} {text : List Char} (h : Written t text) {rest : List Char}
    (follow : t.MayPrecede rest) : Reads value t t.depth text rest := by
  cases h with
  | number numeral => exact reads_value_of_numeral numeral follow
  | nil =>
      exact reads_value_of_items ((refuses_value _).reads_sequence_nil "value" {} separator rfl)
  | @cons t ts text tail first others =>
      -- What follows the first element never is a digit, so it may be an integer.
      have head := (first.reads (others.mayPrecede t rest)).nested
      have elements := head.sequence_cons "value" {} (others.reads rest)
      have levels : max (t.depth + 1) (roundsDepth ts) = (list (t :: ts)).depth := by
        have rounds := max_one_roundsDepth ts
        simp only [depth, depthAll]
        omega
      rw [← levels, ← List.append_assoc]
      exact reads_value_of_items elements

theorem WrittenTail.reads {ts : List NestedList} {text : List Char} (h : WrittenTail ts text)
    (rest : List Char) :
    Reads (Parser.rounds "value" {} value.nested separator) ts (roundsDepth ts) text
      (']' :: rest) := by
  cases h with
  | nil => exact Parser.reads_rounds_nil "value" {} value.nested (refuses_separator rest)
  | @cons t ts blanks text tail blank first others =>
      -- The blanks end where the element begins.
      have comma := reads_separator blank (first.isBlank_head? (tail ++ ']' :: rest))
      have element := (first.reads (others.mayPrecede t rest)).nested
      have round := comma.rounds_cons "value" {} element (others.reads rest) (List.cons_ne_nil _ _)
      rwa [Nat.zero_max] at round

end

end NestedList

namespace Grammar

/-- A value is read back from every text that writes it down, with the cursor right behind
the text, where as many levels are left as its lists are nested.  Where there are fewer, the
run stops at the limit and leaves the cursor and the nesting as they were. -/
theorem run_nestedList {t : NestedList} {text rest : List Char} (written : t.Written text)
    (follow : t.MayPrecede rest) (passed : List Char) (g : Nesting) :
    (t.depth ≤ g.budget →
      (nestedList ()).run nestedList ⟨⟨passed, text ++ rest⟩, g⟩ =
        .ok t ⟨⟨text.reverse ++ passed, rest⟩, g⟩) ∧
    (g.budget < t.depth →
      (nestedList ()).run nestedList ⟨⟨passed, text ++ rest⟩, g⟩ =
        .stop (.tooDeep g.limit) ⟨⟨passed, text ++ rest⟩, g⟩) := by
  have read := written.reads follow
  constructor
  · intro enough
    have ended := read.ok_of_le (s := ⟨⟨passed, text ++ rest⟩, g⟩) rfl enough
    rw [run_of_ok nestedList ended]
    simp [State.past, State.moveTo, Cursor.advance]
  · intro few
    obtain ⟨t, stopped⟩ := read.stop_of_lt (s := ⟨⟨passed, text ++ rest⟩, g⟩) rfl few
    have later := forward nestedList (nestedList ()) ⟨⟨passed, text ++ rest⟩, g⟩
    rw [← NestedList.value, stopped] at later
    -- The alternatives of the grammar put the cursor back.
    have same : t = ⟨⟨passed, text ++ rest⟩, g⟩ :=
      Parser.eq_of_atomic_stop (NestedList.value_eq ▸ stopped) later
    rw [run_of_tooDeep nestedList stopped, same]

/-- Three lists deep, with three levels and with two. -/
theorem run_nestedList_three_deep :
    let t : NestedList := .list [.number 1, .list [.number (-2), .list []], .number 3]
    let s (limit : Int) : State := ⟨.start "[1, [-2,  []],3], 4", ⟨limit, 0⟩⟩
    (nestedList ()).run nestedList (s 3) =
        .ok t ⟨⟨"[1, [-2,  []],3]".toList.reverse, ", 4".toList⟩, ⟨3, 0⟩⟩ ∧
      (nestedList ()).run nestedList (s 2) = .stop (.tooDeep 2) (s 2) := by
  have one : NestedList.Written (.number 1) ['1'] := .number (numeral_repr 1 (by decide))
  have minusTwo : NestedList.Written (.number (-2)) ['-', '2'] :=
    .number (numeral_repr (-2) (by decide))
  have three : NestedList.Written (.number 3) ['3'] := .number (numeral_repr 3 (by decide))
  have inner := NestedList.Written.cons minusTwo
    (@NestedList.WrittenTail.cons _ _ [' ', ' '] _ _ (List.all_eq_true.mp rfl) .nil .nil)
  have last := @NestedList.WrittenTail.cons _ _ [] _ _ nofun three .nil
  have written := NestedList.Written.cons one
    (@NestedList.WrittenTail.cons _ _ [' '] _ _ (List.all_eq_true.mp rfl) inner last)
  have read (g : Nesting) := @run_nestedList _ _ ", 4".toList written trivial [] g
  exact ⟨(read ⟨3, 0⟩).1 (by decide), (read ⟨2, 0⟩).2 (by decide)⟩

end Grammar

end Descent
