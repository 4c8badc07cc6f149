import Descent.Proofs.Forward

/-!
# Runs step by step

Where the runs of the parts are known, so is the run of the whole.  There is one statement
for each combinator and each way in which its parts may end, and one for each terminal and
what stands ahead.  A run over a known text is put together from these, and no later proof
opens a combinator for it.
-/

namespace Descent

namespace Parser

variable {α β : Type} {p : Parser α} {q : Parser β} {s t u : State} {v : α} {w : β} {e : Stop}

/-! ## Combinators -/

theorem mapOrStop_of_ok {f : α → Except Stop β} (hp : p s = .ok v t) (hf : f v = .ok w) :
    p.mapOrStop f s = .ok w t := by
  simp only [mapOrStop, andThen, hp, Run.resume_ok, hf]
  rfl

theorem mapOrStop_of_stop (f : α → Except Stop β) (hp : p s = .stop e t) :
    p.mapOrStop f s = .stop e t := by
  simp only [mapOrStop, andThen, hp, Run.resume_stop]

theorem bind_of_ok {f : α → Parser β} (hp : p s = .ok v t) (hf : f v t = .ok w u) :
    p.bind f s = .ok w u := by
  simp only [bind, atomic, recover, andThen, hp, hf, Run.resume_ok]

theorem bind_of_ok_of_stop {f : α → Parser β} (hp : p s = .ok v t) (hf : f v t = .stop e u) :
    p.bind f s = .stop e (u.moveTo s.cursor) := by
  simp only [bind, atomic, recover, andThen, hp, hf, Run.resume_ok, Run.resume_stop]

theorem keepRight_of_ok (hp : p s = .ok v t) (hq : q t = .ok w u) :
    p.keepRight q s = .ok w u := by
  simp only [keepRight, atomic, recover, andThen, hp, hq, Run.resume_ok]

theorem keepRight_of_stop (q : Parser β) (hp : p s = .stop e t) :
    p.keepRight q s = .stop e (t.moveTo s.cursor) := by
  simp only [keepRight, atomic, recover, andThen, hp, Run.resume_stop]

theorem keepRight_of_ok_of_stop (hp : p s = .ok v t) (hq : q t = .stop e u) :
    p.keepRight q s = .stop e (u.moveTo s.cursor) := by
  simp only [keepRight, atomic, recover, andThen, hp, hq, Run.resume_ok, Run.resume_stop]

theorem keepLeft_of_ok (hp : p s = .ok v t) (hq : q t = .ok w u) : p.keepLeft q s = .ok v u := by
  simp only [keepLeft, atomic, recover, andThen, hp, hq, Run.resume_ok]
  rfl

theorem keepLeft_of_stop (q : Parser β) (hp : p s = .stop e t) :
    p.keepLeft q s = .stop e (t.moveTo s.cursor) := by
  simp only [keepLeft, atomic, recover, andThen, hp, Run.resume_stop]

theorem keepLeft_of_ok_of_stop (hp : p s = .ok v t) (hq : q t = .stop e u) :
    p.keepLeft q s = .stop e (u.moveTo s.cursor) := by
  simp only [keepLeft, atomic, recover, andThen, hp, hq, Run.resume_ok, Run.resume_stop]

theorem orElse_of_ok (q : Parser α) (hp : p s = .ok v t) : p.orElse q s = .ok v t := by
  simp only [orElse, atomic, catchFailure, recover, hp, Run.resume_ok]

/-- The second branch decides where the first one fails. -/
theorem orElse_of_failure {q : Parser α} {first : ParseError}
    (hp : p s = .stop (.failure first) t) (hq : q t = .ok v u) : p.orElse q s = .ok v u := by
  simp only [orElse, atomic, mapFailure, catchFailure, recover, hp, hq, Run.resume_ok,
    Run.resume_stop]

theorem orElse_of_failures {q : Parser α} {first second : ParseError}
    (hp : p s = .stop (.failure first) t) (hq : q t = .stop (.failure second) u) :
    p.orElse q s = .stop (.failure (.either first second)) (u.moveTo s.cursor) := by
  simp only [orElse, atomic, mapFailure, catchFailure, recover, hp, hq, Run.resume_stop]
  rfl

theorem orElse_of_tooDeep (q : Parser α) {limit : Int} (hp : p s = .stop (.tooDeep limit) t) :
    p.orElse q s = .stop (.tooDeep limit) (t.moveTo s.cursor) := by
  simp only [orElse, atomic, catchFailure, recover, hp, Run.resume_stop]

theorem orElse_of_failure_of_tooDeep {q : Parser α} {first : ParseError} {limit : Int}
    (hp : p s = .stop (.failure first) t) (hq : q t = .stop (.tooDeep limit) u) :
    p.orElse q s = .stop (.tooDeep limit) (u.moveTo s.cursor) := by
  simp only [orElse, atomic, mapFailure, catchFailure, recover, hp, hq, Run.resume_stop]

theorem optional_of_ok (name : String) (fallback : α) (hp : p s = .ok v t) :
    p.optional name fallback s = .ok v t := by
  simp only [optional, recover, hp, Run.resume_ok]

theorem optional_of_failure (name : String) (fallback : α) {e : ParseError}
    (hp : p s = .stop (.failure e) t) :
    p.optional name fallback s = .ok fallback (t.moveTo s.cursor) := by
  simp only [optional, recover, hp, Run.resume_stop, noteCaught]

theorem firstError_of_ok (hp : p s = .ok v t) : p.firstError s = .ok v t := by
  simp only [firstError, mapFailure, catchFailure, recover, hp, Run.resume_ok]

theorem firstError_of_either {first second : ParseError}
    (hp : p s = .stop (.failure (.either first second)) t) :
    p.firstError s = .stop (.failure first) t := by
  simp only [firstError, mapFailure, catchFailure, recover, hp, Run.resume_stop]
  rfl

theorem secondError_of_ok (hp : p s = .ok v t) : p.secondError s = .ok v t := by
  simp only [secondError, mapFailure, catchFailure, recover, hp, Run.resume_ok]

theorem secondError_of_either {first second : ParseError}
    (hp : p s = .stop (.failure (.either first second)) t) :
    p.secondError s = .stop (.failure second) t := by
  simp only [secondError, mapFailure, catchFailure, recover, hp, Run.resume_stop]
  rfl

/-- A stop that puts the cursor back leaves the whole state as it was. -/
theorem eq_of_atomic_stop (stopped : p.atomic s = .stop e t) (later : s ≤ t) : t = s := by
  have outcome : (p s).outcome = .error e := by
    rw [← outcome_atomic, stopped]
    rfl
  have back := cursor_atomic_of_error outcome
  rw [stopped] at back
  exact State.eq_of_le_of_cursor later back

/-! ## Sequences -/

section Sequences

variable {separator : Parser β} {limit : Int} (name : String) (o : SequenceOptions)

theorem rounds_of_failure (p : Parser α) {e : ParseError}
    (hs : separator s = .stop (.failure e) t) :
    rounds name o p separator s = .ok [] (if s.cursor.isAtEnd then s else t.moveTo s.cursor) := by
  rw [rounds, hs, Run.resume_stop]
  split <;> rfl

theorem rounds_of_tooDeep (p : Parser α) (more : ¬ s.cursor.isAtEnd = true)
    (hs : separator s = .stop (.tooDeep limit) t) :
    rounds name o p separator s = .stop (.tooDeep limit) t := by
  rw [rounds, if_neg more, hs, Run.resume_stop]

theorem rounds_of_ok_of_tooDeep (more : ¬ s.cursor.isAtEnd = true) (hs : separator s = .ok w t)
    (hp : p t = .stop (.tooDeep limit) u) :
    rounds name o p separator s = .stop (.tooDeep limit) u := by
  rw [rounds, if_neg more, hs, Run.resume_ok]
  simp only [hp, Run.resume_stop]

/-- A round that has left less to read goes on. -/
theorem rounds_of_ok (more : ¬ s.cursor.isAtEnd = true) (hs : separator s = .ok w t)
    (hp : p t = .ok v u) (less : u.cursor.rest.length < s.cursor.rest.length) :
    rounds name o p separator s = (rounds name o p separator u).map (v :: ·) := by
  rw [rounds, if_neg more, hs, Run.resume_ok]
  simp only [hp, Run.resume_ok, if_pos less]

theorem sequence_of_ok {vs : List α} (hp : p s = .ok v t)
    (ht : rounds name o p separator t = .ok vs u) :
    p.sequence name o separator s = .ok (v :: vs) u := by
  rw [sequence, hp, Run.resume_ok]
  simp only [ht]
  rfl

theorem sequence_of_ok_of_stop (hp : p s = .ok v t)
    (ht : rounds name o p separator t = .stop e u) :
    p.sequence name o separator s = .stop e u := by
  rw [sequence, hp, Run.resume_ok]
  simp only [ht]
  rfl

theorem sequence_of_failure (separator : Parser β) {e : ParseError}
    (hp : p s = .stop (.failure e) t) :
    p.sequence name o separator s =
      if o.allowEmpty then .ok [] t else .stop (.failure e) t := by
  rw [sequence, hp, Run.resume_stop]

theorem sequence_of_tooDeep (separator : Parser β) (hp : p s = .stop (.tooDeep limit) t) :
    p.sequence name o separator s = .stop (.tooDeep limit) t := by
  rw [sequence, hp, Run.resume_stop]

end Sequences

/-! ## Terminals -/

theorem token_of_append {text : String} {rest : List Char}
    (ahead : s.cursor.rest = text.toList ++ rest) :
    token text s = .ok text (s.moveTo (s.cursor.advance text.length)) := by
  have found : s.cursor.startsWith text = true := by
    rw [Cursor.startsWith, ahead]
    exact List.isPrefixOf_iff_prefix.mpr (List.prefix_append _ _)
  rw [token, if_pos found]

theorem token_of_not_prefix {text : String} (missing : ¬ text.toList <+: s.cursor.rest) :
    token text s = .stop (.failure (.token (.one text))) s := by
  have absent : ¬ s.cursor.startsWith text = true :=
    fun found => missing (List.isPrefixOf_iff_prefix.mp found)
  rw [token, if_neg absent]

theorem satisfy_of_cons {c : Char → Bool} {x : Char} {rest : List Char}
    (ahead : s.cursor.rest = x :: rest) (hx : c x = true) :
    satisfy c s = .ok x (s.moveTo (s.cursor.advance 1)) := by
  simp only [satisfy, ahead, if_pos hx]

theorem satisfy_of_other {c : Char → Bool} (other : ∀ x ∈ s.cursor.rest.head?, c x = false) :
    satisfy c s = .stop (.failure .satisfying) s := by
  unfold satisfy
  split
  next x rest ahead =>
    rw [if_neg (Bool.not_eq_true _ ▸ other x (by rw [ahead]; rfl))]
  next => rfl

/-- A run of a class ends before the first character that is not in the class. -/
theorem takeWhile_append {c : Char → Bool} {run rest : List Char} (all : ∀ x ∈ run, c x = true)
    (stop : ∀ x ∈ rest.head?, c x = false) : (run ++ rest).takeWhile c = run := by
  rw [List.takeWhile_append_of_pos all]
  cases rest with
  | nil => exact List.append_nil _
  | cons x rest => rw [List.takeWhile_cons_of_neg (by simp [stop x rfl]), List.append_nil]

theorem dropWhile_append {c : Char → Bool} {run rest : List Char} (all : ∀ x ∈ run, c x = true)
    (stop : ∀ x ∈ rest.head?, c x = false) : (run ++ rest).dropWhile c = rest := by
  have both := List.takeWhile_append_dropWhile (p := c) (l := run ++ rest)
  rw [takeWhile_append all stop] at both
  exact List.append_cancel_left both

/-- The run of a class is read if it is not empty or may be empty. -/
theorem span_of_allowed {c : Char → Bool} {allowEmpty : Bool} (e : ParseError)
    (allowed : allowEmpty = true ∨ s.cursor.rest.takeWhile c ≠ []) :
    span c allowEmpty e s = .ok (String.ofList (s.cursor.rest.takeWhile c))
      (s.moveTo (s.cursor.advance (s.cursor.rest.takeWhile c).length)) := by
  have kept : ¬ ((s.cursor.takeWhile c).1.isEmpty = true ∧ ¬ allowEmpty = true) := by
    rw [List.isEmpty_iff]
    rintro ⟨empty, notAllowed⟩
    exact allowed.elim notAllowed fun ne_nil => ne_nil empty
  rw [span, if_neg kept]
  rfl

theorem span_of_empty {c : Char → Bool} (e : ParseError)
    (empty : s.cursor.rest.takeWhile c = []) : span c false e s = .stop (.failure e) s := by
  rw [span, Cursor.takeWhile, empty, if_pos (by simp)]

theorem span_of_append {c : Char → Bool} {run rest : List Char} (e : ParseError)
    (ahead : s.cursor.rest = run ++ rest) (all : ∀ x ∈ run, c x = true)
    (stop : ∀ x ∈ rest.head?, c x = false) :
    span c true e s = .ok (String.ofList run) (s.moveTo (s.cursor.advance run.length)) := by
  rw [span_of_allowed e (.inl rfl), ahead, takeWhile_append all stop]

end Parser

/-! ## Changed values -/

namespace Grammar

variable {ι α β : Type} {τ : ι → Type} {env : (i : ι) → Parser (τ i)} {p : Grammar τ α}
  {s t : State}

theorem fmap_of_ok (f : α → β) {v : α} (hp : p.meaning env s = .ok v t) :
    (f <$> p).meaning env s = .ok (f v) t :=
  Parser.mapOrStop_of_ok (f := fun v => .ok (f v)) hp rfl

theorem fmap_of_stop (f : α → β) {e : Stop} (hp : p.meaning env s = .stop e t) :
    (f <$> p).meaning env s = .stop e t :=
  Parser.mapOrStop_of_stop (fun v => .ok (f v)) hp

end Grammar

/-! ## Numbers -/

/-- Digits for a number: at least one, and not too many. -/
structure Digits (digits : List Char) : Prop where
  /-- There is one. -/
  ne_nil : digits ≠ []
  /-- There is nothing else. -/
  isDigit : ∀ x ∈ digits, x.isDigit = true
  /-- They are not too many. -/
  length_le : digits.length ≤ Fault.maxDigits

/-- The forms of an integer: digits, with a minus sign before them or not.  Zeros in front
do not count. -/
inductive Numeral : Int → List Char → Prop where
  | plain {digits : List Char} : Digits digits → Numeral (Nat.ofDigitChars 10 digits 0) digits
  | negative {digits : List Char} :
      Digits digits → Numeral (-(Nat.ofDigitChars 10 digits 0 : Int)) ('-' :: digits)

theorem digits_toDigits (n : Nat) (short : (Nat.toDigits 10 n).length ≤ Fault.maxDigits) :
    Digits (Nat.toDigits 10 n) :=
  ⟨Nat.toDigits_ne_nil, fun _ => Nat.isDigit_of_mem_toDigits (by decide) (by decide), short⟩

/-- The decimal form of an integer is one of its forms. -/
theorem numeral_repr (n : Int) (short : (Nat.toDigits 10 n.natAbs).length ≤ Fault.maxDigits) :
    Numeral n n.repr.toList := by
  cases n with
  | ofNat m =>
      have plain := Numeral.plain (digits_toDigits m short)
      rw [Nat.ofDigitChars_ten_toDigits] at plain
      simpa [Int.repr] using plain
  | negSucc m =>
      have negative := Numeral.negative (digits_toDigits (m + 1) short)
      rw [Nat.ofDigitChars_ten_toDigits] at negative
      simpa [Int.repr, Int.negSucc_eq] using negative

/-- A character that is a digit is not the minus sign. -/
theorem head?_append_ne_minus {digits : List Char} (ne_nil : digits ≠ [])
    (isDigit : ∀ x ∈ digits, x.isDigit = true) (rest : List Char) :
    ((digits ++ rest).head? == some '-') = false := by
  obtain ⟨x, tail, rfl⟩ := List.exists_cons_of_ne_nil ne_nil
  have digit := isDigit x (.head _)
  have minus : x ≠ '-' := by
    rintro rfl
    cases digit
  simpa using minus

theorem Digits.head?_ne {digits : List Char} (h : Digits digits) (rest : List Char) :
    ((digits ++ rest).head? == some '-') = false :=
  head?_append_ne_minus h.ne_nil h.isDigit rest

namespace Parser

variable {s : State}

theorem numberReading_of_numeral {n : Int} {text rest : List Char} (written : Numeral n text)
    (stop : ∀ x ∈ rest.head?, x.isDigit = false) :
    numberReading (text ++ rest) = .value n text.length := by
  cases written with
  | plain h =>
      simp only [numberReading, h.head?_ne rest, Bool.false_eq_true, if_false, List.drop_zero,
        takeWhile_append h.isDigit stop, List.isEmpty_iff, h.ne_nil, Nat.not_lt.mpr h.length_le,
        Nat.zero_add]
  | negative h =>
      simp only [numberReading, List.cons_append, List.head?_cons, beq_self_eq_true, if_true,
        List.drop_succ_cons, List.drop_zero, takeWhile_append h.isDigit stop, List.isEmpty_iff,
        h.ne_nil, Nat.not_lt.mpr h.length_le, if_false, List.length_cons, Nat.add_comm]

theorem number_of_numeral {n : Int} {text rest : List Char} (written : Numeral n text)
    (ahead : s.cursor.rest = text ++ rest) (stop : ∀ x ∈ rest.head?, x.isDigit = false) :
    number s = .ok n (s.moveTo (s.cursor.advance text.length)) := by
  rw [number_eq, ahead, numberReading_of_numeral written stop]
  rfl

theorem TooManyDigits.ne_nil {sign digits rest : List Char} (h : TooManyDigits sign digits rest) :
    digits ≠ [] := by
  rintro rfl
  exact absurd h.lt_length (Nat.not_lt_zero _)

theorem numberReading_of_tooManyDigits {sign digits rest : List Char}
    (h : TooManyDigits sign digits rest) :
    numberReading (sign ++ (digits ++ rest)) =
      .fault (.tooManyDigits digits.length) (sign.length + digits.length) := by
  obtain rfl | rfl := h.sign
  · simp only [numberReading, List.nil_append, head?_append_ne_minus h.ne_nil h.isDigit rest,
      Bool.false_eq_true, if_false, List.drop_zero, takeWhile_append h.isDigit h.stop,
      List.isEmpty_iff, h.ne_nil, h.lt_length, if_true, List.length_nil]
  · simp only [numberReading, List.cons_append, List.nil_append, List.head?_cons,
      beq_self_eq_true, if_true, List.drop_succ_cons, List.drop_zero,
      takeWhile_append h.isDigit h.stop, List.isEmpty_iff, h.ne_nil, if_false, h.lt_length,
      List.length_cons, List.length_nil]

/-- A number with too many digits is read before it is refused. -/
theorem number_of_tooManyDigits {sign digits rest : List Char}
    (h : TooManyDigits sign digits rest) (ahead : s.cursor.rest = sign ++ (digits ++ rest)) :
    number s = .raise (.fault (.tooManyDigits digits.length))
      (s.moveTo (s.cursor.advance (sign.length + digits.length))) := by
  rw [number_eq, ahead, numberReading_of_tooManyDigits h, Reading.run_fault]

/-- Neither a digit nor the minus sign is ahead. -/
theorem number_of_other {x : Char} {rest : List Char} (ahead : s.cursor.rest = x :: rest)
    (digit : x.isDigit = false) (minus : x ≠ '-') : number s = .stop (.failure .number) s := by
  have unsigned : ((x :: rest).head? == some '-') = false := by simpa using minus
  have run : (x :: rest).takeWhile Char.isDigit = [] :=
    List.takeWhile_cons_of_neg (by simp [digit])
  rw [number_eq, ahead]
  simp only [numberReading, unsigned]
  simp [run, Reading.run_stop]
  rfl

end Parser

end Descent
