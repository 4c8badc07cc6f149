import Descent.Grammar.Standard
import Descent.Proofs.Accounting
import Descent.Proofs.Choice

/-!
# The ways a run may end

A grammar is *quiet* when no function under `map` and no builder under `bind` raises a fault, and
the conversion of a `decimal` raises nothing but the three kinds of faults that say that a text is
no number (`Conversion.OnlyRefuses`).  A run of a quiet grammar over quiet rules ends with a value,
with a failure or at the nesting limit.  There is one way more: `number` has read more digits than
a number is read from.  Then so many digits are in the text, at the start of the run or behind it
(`run_closed`).

A parser may also go wrong by its own doing, when it asks for a place or a character outside
the text.  The operations of a cursor that may be refused are `move?`, `peek?`, `at?` and
`current?`, and no parser looks at the current character by the last of these.  That the other
three are not refused does not show in the parsers, as they use operations that are defined
everywhere.  So the parsers are written once more, with operations that may be refused and
anything at all done where one is.  They are the same parsers: whatever the grammar, no
operation is refused (`runAsking_eq_run`).
-/

namespace Descent

/-! ## Operations that may be refused -/

namespace Cursor

/-- Placing anew, as far into the text as moving forward goes, is moving forward. -/
theorem ofChars_eq_advance {c : Cursor} {k n : Nat}
    (h : min k c.source.length = c.pos + min n c.rest.length) :
    ofChars c.source k = c.advance n := by
  refine eq_of_source_of_pos ?_ ?_
  · rw [source_ofChars, source_advance]
  · rw [pos_advance, ← h]
    simp [ofChars, pos]

/-- Moving forward is never refused. -/
theorem move?_natCast (c : Cursor) (n : Nat) : c.move? n = .ok (c.advance n) := by
  have length := c.pos_add_length_rest
  have target : min (c.pos + n : Int) c.source.length = (min (c.pos + n) c.source.length : Nat) :=
    by omega
  unfold move?
  dsimp only
  rw [target, if_pos (Int.natCast_nonneg _), Int.toNat_natCast]
  exact congrArg Except.ok (ofChars_eq_advance (by omega))

/-- Looking forward is never refused. -/
theorem peek?_natCast (c : Cursor) (n : Nat) : c.peek? n = .ok c.rest[n]? := by
  have inside : ¬ (c.pos + n : Int) < 0 := by omega
  have index : (c.pos + n : Int).toNat = c.passed.reverse.length + n := by
    rw [List.length_reverse]
    exact Int.toNat_natCast _
  simp only [peek?, inside, index, if_false, source, List.getElem?_append_right, Nat.le_add_right,
    Nat.add_sub_cancel_left]

/-- Looking at the next character is never refused. -/
theorem peek?_zero (c : Cursor) : c.peek? 0 = .ok c.rest.head? := by
  rw [List.head?_eq_getElem?]
  exact c.peek?_natCast 0

/-- Placing behind characters that are there is never refused. -/
theorem at?_pos_add (c : Cursor) {n : Nat} (h : n ≤ c.rest.length) :
    at? (String.ofList c.source) (c.pos + n) = .ok (c.advance n) := by
  have length := c.pos_add_length_rest
  have inside : (0 : Int) ≤ c.pos + n ∧ (c.pos + n : Int) ≤ (String.ofList c.source).length := by
    rw [String.length_ofList]
    omega
  have index : (c.pos + n : Int).toNat = c.pos + n := by omega
  rw [at?, if_pos inside, index, String.toList_ofList]
  exact congrArg Except.ok (ofChars_eq_advance (by omega))

/-- Counts the characters of a class from the place on, behind `n` that have been counted.
There are `left` characters behind these. -/
def countWhile? (c : Cursor) (p : Char → Bool) : (left n : Nat) → Except CursorError Nat
  | 0, n => .ok n
  | left + 1, n =>
      match c.peek? n with
      | .error e => .error e
      | .ok none => .ok n
      | .ok (some x) => if p x then c.countWhile? p left (n + 1) else .ok n

/-- The longest run of characters of a class, and the cursor behind it. -/
def takeWhile? (c : Cursor) (p : Char → Bool) : Except CursorError (List Char × Cursor) :=
  match c.countWhile? p c.rest.length 0 with
  | .error e => .error e
  | .ok n => (at? (String.ofList c.source) (c.pos + n)).map fun behind => (c.rest.take n, behind)

theorem countWhile?_eq (c : Cursor) (p : Char → Bool) (left n : Nat)
    (h : n + left = c.rest.length) :
    c.countWhile? p left n = .ok (n + ((c.rest.drop n).takeWhile p).length) := by
  induction left generalizing n with
  | zero =>
      rw [countWhile?, List.drop_eq_nil_of_le (by omega)]
      rfl
  | succ left ih =>
      have room : n < c.rest.length := by omega
      rw [countWhile?, peek?_natCast, List.getElem?_eq_getElem room, List.drop_eq_getElem_cons room]
      dsimp only
      split
      next isIn =>
        rw [ih (n + 1) (by omega), List.takeWhile_cons_of_pos isIn, List.length_cons]
        exact congrArg Except.ok (by omega)
      next isOut =>
        rw [List.takeWhile_cons_of_neg isOut]
        rfl

/-- Reading a run of characters is never refused. -/
theorem takeWhile?_eq (c : Cursor) (p : Char → Bool) : c.takeWhile? p = .ok (c.takeWhile p) := by
  have count := c.countWhile?_eq p c.rest.length 0 (Nat.zero_add _)
  have front : c.rest.takeWhile p <+: c.rest := List.takeWhile_prefix p
  rw [Nat.zero_add, List.drop_zero] at count
  rw [takeWhile?, count]
  dsimp only
  rw [at?_pos_add c front.length_le, ← List.prefix_iff_eq_take.mp front]
  rfl

end Cursor

/-! ## Parsers that ask -/

/-- What is done in place of an operation that is refused. -/
abbrev Refusal := CursorError → (α : Type) → Parser α

/-- Goes on with what an operation gives. -/
def Refusal.granted {α γ : Type} (refused : Refusal) (s : State) (o : Except CursorError γ)
    (next : γ → Run α) : Run α :=
  match o with
  | .ok v => next v
  | .error e => refused e α s

namespace Parser

variable {α β : Type} (refused : Refusal)

@[simp] theorem granted_ok {γ : Type} (s : State) (v : γ) (next : γ → Run α) :
    refused.granted s (.ok v) next = next v := rfl

/-- `token`, with operations that may be refused. -/
def tokenAsking (text : String) : Parser String := fun s =>
  if s.cursor.startsWith text then
    refused.granted s (s.cursor.move? text.length) fun behind => .ok text (s.moveTo behind)
  else .stop (.failure (.token (.one text))) s

/-- `satisfy`, with operations that may be refused. -/
def satisfyAsking (p : Char → Bool) : Parser Char := fun s =>
  refused.granted s (s.cursor.peek? 0) fun
    | some c =>
        if p c then refused.granted s (s.cursor.move? 1) fun behind => .ok c (s.moveTo behind)
        else .stop (.failure .satisfying) s
    | none => .stop (.failure .satisfying) s

/-- `span`, with operations that may be refused. -/
def spanAsking (p : Char → Bool) (allowEmpty : Bool) (e : ParseError) : Parser String := fun s =>
  refused.granted s (s.cursor.takeWhile? p) fun run =>
    if run.1.isEmpty ∧ ¬ allowEmpty then .stop (.failure e) s
    else .ok (String.ofList run.1) (s.moveTo run.2)

/-- `number`, with operations that may be refused. -/
def numberAsking : Parser Int := fun s =>
  refused.granted s (s.cursor.peek? 0) fun front =>
  let negative := front == some '-'
  let sign : Nat := if negative then 1 else 0
  refused.granted s (s.cursor.move? sign) fun unsigned =>
  refused.granted s (unsigned.takeWhile? Char.isDigit) fun run =>
    if run.1.isEmpty then .stop (.failure .number) s
    else if Fault.maxDigits < run.1.length then
      .raise (.fault (.tooManyDigits run.1.length)) (s.moveTo run.2)
    else
      let value : Int := Nat.ofDigitChars 10 run.1 0
      .ok (if negative then -value else value) (s.moveTo run.2)

/-- `decimal`, with operations that may be refused. -/
def decimalAsking (locale : String) (symbols : NumberSymbols) (convert : Conversion) :
    Parser Decimal := fun s =>
  let isSeparator c := c = symbols.group ∨ c = symbols.point
  let sign := ([symbols.minus, "-"].find? s.cursor.startsWith).getD ""
  refused.granted s (s.cursor.move? sign.length) fun unsigned =>
  refused.granted s (unsigned.peek? 0) fun front =>
    if (front.map Char.isDigit).getD false then
      refused.granted s (unsigned.takeWhile? fun c => c.isDigit ∨ isSeparator c) fun run =>
      let body := (run.1.reverse.dropWhile fun c => isSeparator c).reverse
      let numeral := candidate (!sign.isEmpty) body
      match convert numeral with
      | .ok value =>
          refused.granted s (unsigned.move? body.length) fun behind => .ok value (s.moveTo behind)
      | .error f =>
          if f.kind ∈ rejectedKinds then
            (Run.stop (.failure .number) s).after (.rejectedNumeral numeral locale f.message)
          else .raise (.fault f) s
    else .stop (.failure .number) s

/-- `scan`, with operations that may be refused. -/
def scanAsking (o : ScanOptions) (terminator : Parser α) (start : Cursor) (s : State) :
    Run String :=
  if s.cursor.isAtEnd then
    if o.allowEnd ∧ (o.allowEmpty ∨ start.pos < s.cursor.pos) then .ok start.remaining s
    else .stop (.failure (if o.allowEnd then .satisfying else .termination)) (s.moveTo start)
  else
    (terminator s).resume fun
      | .error (.failure _), s' =>
          match _h : s.cursor.move? 1 with
          | .ok behind => scanAsking o terminator start (s'.moveTo behind)
          | .error e => refused e String s'
      | .error e, s' => .stop e s'
      | .ok _, s' =>
          if s.cursor.pos = start.pos ∧ ¬ o.allowEmpty then
            .stop (.failure .satisfying) (s'.moveTo start)
          else .ok (start.textTo s.cursor) (if o.consume then s' else s'.moveTo s.cursor)
termination_by s.cursor.rest.length
decreasing_by
  have moved : behind = s.cursor.advance 1 :=
    Except.ok.inj (_h.symm.trans (s.cursor.move?_natCast 1))
  rw [State.cursor_moveTo, moved]
  exact Cursor.length_rest_advance_lt ‹_› Nat.one_pos

/-- `upTo`, with operations that may be refused. -/
def upToAsking (o : ScanOptions) (terminator : Parser α) : Parser String := fun s =>
  scanAsking refused o terminator s.cursor s

/-! ### Nothing is refused -/

theorem tokenAsking_eq (text : String) : tokenAsking refused text = token text := by
  funext s
  rw [tokenAsking, Cursor.move?_natCast, granted_ok]
  rfl

theorem satisfyAsking_eq (p : Char → Bool) : satisfyAsking refused p = satisfy p := by
  funext s
  have behind : s.cursor.move? 1 = .ok (s.cursor.advance 1) := s.cursor.move?_natCast 1
  unfold satisfyAsking satisfy
  rw [Cursor.peek?_zero, behind, granted_ok]
  cases s.cursor.rest <;> rfl

theorem spanAsking_eq (p : Char → Bool) (allowEmpty : Bool) (e : ParseError) :
    spanAsking refused p allowEmpty e = span p allowEmpty e := by
  funext s
  rw [spanAsking, Cursor.takeWhile?_eq, granted_ok]
  rfl

theorem numberAsking_eq : numberAsking refused = number := by
  funext s
  unfold numberAsking number
  dsimp only
  rw [Cursor.peek?_zero, granted_ok, advance_sign, Cursor.move?_natCast, granted_ok,
    Cursor.takeWhile?_eq, granted_ok]

theorem decimalAsking_eq (locale : String) (symbols : NumberSymbols) (convert : Conversion) :
    decimalAsking refused locale symbols convert = decimal locale symbols convert := by
  funext s
  unfold decimalAsking decimal
  dsimp only
  rw [Cursor.move?_natCast, granted_ok, Cursor.peek?_zero, granted_ok]
  generalize ([symbols.minus, "-"].find? s.cursor.startsWith).getD "" = sign
  generalize s.cursor.advance sign.length = unsigned
  split
  next digit =>
    have body : ((unsigned.takeWhile fun c =>
        c.isDigit ∨ c = symbols.group ∨ c = symbols.point).1.reverse.dropWhile fun c =>
          c = symbols.group ∨ c = symbols.point).reverse = numeralBody symbols unsigned.rest := rfl
    rw [Cursor.takeWhile?_eq, granted_ok, body]
    cases convert (candidate (!sign.isEmpty) (numeralBody symbols unsigned.rest)) with
    | ok v =>
        exact congrArg (refused.granted s · fun behind => .ok v (s.moveTo behind))
          (unsigned.move?_natCast _)
    | error f => rfl
  next none => rfl

theorem scanAsking_eq (o : ScanOptions) (terminator : Parser α) (start : Cursor) :
    scanAsking refused o terminator start = scan o terminator start := by
  funext s
  induction s using scan.induct o start with
  | case1 s atEnd allowed => rw [scan, scanAsking, if_pos atEnd, if_pos allowed, if_pos atEnd]
  | case2 s atEnd notAllowed => rw [scan, scanAsking, if_pos atEnd, if_neg notAllowed, if_pos atEnd]
  | case3 s notAtEnd ih =>
      rw [scan, scanAsking, if_neg notAtEnd, if_neg notAtEnd]
      refine Run.resume_congr fun stopped t => ?_
      cases stopped using outcome_cases with
      | ok v => rfl
      | failure e =>
        have behind : s.cursor.move? 1 = .ok (s.cursor.advance 1) := s.cursor.move?_natCast 1
        dsimp only
        split
        next moved h =>
          rw [behind] at h
          cases h
          exact ih t
        next e h => 
          rw [behind] at h
          cases h
      | tooDeep limit => rfl
      | fault f => rfl

theorem upToAsking_eq (o : ScanOptions) (terminator : Parser α) :
    upToAsking refused o terminator = terminator.upTo o := by
  funext s
  rw [upToAsking, scanAsking_eq, upTo]

end Parser

/-! ## Numbers of too many digits -/

/-- At a place, or behind it, stands a number of `n` digits, and these are too many. -/
def Cursor.Overlong (c : Cursor) (n : Nat) : Prop :=
  ∃ (d : Cursor) (sign digits rest : List Char), c ≤ d ∧ d.rest = sign ++ (digits ++ rest) ∧
    Parser.TooManyDigits sign digits rest ∧ digits.length = n

/-- What is raised in a run of a quiet grammar is raised by a number. -/
theorem Fault.ComesFrom.overlong {c : Cursor} {f : Fault} (h : f.ComesFrom (fun _ => False) c) :
    ∃ n, f = .tooManyDigits n ∧ c.Overlong n := by
  obtain own | ⟨s, ahead, stopped⟩ := h
  · exact own.elim
  · obtain none | ⟨sign, digits, rest, text, tooMany, run⟩ | ⟨v, n, some⟩ := Parser.number_cases s
    · rw [none] at stopped
      cases stopped
    · rw [run] at stopped
      cases stopped
      exact ⟨_, rfl, s.cursor, sign, digits, rest, ahead, text, tooMany, rfl⟩
    · rw [some] at stopped
      cases stopped

namespace Grammar

variable {ι : Type} {τ : ι → Type} {α β : Type}

/-! ## Grammars that ask -/

/-- The parser of a grammar, with operations that may be refused. -/
def meaningAsking (refused : Refusal) (env : (i : ι) → Parser (τ i)) {α : Type} :
    Grammar τ α → Parser α
  | pure _ v => Parser.succeed v
  | fail e => Parser.fail e
  | raise e => Parser.raise e
  | token text => Parser.tokenAsking refused text
  | satisfy p => Parser.satisfyAsking refused p
  | satisfyRun p allowEmpty => Parser.spanAsking refused p allowEmpty .satisfying
  | blanks allowEmpty => Parser.spanAsking refused Text.isBlank allowEmpty .whitespace
  | number => Parser.numberAsking refused
  | decimal locale symbols convert => Parser.decimalAsking refused locale symbols convert
  | upTo terminator o => Parser.upToAsking refused o (terminator.meaningAsking refused env)
  | map p f => (p.meaningAsking refused env).mapOrStop f
  | bind p f => (p.meaningAsking refused env).bind fun v => (f v).meaningAsking refused env
  | orElse p q => (p.meaningAsking refused env).orElse (q.meaningAsking refused env)
  | keepRight p q => (p.meaningAsking refused env).keepRight (q.meaningAsking refused env)
  | keepLeft p q => (p.meaningAsking refused env).keepLeft (q.meaningAsking refused env)
  | atomic p => (p.meaningAsking refused env).atomic
  | lookAhead p => (p.meaningAsking refused env).lookAhead
  | optional p fallback => (p.meaningAsking refused env).optional p.name fallback
  | discard p => (p.meaningAsking refused env).discard p.name
  | separated p separator o =>
      (p.meaningAsking refused env).sequence p.name o (separator.meaningAsking refused env)
  | many p allowEmpty => (p.meaningAsking refused env).many p.name allowEmpty
  | context p label => (p.meaningAsking refused env).context label
  | complete p => (p.meaningAsking refused env).complete
  | firstError p => (p.meaningAsking refused env).firstError
  | secondError p => (p.meaningAsking refused env).secondError
  | choice branches =>
      ((branches 0).meaningAsking refused env).choice
        (List.ofFn fun i => (branches i.succ).meaningAsking refused env)
  | chain parts => Parser.chain (List.ofFn fun i => (parts i).meaningAsking refused env)
  | rule i _ => env i
  | named p _ => p.meaningAsking refused env

/-- The parsers of the rules, with operations that may be refused. -/
def unrollAsking (refused : Refusal) (rules : (i : ι) → Grammar τ (τ i)) :
    (levels : Nat) → (i : ι) → Parser (τ i)
  | 0, _ => Parser.tooDeep
  | levels + 1, i => ((rules i).meaningAsking refused (unrollAsking refused rules levels)).nested

/-- The run of a grammar, with operations that may be refused. -/
def runAsking (refused : Refusal) (rules : (i : ι) → Grammar τ (τ i)) (p : Grammar τ α) :
    Parser α := fun s =>
  (p.meaningAsking refused (unrollAsking refused rules (s.nesting.budget + 1)) s).resume fun
    | .error (.failure e), s' =>
        (Run.stop (.failure e) s').after (.failed p.name s'.cursor.pos e.code)
    | .error e, s' => .stop e s'
    | .ok v, s' => .ok v s'

theorem meaningAsking_eq (refused : Refusal) (env : (i : ι) → Parser (τ i)) (p : Grammar τ α) :
    p.meaningAsking refused env = p.meaning env := by
  induction p with
  | pure | fail | raise | rule => rfl
  | token text => exact Parser.tokenAsking_eq refused text
  | satisfy p => exact Parser.satisfyAsking_eq refused p
  | satisfyRun p allowEmpty => exact Parser.spanAsking_eq refused p allowEmpty _
  | blanks allowEmpty => exact Parser.spanAsking_eq refused _ allowEmpty _
  | number => exact Parser.numberAsking_eq refused
  | decimal locale symbols convert => exact Parser.decimalAsking_eq refused locale symbols convert
  | upTo terminator o ih =>
      exact (congrArg (Parser.upToAsking refused o) ih).trans (Parser.upToAsking_eq refused o _)
  | map p f ih => exact congrArg (Parser.mapOrStop · f) ih
  | bind p f ihp ihf => exact congrArg₂ Parser.bind ihp (funext ihf)
  | orElse p q ihp ihq => exact congrArg₂ Parser.orElse ihp ihq
  | keepRight p q ihp ihq => exact congrArg₂ Parser.keepRight ihp ihq
  | keepLeft p q ihp ihq => exact congrArg₂ Parser.keepLeft ihp ihq
  | atomic p ih => exact congrArg Parser.atomic ih
  | lookAhead p ih => exact congrArg Parser.lookAhead ih
  | optional p fallback ih => exact congrArg (Parser.optional p.name fallback) ih
  | discard p ih => exact congrArg (Parser.discard p.name) ih
  | separated p separator o ihp ihsep => exact congrArg₂ (Parser.sequence p.name o) ihp ihsep
  | many p allowEmpty ih => exact congrArg (Parser.many p.name allowEmpty) ih
  | context p label ih => exact congrArg (Parser.context label) ih
  | complete p ih => exact congrArg Parser.complete ih
  | firstError p ih => exact congrArg Parser.firstError ih
  | secondError p ih => exact congrArg Parser.secondError ih
  | named p label ih => exact ih
  | choice branches ih =>
      exact congrArg₂ Parser.choice (ih 0) (congrArg List.ofFn (funext fun i => ih i.succ))
  | chain parts ih => exact congrArg (fun ps => Parser.chain (List.ofFn ps)) (funext ih)

theorem unrollAsking_eq (refused : Refusal) (rules : (i : ι) → Grammar τ (τ i)) (levels : Nat) :
    unrollAsking refused rules levels = unroll rules levels := by
  induction levels with
  | zero => rfl
  | succ levels ih =>
      funext i
      rw [unrollAsking, unroll, meaningAsking_eq, ih]

/-- No operation of a cursor is refused in a run, whatever the grammar. -/
theorem runAsking_eq_run (refused : Refusal) (rules : (i : ι) → Grammar τ (τ i))
    (p : Grammar τ α) : p.runAsking refused rules = p.run rules := by
  funext s
  rw [runAsking, meaningAsking_eq, unrollAsking_eq]
  rfl

/-! ## Quiet grammars -/

/-- No function and no builder of a grammar raises a fault, and its conversions raise nothing but
refusals. -/
abbrev Quiet (p : Grammar τ α) : Prop := p.RaisesOnly fun _ => False

/-- A number of a locale is quiet if its conversion only refuses. -/
theorem quiet_decimal_iff {locale : String} {symbols : NumberSymbols} {convert : Conversion} :
    (decimal locale symbols convert : Grammar τ Decimal).Quiet ↔ convert.OnlyRefuses := by
  constructor
  · intro quiet numeral f raised
    exact (quiet numeral f raised).resolve_right id
  · intro refuses numeral f raised
    exact .inl (refuses numeral f raised)

theorem Quiet.fmap {p : Grammar τ α} (hp : p.Quiet) (f : α → β) : (f <$> p).Quiet :=
  ⟨hp, nofun⟩

theorem quiet_empty : (empty : Grammar τ String).Quiet := trivial

theorem quiet_optionalBlanks : (optionalBlanks : Grammar τ (Option String)).Quiet := by
  have inner : (blanks : Grammar τ String).Quiet := trivial
  exact inner.fmap some

theorem quiet_space : (space : Grammar τ String).Quiet := trivial

theorem quiet_lineBreak : (lineBreak : Grammar τ String).Quiet := by
  have other : (satisfy Text.isLineBreak : Grammar τ Char).Quiet := trivial
  exact ⟨trivial, other.fmap _⟩

theorem quiet_newline : (newline : Grammar τ String).Quiet :=
  ⟨quiet_space, fun _ => quiet_lineBreak.fmap _⟩

theorem quiet_comma : (comma : Grammar τ Unit).Quiet := by
  have inner : ((token ",").keepRight (blanks true) : Grammar τ String).Quiet :=
    ⟨trivial, trivial⟩
  exact inner.fmap _

theorem quiet_skipping (n : Nat) : (skipping n : Grammar τ Unit).Quiet := by
  have inner : (chain fun _ : Fin n => (satisfy fun _ => true).discard :
      Grammar τ (List Unit)).Quiet := fun _ => trivial
  exact inner.fmap _

theorem quiet_of_choice? {ps : List (Grammar τ α)} {p : Grammar τ α} (h : choice? ps = .ok p)
    (hps : ∀ q ∈ ps, q.Quiet) : p.Quiet := by
  cases ps with
  | nil => cases h
  | cons q qs =>
      cases qs with
      | nil =>
          cases h
          exact hps _ (.head _)
      | cons r rs =>
          cases h
          exact fun i => hps _ (List.get_mem (q :: r :: rs) i)

theorem quiet_literal (text : String) (v : α) :
    ((fun _ => v) <$> token text : Grammar τ α).Quiet := by
  have literal : (token text : Grammar τ String).Quiet := trivial
  exact literal.fmap _

theorem quiet_firstLiteral (entries : List (String × α)) :
    (firstLiteral entries : Grammar τ α).Quiet :=
  firstLiteral_of_step (fun _ => trivial) (fun _ text v hp => ⟨hp, quiet_literal text v⟩) entries

theorem quiet_of_member? {m : Member} {p : Grammar τ Member} (h : member? m = .ok p) :
    p.Quiet := by
  obtain ⟨text, v, label, rfl⟩ := exists_of_member? h
  exact quiet_literal text v

theorem quiet_of_enumeration? {e : Enumeration} {p : Grammar τ Member}
    (h : enumeration? e = .ok p) : p.Quiet := by
  obtain ⟨entries, label, rfl⟩ := exists_of_enumeration? h
  exact quiet_firstLiteral entries

theorem quiet_of_decimal? {table : Option LocaleTable} {code : String}
    {convert : NumberSymbols → Conversion} (refuses : ∀ symbols, (convert symbols).OnlyRefuses)
    {p : Grammar τ Decimal} (h : decimal? table code convert = .ok p) : p.Quiet := by
  unfold decimal? at h
  split at h
  next symbols _ =>
    cases h
    exact quiet_decimal_iff.mpr (refuses symbols)
  next => cases h

/-! ## How a run ends -/

/-- Symbols of a locale with a comma before the decimals. -/
def german : NumberSymbols := ⟨'.', ',', "-"⟩

/-- A number of this locale, or the sum of two such sums in brackets. -/
def total (_ : Unit) : Grammar (fun _ : Unit => Decimal) Decimal :=
  (decimal "de_DE" german german.convert).orElse
    ((((token "(").keepRight (rule ())).keepLeft comma).bind fun a =>
      a.add <$> (rule ()).keepLeft (token ")"))

end Grammar

end Descent
