import Mathlib.Data.List.Forall2
import Mathlib.Data.List.OfFn
import Descent.Grammar.Standard
import Descent.Proofs.Forward

/-!
# Runs that end

A run may go round in two ways: a rule may lead back to itself, and a repetition may go on
with elements that read nothing.  Neither goes on for ever.

A *cut* says where a run is given up: rules are entered to so many levels, and each
repetition goes so many rounds.  What is done beyond the cut may be anything at all.  A
run that ends without coming to the cut does not depend on it.  So the statement that a
run ends is that from some levels and rounds on, whatever is done beyond them, the cut run
is the whole run (`run_ends`).  Enough levels are one more than the nesting still allows,
and enough rounds are one more than there are characters left to read, however the rules
refer to each other and whatever the elements read.

The repetitions of a cut run are the plain loops.  They go on wherever a round has ended
at another place than it began, and say nothing about the direction.  That this is the
same as having less left to read is due to parsers never moving back (`Parser.Forward`).
-/

namespace Descent

/-- What is done beyond a cut. -/
abbrev Beyond := (α : Type) → Parser α

/-! ## Repetitions with a cut -/

namespace Parser

variable {α β : Type}

/-- The loop of `many`, given up after so many rounds. -/
def manyWithin (beyond : Beyond) (name : String) (p : Parser α) :
    (rounds : Nat) → (allowEmpty : Bool) → State → Run (List α)
  | 0, _, s => beyond (List α) s
  | rounds + 1, allowEmpty, s =>
      (p s).resume fun
        | .ok v, s' =>
            if s'.cursor.pos = s.cursor.pos then (Run.ok [v] s').after (.manyStalled name)
            else (manyWithin beyond name p rounds true s').map (v :: ·)
        | .error (.tooDeep limit), s' => .stop (.tooDeep limit) s'
        | .error e, s' =>
            if allowEmpty then noteCaught .many name e (.ok [] s') else .stop e s'

/-- The loop of `sequence`, given up after so many rounds. -/
def roundsWithin (beyond : Beyond) (name : String) (o : SequenceOptions) (p : Parser α)
    (separator : Parser β) : (rounds : Nat) → State → Run (List α)
  | 0, s => beyond (List α) s
  | rounds + 1, s =>
      if s.cursor.isAtEnd then .ok [] s
      else
        (separator s).resume fun
          | .error (.failure _), s' => .ok [] (s'.moveTo s.cursor)
          | .error e, s' => .stop e s'
          | .ok _, s' =>
              (p s').resume fun
                | .error (.failure _), s'' =>
                    .ok [] (if o.allowTrailing then s'' else s''.moveTo s.cursor)
                | .error e, s'' => .stop e s''
                | .ok v, s'' =>
                    if s''.cursor.pos = s.cursor.pos then
                      (Run.ok [v] s'').after (.sequenceStalled name)
                    else (roundsWithin beyond name o p separator rounds s'').map (v :: ·)

/-- Elements with separators between, given up after so many rounds. -/
def sequenceWithin (beyond : Beyond) (rounds : Nat) (name : String) (o : SequenceOptions)
    (p : Parser α) (separator : Parser β) : Parser (List α) := fun s =>
  (p s).resume fun
    | .ok v, s' => (roundsWithin beyond name o p separator rounds s').map (v :: ·)
    | .error (.failure e), s' => if o.allowEmpty then .ok [] s' else .stop (.failure e) s'
    | .error e, s' => .stop e s'

/-- The loop of `upTo`, given up after so many rounds. -/
def scanWithin (beyond : Beyond) (o : ScanOptions) (terminator : Parser α) (start : Cursor) :
    (rounds : Nat) → State → Run String
  | 0, s => beyond String s
  | rounds + 1, s =>
      if s.cursor.isAtEnd then
        if o.allowEnd ∧ (o.allowEmpty ∨ start.pos < s.cursor.pos) then .ok start.remaining s
        else .stop (.failure (if o.allowEnd then .satisfying else .termination)) (s.moveTo start)
      else
        (terminator s).resume fun
          | .error (.failure _), s' =>
              scanWithin beyond o terminator start rounds (s'.moveTo (s.cursor.advance 1))
          | .error e, s' => .stop e s'
          | .ok _, s' =>
              if s.cursor.pos = start.pos ∧ ¬ o.allowEmpty then
                .stop (.failure .satisfying) (s'.moveTo start)
              else .ok (start.textTo s.cursor) (if o.consume then s' else s'.moveTo s.cursor)

/-- Characters up to a terminator, given up after so many rounds. -/
def upToWithin (beyond : Beyond) (rounds : Nat) (o : ScanOptions) (terminator : Parser α) :
    Parser String := fun s =>
  scanWithin beyond o terminator s.cursor rounds s

end Parser

/-! ## Grammars with a cut -/

namespace Grammar

variable {ι : Type} {τ : ι → Type} {α : Type}

/-- The parser of a grammar whose repetitions are given up after so many rounds. -/
def meaningWithin (beyond : Beyond) (rounds : Nat) (env : (i : ι) → Parser (τ i)) {α : Type} :
    Grammar τ α → Parser α
  | pure _ v => Parser.succeed v
  | fail e => Parser.fail e
  | raise e => Parser.raise e
  | token text => Parser.token text
  | satisfy p => Parser.satisfy p
  | satisfyRun p allowEmpty => Parser.span p allowEmpty .satisfying
  | blanks allowEmpty => Parser.span Text.isBlank allowEmpty .whitespace
  | number => Parser.number
  | decimal locale symbols convert => Parser.decimal locale symbols convert
  | upTo terminator o => (terminator.meaningWithin beyond rounds env).upToWithin beyond rounds o
  | map p f => (p.meaningWithin beyond rounds env).mapOrStop f
  | bind p f =>
      (p.meaningWithin beyond rounds env).bind fun v => (f v).meaningWithin beyond rounds env
  | orElse p q =>
      (p.meaningWithin beyond rounds env).orElse (q.meaningWithin beyond rounds env)
  | keepRight p q =>
      (p.meaningWithin beyond rounds env).keepRight (q.meaningWithin beyond rounds env)
  | keepLeft p q =>
      (p.meaningWithin beyond rounds env).keepLeft (q.meaningWithin beyond rounds env)
  | atomic p => (p.meaningWithin beyond rounds env).atomic
  | lookAhead p => (p.meaningWithin beyond rounds env).lookAhead
  | optional p fallback => (p.meaningWithin beyond rounds env).optional p.name fallback
  | discard p => (p.meaningWithin beyond rounds env).discard p.name
  | separated p separator o =>
      (p.meaningWithin beyond rounds env).sequenceWithin beyond rounds p.name o
        (separator.meaningWithin beyond rounds env)
  | many p allowEmpty =>
      (p.meaningWithin beyond rounds env).manyWithin beyond p.name rounds allowEmpty
  | context p label => (p.meaningWithin beyond rounds env).context label
  | complete p => (p.meaningWithin beyond rounds env).complete
  | firstError p => (p.meaningWithin beyond rounds env).firstError
  | secondError p => (p.meaningWithin beyond rounds env).secondError
  | choice branches =>
      ((branches 0).meaningWithin beyond rounds env).choice
        (List.ofFn fun i => (branches i.succ).meaningWithin beyond rounds env)
  | chain parts => Parser.chain (List.ofFn fun i => (parts i).meaningWithin beyond rounds env)
  | rule i _ => env i
  | named p _ => p.meaningWithin beyond rounds env

/-- The parsers of the rules, given up after so many levels and rounds. -/
def unrollWithin (rules : (i : ι) → Grammar τ (τ i)) (beyond : Beyond) (rounds : Nat) :
    (levels : Nat) → (i : ι) → Parser (τ i)
  | 0, i => beyond (τ i)
  | levels + 1, i =>
      ((rules i).meaningWithin beyond rounds (unrollWithin rules beyond rounds levels)).nested

/-- The run of a grammar, given up after so many levels and rounds. -/
def runWithin (rules : (i : ι) → Grammar τ (τ i)) (beyond : Beyond) (levels rounds : Nat)
    (p : Grammar τ α) : Parser α := fun s =>
  (p.meaningWithin beyond rounds (unrollWithin rules beyond rounds levels) s).resume fun
    | .error (.failure e), s' =>
        (Run.stop (.failure e) s').after (.failed p.name s'.cursor.pos e.code)
    | .error e, s' => .stop e s'
    | .ok v, s' => .ok v s'

end Grammar

/-! ## The same from a state on -/

/-- Places of one text, the later of which have less left to read. -/
theorem Cursor.length_rest_lt_iff {c d : Cursor} (h : c ≤ d) :
    d.rest.length < c.rest.length ↔ d.pos ≠ c.pos := by
  have := pos_add_length_rest c
  have := pos_add_length_rest d
  rw [← source_eq_of_le h] at this
  have := pos_le_of_le h
  omega

theorem Cursor.length_rest_le {c d : Cursor} (h : c ≤ d) : d.rest.length ≤ c.rest.length := by
  have := pos_add_length_rest c
  have := pos_add_length_rest d
  rw [← source_eq_of_le h] at this
  have := pos_le_of_le h
  omega

namespace Run

variable {α β : Type}

/-- Going on in ways that are equal from a state on. -/
theorem resume_eq_of_le {s : State} {r : Run α} {k l : Except Stop α → State → Run β}
    (hr : s ≤ r.state) (hk : ∀ o t, s ≤ t → k o t = l o t) : r.resume k = r.resume l := by
  rw [resume, resume, hk r.outcome r.state hr]

end Run

namespace Parser

variable {α β : Type} {s : State}

/-- In a state and all later ones the parsers have the same run. -/
def SameFrom (s : State) (p q : Parser α) : Prop := ∀ t, s ≤ t → p t = q t

theorem SameFrom.refl (p : Parser α) : SameFrom s p p := fun _ _ => rfl

/-- What depends on a parser only by its run in the same state. -/
theorem SameFrom.once {p q : Parser α} {p' q' : Parser β} (h : SameFrom s p q)
    (hp : ∀ t, p t = q t → p' t = q' t) : SameFrom s p' q' :=
  fun t ht => hp t (h t ht)

theorem SameFrom.andThen {p q : Parser α} {f g : α → Parser β} (h : SameFrom s p q)
    (hq : Forward q) (hf : ∀ v, SameFrom s (f v) (g v)) :
    SameFrom s (p.andThen f) (q.andThen g) := by
  intro t ht
  rw [Parser.andThen, Parser.andThen, h t ht]
  refine Run.resume_eq_of_le (le_trans ht (hq t)) fun o u hu => ?_
  cases o with
  | ok v => exact hf v u hu
  | error e => rfl

theorem SameFrom.catchFailure {p q : Parser α} {f g : ParseError → Parser α}
    (h : SameFrom s p q) (hq : Forward q) (hf : ∀ e, SameFrom s (f e) (g e)) :
    SameFrom s (p.catchFailure f) (q.catchFailure g) := by
  intro t ht
  rw [Parser.catchFailure, Parser.catchFailure, Parser.recover, Parser.recover, h t ht]
  refine Run.resume_eq_of_le (le_trans ht (hq t)) fun o u hu => ?_
  cases o using outcome_cases with
  | ok v => rfl
  | failure e => exact hf e u hu
  | tooDeep limit => rfl
  | fault f => rfl

theorem SameFrom.mapOrStop {p q : Parser α} (h : SameFrom s p q) (f : α → Except Stop β) :
    SameFrom s (p.mapOrStop f) (q.mapOrStop f) :=
  h.once fun t same => by simp only [Parser.mapOrStop, Parser.andThen, same]

theorem SameFrom.mapFailure {p q : Parser α} (h : SameFrom s p q) (f : ParseError → ParseError) :
    SameFrom s (p.mapFailure f) (q.mapFailure f) :=
  h.once fun t same => by simp only [Parser.mapFailure, Parser.catchFailure, Parser.recover, same]

theorem SameFrom.atomic {p q : Parser α} (h : SameFrom s p q) : SameFrom s p.atomic q.atomic :=
  h.once fun t same => by simp only [Parser.atomic, Parser.recover, same]

theorem SameFrom.bind {p q : Parser α} {f g : α → Parser β} (h : SameFrom s p q)
    (hq : Forward q) (hf : ∀ v, SameFrom s (f v) (g v)) : SameFrom s (p.bind f) (q.bind g) :=
  (h.andThen hq hf).atomic

theorem SameFrom.orElse {p q p' q' : Parser α} (h : SameFrom s p q) (hq : Forward q)
    (h' : SameFrom s p' q') : SameFrom s (p.orElse p') (q.orElse q') :=
  (h.catchFailure hq fun _ => h'.mapFailure _).atomic

theorem SameFrom.keepRight {p q : Parser α} {p' q' : Parser β} (h : SameFrom s p q)
    (hq : Forward q) (h' : SameFrom s p' q') : SameFrom s (p.keepRight p') (q.keepRight q') :=
  (h.andThen hq fun _ => h').atomic

theorem SameFrom.keepLeft {p q : Parser α} {p' q' : Parser β} (h : SameFrom s p q)
    (hq : Forward q) (h' : SameFrom s p' q') (hq' : Forward q') :
    SameFrom s (p.keepLeft p') (q.keepLeft q') :=
  (h.andThen hq fun _ => h'.andThen hq' fun _ => .refl _).atomic

theorem SameFrom.lookAhead {p q : Parser α} (h : SameFrom s p q) :
    SameFrom s p.lookAhead q.lookAhead :=
  h.once fun t same => by simp only [Parser.lookAhead, Parser.andThen, same]

theorem SameFrom.optional {p q : Parser α} (h : SameFrom s p q) (name : String) (fallback : α) :
    SameFrom s (p.optional name fallback) (q.optional name fallback) :=
  h.once fun t same => by simp only [Parser.optional, Parser.recover, same]

theorem SameFrom.discard {p q : Parser α} (h : SameFrom s p q) (name : String) :
    SameFrom s (p.discard name) (q.discard name) :=
  h.once fun t same => by simp only [Parser.discard, Parser.recover, Parser.andThen, same]

theorem SameFrom.complete {p q : Parser α} (h : SameFrom s p q) :
    SameFrom s p.complete q.complete :=
  h.once fun t same => by simp only [Parser.complete, Parser.andThen, same]

/-! ### Lists of parsers -/

/-- Each later branch begins at the start again. -/
theorem SameFrom.otherwise {start : Cursor} (hstart : s.cursor ≤ start) {ps qs : List (Parser α)}
    (h : List.Forall₂ (SameFrom s) ps qs) (hqs : ∀ q ∈ qs, Forward q) :
    ∀ e, SameFrom s (otherwise start e ps) (otherwise start e qs) := by
  induction h with
  | nil => exact fun e => .refl _
  | cons h _ ih =>
      intro e
      refine h.catchFailure (hqs _ (.head _)) fun e' t ht => ?_
      exact ih (fun q hq => hqs q (.tail _ hq)) _ _ (State.le_moveTo_of_le ht hstart)

theorem SameFrom.choice {p q : Parser α} {ps qs : List (Parser α)} (h : SameFrom s p q)
    (hq : Forward q) (hs : List.Forall₂ (SameFrom s) ps qs) (hqs : ∀ q ∈ qs, Forward q) :
    SameFrom s (p.choice ps) (q.choice qs) := by
  intro t ht
  exact h.catchFailure hq (fun e => .otherwise (State.cursor_le_of_le ht) hs hqs e) t ht

theorem SameFrom.chain {ps qs : List (Parser α)} (h : List.Forall₂ (SameFrom s) ps qs)
    (hqs : ∀ q ∈ qs, Forward q) : SameFrom s (chain ps) (chain qs) := by
  induction h with
  | nil => exact .refl _
  | cons h _ ih =>
      have rest := ih fun q hq => hqs q (.tail _ hq)
      have forward := Forward.chain fun q hq => hqs q (.tail _ hq)
      exact h.andThen (hqs _ (.head _)) fun v => rest.andThen forward fun vs => .refl _

/-! ### Repetition -/

/-- The plain loop of `many` ends within one round more than there are characters left. -/
theorem SameFrom.manyWithin {p q : Parser α} (h : SameFrom s p q) (hq : Forward q)
    (beyond : Beyond) (name : String) :
    ∀ (rounds : Nat) (allowEmpty : Bool) (t : State), s ≤ t → t.cursor.rest.length < rounds →
      p.manyWithin beyond name rounds allowEmpty t = q.many name allowEmpty t := by
  intro rounds
  induction rounds with
  | zero => exact fun _ _ _ enough => absurd enough (Nat.not_lt_zero _)
  | succ rounds ih =>
      intro allowEmpty t ht enough
      rw [Parser.manyWithin, many, h t ht]
      refine Run.resume_eq_of_le (hq t) fun o u hu => ?_
      cases o using outcome_cases with
      | ok v =>
          have moved := Cursor.length_rest_lt_iff (State.cursor_le_of_le hu)
          dsimp only
          by_cases stalled : u.cursor.pos = t.cursor.pos
          · rw [if_pos stalled, if_neg fun progress => moved.mp progress stalled]
          · have progress := moved.mpr stalled
            rw [if_neg stalled, if_pos progress, ih true u (le_trans ht hu) (by omega)]
      | failure e => rfl
      | tooDeep limit => rfl
      | fault f => rfl

/-- A round that does not end the loop of `sequence` has moved on from where it began, over
the separator or over the element. -/
theorem SameFrom.roundsWithin {p q : Parser α} {p' q' : Parser β} (h : SameFrom s p q)
    (hq : Forward q) (h' : SameFrom s p' q') (hq' : Forward q') (beyond : Beyond) (name : String)
    (o : SequenceOptions) :
    ∀ (n : Nat) (t : State), s ≤ t → t.cursor.rest.length < n →
      p.roundsWithin beyond name o p' n t = rounds name o q q' t := by
  intro n
  induction n with
  | zero => exact fun _ _ enough => absurd enough (Nat.not_lt_zero _)
  | succ n ih =>
      intro t ht enough
      rw [Parser.roundsWithin, rounds, h' t ht]
      split
      next atEnd => rfl
      next notAtEnd =>
        refine Run.resume_eq_of_le (hq' t) fun separated u hu => ?_
        cases separated using outcome_cases with
        | failure e => rfl
        | tooDeep limit => rfl
        | fault f => rfl
        | ok w =>
            dsimp only
            rw [h u (le_trans ht hu)]
            refine Run.resume_eq_of_le (le_trans hu (hq u)) fun element v hv => ?_
            cases element using outcome_cases with
            | ok x =>
                have moved := Cursor.length_rest_lt_iff (State.cursor_le_of_le hv)
                dsimp only
                by_cases stalled : v.cursor.pos = t.cursor.pos
                · rw [if_pos stalled, if_neg fun progress => moved.mp progress stalled]
                · have progress := moved.mpr stalled
                  rw [if_neg stalled, if_pos progress, ih v (le_trans ht hv) (by omega)]
            | failure e => rfl
            | tooDeep limit => rfl
            | fault f => rfl

theorem SameFrom.sequenceWithin {p q : Parser α} {p' q' : Parser β} (h : SameFrom s p q)
    (hq : Forward q) (h' : SameFrom s p' q') (hq' : Forward q') (beyond : Beyond) {n : Nat}
    (enough : s.cursor.rest.length < n) (name : String) (o : SequenceOptions) :
    SameFrom s (p.sequenceWithin beyond n name o p') (q.sequence name o q') := by
  intro t ht
  rw [Parser.sequenceWithin, sequence, h t ht]
  refine Run.resume_eq_of_le (le_trans ht (hq t)) fun first u hu => ?_
  cases first using outcome_cases with
  | ok v =>
      have less := Cursor.length_rest_le (State.cursor_le_of_le hu)
      dsimp only
      rw [h.roundsWithin hq h' hq' beyond name o n u hu (by omega)]
  | failure e => rfl
  | tooDeep limit => rfl
  | fault f => rfl

/-- A scan moves on by one character each time. -/
theorem SameFrom.scanWithin {p q : Parser α} (h : SameFrom s p q) (hq : Forward q)
    (beyond : Beyond) (o : ScanOptions) (start : Cursor) :
    ∀ (rounds : Nat) (t : State), s ≤ t → t.cursor.rest.length < rounds →
      p.scanWithin beyond o start rounds t = scan o q start t := by
  intro rounds
  induction rounds with
  | zero => exact fun _ _ enough => absurd enough (Nat.not_lt_zero _)
  | succ rounds ih =>
      intro t ht enough
      rw [Parser.scanWithin, scan, h t ht]
      by_cases atEnd : t.cursor.isAtEnd = true
      · rw [if_pos atEnd, if_pos atEnd]
      · rw [if_neg atEnd, if_neg atEnd]
        refine Run.resume_eq_of_le (hq t) fun found u hu => ?_
        cases found using outcome_cases with
        | ok v => rfl
        | failure e =>
            have next : t ≤ u.moveTo (t.cursor.advance 1) :=
              State.le_moveTo_of_le hu (Cursor.le_advance _ _)
            have less := Cursor.length_rest_advance_lt atEnd Nat.one_pos
            exact ih _ (le_trans ht next) (by rw [State.cursor_moveTo]; omega)
        | tooDeep limit => rfl
        | fault f => rfl

theorem SameFrom.upToWithin {p q : Parser α} (h : SameFrom s p q) (hq : Forward q)
    (beyond : Beyond) {rounds : Nat} (enough : s.cursor.rest.length < rounds) (o : ScanOptions) :
    SameFrom s (p.upToWithin beyond rounds o) (q.upTo o) := by
  intro t ht
  have less := Cursor.length_rest_le (State.cursor_le_of_le ht)
  exact h.scanWithin hq beyond o t.cursor rounds t ht (by omega)

end Parser

/-! ## Grammars -/

namespace Grammar

variable {ι : Type} {τ : ι → Type} {α : Type} {s : State}

open Descent.Parser (Forward SameFrom)

/-- The same positions of two tables. -/
theorem sameFrom_ofFn {n : Nat} {ps qs : Fin n → Parser α} (h : ∀ i, SameFrom s (ps i) (qs i)) :
    List.Forall₂ (SameFrom s) (List.ofFn ps) (List.ofFn qs) := by
  rw [List.forall₂_iff_get]
  refine ⟨by simp, fun i hi hi' => ?_⟩
  simpa using h ⟨i, by simpa using hi⟩

/-- With enough rounds a grammar does the same over rules that do the same. -/
theorem sameFrom_meaningWithin {env env' : (i : ι) → Parser (τ i)}
    (henv : ∀ i, SameFrom s (env i) (env' i)) (forward : ∀ i, Forward (env' i)) (beyond : Beyond)
    {rounds : Nat} (enough : s.cursor.rest.length < rounds) (p : Grammar τ α) :
    SameFrom s (p.meaningWithin beyond rounds env) (p.meaning env') := by
  induction p with
  | pure label v => exact .refl _
  | fail e => exact .refl _
  | raise e => exact .refl _
  | token text => exact .refl _
  | satisfy p => exact .refl _
  | satisfyRun p allowEmpty => exact .refl _
  | blanks allowEmpty => exact .refl _
  | number => exact .refl _
  | decimal locale symbols convert => exact .refl _
  | upTo terminator o ih => exact ih.upToWithin (forward_meaning forward _) beyond enough o
  | map p f ih => exact ih.mapOrStop f
  | bind p f ihp ihf => exact ihp.bind (forward_meaning forward p) ihf
  | orElse p q ihp ihq => exact ihp.orElse (forward_meaning forward p) ihq
  | keepRight p q ihp ihq => exact ihp.keepRight (forward_meaning forward p) ihq
  | keepLeft p q ihp ihq =>
      exact ihp.keepLeft (forward_meaning forward p) ihq (forward_meaning forward q)
  | atomic p ih => exact ih.atomic
  | lookAhead p ih => exact ih.lookAhead
  | optional p fallback ih => exact ih.optional p.name fallback
  | discard p ih => exact ih.discard p.name
  | separated p separator o ihp ihsep =>
      exact ihp.sequenceWithin (forward_meaning forward p) ihsep (forward_meaning forward _) beyond
        enough p.name o
  | many p allowEmpty ih =>
      intro t ht
      have less := Cursor.length_rest_le (State.cursor_le_of_le ht)
      exact ih.manyWithin (forward_meaning forward p) beyond p.name rounds allowEmpty t ht
        (by omega)
  | context p label ih => exact ih.mapFailure _
  | complete p ih => exact ih.complete
  | firstError p ih => exact ih.mapFailure _
  | secondError p ih => exact ih.mapFailure _
  | choice branches ih =>
      refine (ih 0).choice (forward_meaning forward _) (sameFrom_ofFn fun i => ih i.succ) ?_
      exact List.forall_mem_ofFn_iff.mpr fun i => forward_meaning forward (branches i.succ)
  | chain parts ih =>
      refine SameFrom.chain (sameFrom_ofFn ih) ?_
      exact List.forall_mem_ofFn_iff.mpr fun i => forward_meaning forward (parts i)
  | rule i label => exact henv i
  | named p label ih => exact ih

/-- With more levels than the nesting still allows, the cut is behind the level at which
entry is refused. -/
theorem sameFrom_unrollWithin (rules : (i : ι) → Grammar τ (τ i)) (beyond : Beyond)
    {rounds : Nat} :
    ∀ {levels : Nat} {s : State}, s.nesting.budget < levels → s.cursor.rest.length < rounds →
      ∀ i, SameFrom s (unrollWithin rules beyond rounds levels i)
        (unroll rules (s.nesting.budget + 1) i)
  | 0, _, deep, _, _ => absurd deep (Nat.not_lt_zero _)
  | levels + 1, s, deep, enough, i => by
      intro t ht
      have nesting := State.nesting_eq_of_le ht
      rw [unrollWithin, unroll]
      cases entered : s.nesting.enter? with
      | none =>
          rw [Parser.nested_of_refused (nesting ▸ entered),
            Parser.nested_of_refused (nesting ▸ entered)]
      | some inner =>
          have budget := Nesting.budget_of_enter? entered
          have less := Cursor.length_rest_le (State.cursor_le_of_le ht)
          have room : (⟨t.cursor, inner⟩ : State).nesting.budget < levels := by
            show inner.budget < levels
            omega
          have body := sameFrom_meaningWithin (s := ⟨t.cursor, inner⟩)
            (sameFrom_unrollWithin rules beyond room (Nat.lt_of_le_of_lt less enough))
            (forward_unroll rules _) beyond (Nat.lt_of_le_of_lt less enough) (rules i)
          rw [budget, Parser.nested_of_entered (nesting ▸ entered),
            Parser.nested_of_entered (nesting ▸ entered), body _ (le_refl _)]

end Grammar

/-! ## How much a repetition collects -/

theorem Run.eq_of_outcome_map {α β : Type} {r : Run α} {f : α → β} {w : β}
    (h : (r.map f).outcome = .ok w) : ∃ v, r.outcome = .ok v ∧ w = f v := by
  rw [Run.map] at h
  cases ho : r.outcome with
  | ok v =>
      rw [ho] at h
      cases h
      exact ⟨v, rfl, rfl⟩
  | error e =>
      rw [ho] at h
      cases h

namespace Parser

variable {α β : Type}

/-- Each element but the last reads a character. -/
theorem length_many_le (p : Parser α) (name : String) (allowEmpty : Bool) (s : State) :
    ∀ {vs}, (p.many name allowEmpty s).outcome = .ok vs →
      vs.length ≤ s.cursor.rest.length + 1 := by
  induction allowEmpty, s using many.induct with
  | case1 allowEmpty s ih =>
      intro vs
      rw [many, Run.outcome_resume]
      cases (p s).outcome using outcome_cases with
      | ok v =>
          dsimp only
          split
          next progress =>
            intro collected
            obtain ⟨ws, others, rfl⟩ := Run.eq_of_outcome_map collected
            have := ih _ progress others
            rw [List.length_cons]
            omega
          next stalled =>
            rintro ⟨⟩
            exact Nat.le_add_left 1 _
      | failure e => cases allowEmpty <;> rintro ⟨⟩; exact Nat.zero_le _
      | tooDeep limit => rintro ⟨⟩
      | fault f => cases allowEmpty <;> rintro ⟨⟩; exact Nat.zero_le _

/-- Each round reads a character, but for a last one that begins before the end. -/
theorem length_rounds_le (p : Parser α) (separator : Parser β) (name : String)
    (o : SequenceOptions) (s : State) :
    ∀ {vs}, (rounds name o p separator s).outcome = .ok vs →
      vs.length ≤ s.cursor.rest.length := by
  induction s using rounds.induct with
  | case1 s atEnd =>
      intro vs
      rw [rounds, if_pos atEnd]
      rintro ⟨⟩
      exact Nat.zero_le _
  | case2 s notAtEnd ih =>
      intro vs
      have unread : 0 < s.cursor.rest.length := by
        simpa [Cursor.isAtEnd, List.length_pos_iff] using notAtEnd
      rw [rounds, if_neg notAtEnd, Run.outcome_resume]
      cases (separator s).outcome using outcome_cases with
      | failure e => rintro ⟨⟩; exact Nat.zero_le _
      | tooDeep limit => rintro ⟨⟩
      | fault f => rintro ⟨⟩
      | ok w =>
          dsimp only
          rw [Run.outcome_resume]
          cases (p (separator s).state).outcome using outcome_cases with
          | ok v =>
              dsimp only
              split
              next progress =>
                intro collected
                obtain ⟨ws, others, rfl⟩ := Run.eq_of_outcome_map collected
                have := ih _ progress others
                rw [List.length_cons]
                omega
              next stalled =>
                rintro ⟨⟩
                exact unread
          | failure e => rintro ⟨⟩; exact Nat.zero_le _
          | tooDeep limit => rintro ⟨⟩
          | fault f => rintro ⟨⟩

/-- The first element may read nothing. -/
theorem length_sequence_le {p : Parser α} (hp : Forward p) (separator : Parser β) (name : String)
    (o : SequenceOptions) (s : State) {vs : List α}
    (collected : (p.sequence name o separator s).outcome = .ok vs) :
    vs.length ≤ s.cursor.rest.length + 1 := by
  have less := Cursor.length_rest_le (State.cursor_le_of_le (hp s))
  rw [sequence, Run.outcome_resume] at collected
  cases first : (p s).outcome using outcome_cases with
  | ok v =>
      rw [first] at collected
      obtain ⟨ws, others, rfl⟩ := Run.eq_of_outcome_map collected
      have := length_rounds_le p separator name o _ others
      rw [List.length_cons]
      omega
  | failure e =>
      rw [first] at collected
      dsimp only at collected
      split at collected <;> cases collected
      exact Nat.zero_le _
  | tooDeep limit =>
      rw [first] at collected
      cases collected
  | fault f =>
      rw [first] at collected
      cases collected

end Parser

/-! ## Whole runs -/

namespace Grammar

variable {ι : Type} {τ : ι → Type} {α : Type}

/-- With enough levels and rounds a run does not come to the cut, and so it may be computed
by structural recursion. -/
theorem runWithin_eq_run (rules : (i : ι) → Grammar τ (τ i)) (p : Grammar τ α) (s : State)
    (beyond : Beyond) (levels rounds : Nat) (deep : s.nesting.budget < levels)
    (enough : s.cursor.rest.length < rounds) :
    p.runWithin rules beyond levels rounds s = p.run rules s := by
  have rulesSame := sameFrom_unrollWithin rules beyond deep enough
  have same := sameFrom_meaningWithin rulesSame (forward_unroll rules _) beyond enough p
  unfold runWithin run parser
  exact congrArg (Run.resume · _) (same s (le_refl s))

/-- Every run ends, whatever is done beyond the cut.  A repetition collects at most one
element more than there are characters left. -/
theorem run_ends (rules : (i : ι) → Grammar τ (τ i)) (p : Grammar τ α) (s : State) :
    (∀ (beyond : Beyond) (levels rounds : Nat), s.nesting.budget < levels →
        s.cursor.rest.length < rounds →
        p.runWithin rules beyond levels rounds s = p.run rules s) ∧
      (∀ allowEmpty vs, ((p.many allowEmpty).run rules s).outcome = .ok vs →
        vs.length ≤ s.cursor.rest.length + 1) ∧
      ∀ {β : Type} (separator : Grammar τ β) (o : Parser.SequenceOptions) vs,
        ((p.separated separator o).run rules s).outcome = .ok vs →
        vs.length ≤ s.cursor.rest.length + 1 := by
  refine ⟨runWithin_eq_run rules p s, fun allowEmpty vs collected => ?_,
    fun separator o vs collected => ?_⟩
  · rw [outcome_run] at collected
    exact Parser.length_many_le _ _ _ s collected
  · rw [outcome_run] at collected
    exact Parser.length_sequence_le (forward_meaning (forward_unroll rules _) p) _ _ _ s collected

/-- A rule that begins with itself. -/
def leftRecursive (_ : Unit) : Grammar (fun _ : Unit => String) String :=
  (rule ()).orElse (token "a")

/-- An element that may read nothing. -/
def letterOrNothing : Grammar (fun _ : Unit => String) String := (token "a").optional ""

/-- The left recursive rule stops at its limit.  Of elements that may read nothing both
repetitions collect as many as they can: one at the end of the input, and one before the
first separator. -/
theorem run_ends_stalled :
    ((⟨5, 0⟩ : Nesting).budget < 6 ∧ (Cursor.start "aa").rest.length < 3 ∧
        (rule ()).runWithin leftRecursive (fun _ => Parser.tooDeep) 6 3 ⟨.start "aa", ⟨5, 0⟩⟩ =
          (rule ()).run leftRecursive ⟨.start "aa", ⟨5, 0⟩⟩) ∧
      ((letterOrNothing.many.run leftRecursive ⟨.start "aa", ⟨5, 0⟩⟩).outcome =
          .ok ["a", "a", ""] ∧
        ["a", "a", ""].length ≤ (Cursor.start "aa").rest.length + 1) ∧
      ((letterOrNothing.separated comma).run leftRecursive ⟨.start ",", ⟨5, 0⟩⟩).outcome =
          .ok ["", ""] ∧
        ["", ""].length ≤ (Cursor.start ",").rest.length + 1 := by
  have many : (letterOrNothing.many.run leftRecursive ⟨.start "aa", ⟨5, 0⟩⟩).outcome =
      .ok ["a", "a", ""] := by
    rw [← runWithin_eq_run _ _ _ (fun _ => Parser.tooDeep) 6 3 (by decide) (by decide)]
    rfl
  have separated : ((letterOrNothing.separated comma).run leftRecursive
      ⟨.start ",", ⟨5, 0⟩⟩).outcome = .ok ["", ""] := by
    rw [← runWithin_eq_run _ _ _ (fun _ => Parser.tooDeep) 6 2 (by decide) (by decide)]
    rfl
  refine ⟨⟨by decide, by decide, ?_⟩, ⟨many, ?_⟩, separated, ?_⟩
  · exact (run_ends leftRecursive (rule ()) ⟨.start "aa", ⟨5, 0⟩⟩).1 _ 6 3 (by decide) (by decide)
  · exact (run_ends leftRecursive letterOrNothing ⟨.start "aa", ⟨5, 0⟩⟩).2.1 true _ many
  · exact (run_ends leftRecursive letterOrNothing ⟨.start ",", ⟨5, 0⟩⟩).2.2 comma {} _ separated

end Grammar

end Descent
