import Descent.Grammar.Standard
import Descent.Proofs.Forward

/-!
# Failures that put the cursor back

Some grammars leave the cursor where it was when they fail, whatever their parts do.
The others leave it where a part left it.  `Restoring` is the class of grammars that
put the cursor back, given by how they are put together.

* Terminals read nothing when they fail.
* `atomic`, `bind`, `orElse`, `keepRight` and `keepLeft` put the cursor back over any
  parts.  So do `upTo`, over any terminator, and `choice`, over any two branches or more.
* `optional` and `discard` do not fail, over any part.
* `map`, `context`, `named`, `firstError`, `secondError`, `many` and `separated` add
  nothing of their own, so they put the cursor back where their part does.  A function
  under `map` must not itself fail.  The separator may be anything.
* A rule puts the cursor back where its grammar does.

Rules may go round in a circle, so the class cannot be built up from below along them.
It is relative to a set of rules instead.  If the grammars of these rules are in the
class relative to the set itself, then all of the class put the cursor back
(`cursor_run_of_failure`), by induction on the levels of nesting still allowed.

`complete` and `chain` are not in the class.  The first one fails behind what its part
has read, and the second one stays where a part failed.
-/

namespace Descent

/-! ## Runs -/

namespace Run

variable {α β : Type}

/-- If the run failed, its cursor is the given one. -/
def Restored (r : Run α) (c : Cursor) : Prop :=
  ∀ e, r.outcome = .error (.failure e) → r.state.cursor = c

theorem restored_ok (v : α) (s : State) (c : Cursor) : (ok v s).Restored c := nofun

theorem restored_stop {s : State} {c : Cursor} (h : s.cursor = c) (e : Stop) :
    (stop e s : Run α).Restored c := fun _ _ => h

theorem restored_tooDeep (limit : Int) (s : State) (c : Cursor) :
    (stop (.tooDeep limit) s : Run α).Restored c := nofun

theorem restored_fault (f : Fault) (s : State) (c : Cursor) :
    (stop (.fault f) s : Run α).Restored c := nofun

/-- Going on after a stop, with a value. -/
theorem restored_noteCaught (catcher : Catcher) (name : String) (e : Stop) (v : α) (s : State)
    (c : Cursor) : (Parser.noteCaught catcher name e (ok v s)).Restored c := by
  cases e with
  | failure e => exact restored_ok v s c
  | tooDeep limit => exact restored_ok v s c
  | fault f => exact restored_ok v s c

theorem Restored.after {r : Run α} {c : Cursor} (h : r.Restored c) (e : Event) :
    (r.after e).Restored c := h

theorem Restored.map {r : Run α} {c : Cursor} (h : r.Restored c) (f : α → β) :
    (r.map f).Restored c := by
  intro e failed
  cases ho : r.outcome with
  | ok v => simp [Run.map, ho, Except.map] at failed
  | error e' =>
      simp only [Run.map, ho, Except.map, Except.error.injEq] at failed
      exact h e (by rw [ho, failed])

/-- Any run is restored when what follows it is. -/
theorem restored_resume {r : Run α} {k : Except Stop α → State → Run β} {c : Cursor}
    (hk : ∀ o t, (k o t).Restored c) : (r.resume k).Restored c :=
  hk r.outcome r.state

/-- What follows a failure may use that the cursor is back. -/
theorem Restored.resume {r : Run α} {k : Except Stop α → State → Run β} {c : Cursor}
    (hr : r.Restored c) (hv : ∀ v t, (k (.ok v) t).Restored c)
    (he : ∀ e t, t.cursor = c → (k (.error (.failure e)) t).Restored c)
    (hd : ∀ limit t, (k (.error (.tooDeep limit)) t).Restored c)
    (hf : ∀ f t, (k (.error (.fault f)) t).Restored c) : (r.resume k).Restored c := by
  obtain ⟨o, t, trace⟩ := r
  cases o using outcome_cases with
  | ok v => exact hv v t
  | failure e => exact he e t (hr e rfl)
  | tooDeep limit => exact hd limit t
  | fault f => exact hf f t

end Run

/-! ## Parsers -/

namespace Parser

variable {α β : Type}

/-- A failure puts the cursor back. -/
def Restores (p : Parser α) : Prop := ∀ s, (p s).Restored s.cursor

theorem IsReading.restores {p : Parser α} (h : IsReading p) : Restores p := by
  obtain ⟨look, hlook⟩ := h
  intro s e failed
  rw [hlook, Reading.outcome_run] at failed
  rw [hlook, Reading.cursor_run, (look s.cursor.rest).length_of_failure e failed,
    Cursor.advance_zero]

theorem restores_atomic (p : Parser α) : Restores p.atomic := by
  intro s
  refine Run.restored_resume fun o t => ?_
  cases o with
  | ok v => exact Run.restored_ok v t _
  | error e => exact Run.restored_stop rfl e

theorem restores_optional (p : Parser α) (name : String) (fallback : α) :
    Restores (p.optional name fallback) := by
  intro s
  refine Run.restored_resume fun o t => ?_
  cases o using outcome_cases with
  | ok v => exact Run.restored_ok v t _
  | failure e => exact Run.restored_noteCaught .optional name (.failure e) fallback _ _
  | tooDeep limit => exact Run.restored_tooDeep limit t _
  | fault f => exact Run.restored_noteCaught .optional name (.fault f) fallback _ _

theorem restores_discard (p : Parser α) (name : String) : Restores (p.discard name) := by
  intro s
  refine Run.restored_resume fun o t => ?_
  cases o using outcome_cases with
  | ok v => exact Run.restored_ok v t _
  | failure e => exact Run.restored_noteCaught .discard name (.failure e) () t _
  | tooDeep limit => exact Run.restored_tooDeep limit t _
  | fault f => exact Run.restored_noteCaught .discard name (.fault f) () t _

theorem Restores.mapOrStop {p : Parser α} (hp : Restores p) {f : α → Except Stop β}
    (hf : ∀ v e, f v ≠ .error (.failure e)) : Restores (p.mapOrStop f) := by
  intro s
  refine (hp s).resume (fun v t => ?_) (fun e t h => Run.restored_stop h _)
    (fun limit t => Run.restored_tooDeep limit t _) (fun f t => Run.restored_fault f t _)
  intro e failed
  cases hv : f v with
  | ok w =>
      simp only [hv] at failed
      cases failed
  | error e' =>
      simp only [hv] at failed
      cases e' with
      | failure e' => exact absurd hv (hf v e')
      | tooDeep limit => cases failed
      | fault f => cases failed

theorem Restores.mapFailure {p : Parser α} (hp : Restores p) (f : ParseError → ParseError) :
    Restores (p.mapFailure f) := fun s =>
  (hp s).resume (fun v t => Run.restored_ok v t _) (fun _ _ h => Run.restored_stop h _)
    (fun limit t => Run.restored_tooDeep limit t _) (fun f t => Run.restored_fault f t _)

/-! ### Lists of parsers -/

/-- The branches after a failure end at the start if they begin there. -/
theorem restored_otherwise {start : Cursor} (ps : List (Parser α)) :
    ∀ (e : ParseError) (t : State), t.cursor = start → (otherwise start e ps t).Restored start := by
  induction ps with
  | nil =>
      intro e t h
      exact Run.restored_stop h _
  | cons p ps ih =>
      intro e t _
      refine Run.restored_resume fun o u => ?_
      cases o using outcome_cases with
      | ok v => exact Run.restored_ok v u _
      | failure e' => exact ih _ _ rfl
      | tooDeep limit => exact Run.restored_tooDeep limit u _
      | fault f => exact Run.restored_fault f u _

/-- The first branch alone would not put the cursor back, but the second one does. -/
theorem restores_choice (p q : Parser α) (ps : List (Parser α)) :
    Restores (p.choice (q :: ps)) := by
  intro s
  refine Run.restored_resume fun o t => ?_
  cases o using outcome_cases with
  | ok v => exact Run.restored_ok v t _
  | failure e =>
      -- The second branch is what puts the cursor back, so the list is opened once.
      refine Run.restored_resume fun o u => ?_
      cases o using outcome_cases with
      | ok v => exact Run.restored_ok v u _
      | failure e' => exact restored_otherwise ps _ _ rfl
      | tooDeep limit => exact Run.restored_tooDeep limit u _
      | fault f => exact Run.restored_fault f u _
  | tooDeep limit => exact Run.restored_tooDeep limit t _
  | fault f => exact Run.restored_fault f t _

/-! ### Repetition -/

/-- A repetition that may be empty does not fail. -/
theorem restored_many_true (p : Parser α) (name : String) (c : Cursor) (s : State) :
    (p.many name true s).Restored c := by
  generalize hallow : true = allowEmpty
  induction allowEmpty, s using many.induct with
  | case1 allowEmpty s ih =>
      subst hallow
      rw [many]
      refine Run.restored_resume fun o t => ?_
      cases o using outcome_cases with
      | ok v =>
          dsimp only
          split
          next progress => exact (ih t progress rfl).map _
          next stalled => exact (Run.restored_ok _ t c).after _
      | failure e => exact Run.restored_noteCaught .many name (.failure e) [] t c
      | tooDeep limit => exact Run.restored_tooDeep limit t c
      | fault f => exact Run.restored_noteCaught .many name (.fault f) [] t c

theorem Restores.many {p : Parser α} (hp : Restores p) (name : String) (allowEmpty : Bool) :
    Restores (p.many name allowEmpty) := by
  intro s
  cases allowEmpty with
  | true => exact restored_many_true p name _ s
  | false =>
      rw [Parser.many]
      refine (hp s).resume (fun v t => ?_) (fun e t h => Run.restored_stop h _)
        (fun limit t => Run.restored_tooDeep limit t _) (fun f t => Run.restored_fault f t _)
      dsimp only
      split
      next progress => exact (restored_many_true p name _ t).map _
      next stalled => exact (Run.restored_ok _ t _).after _

/-- Rounds do not fail. -/
theorem restored_rounds (p : Parser α) (separator : Parser β) (name : String)
    (o : SequenceOptions) (c : Cursor) (s : State) :
    (rounds name o p separator s).Restored c := by
  induction s using rounds.induct with
  | case1 s atEnd =>
      rw [rounds, if_pos atEnd]
      exact Run.restored_ok [] s c
  | case2 s notAtEnd ih =>
      rw [rounds, if_neg notAtEnd]
      refine Run.restored_resume fun separated t => ?_
      cases separated using outcome_cases with
      | failure e => exact Run.restored_ok [] _ c
      | tooDeep limit => exact Run.restored_tooDeep limit t c
      | fault f => exact Run.restored_fault f t c
      | ok w =>
          refine Run.restored_resume fun element u => ?_
          cases element using outcome_cases with
          | ok v =>
              dsimp only
              split
              next progress => exact (ih u progress).map _
              next stalled => exact (Run.restored_ok _ u c).after _
          | failure e => exact Run.restored_ok [] _ c
          | tooDeep limit => exact Run.restored_tooDeep limit u c
          | fault f => exact Run.restored_fault f u c

theorem Restores.sequence {p : Parser α} (hp : Restores p) (name : String)
    (o : SequenceOptions) (separator : Parser β) : Restores (p.sequence name o separator) := by
  intro s
  refine (hp s).resume (fun v t => (restored_rounds p separator name o _ t).map _) (fun e t h => ?_)
    (fun limit t => Run.restored_tooDeep limit t _) (fun f t => Run.restored_fault f t _)
  dsimp only
  split
  next allowed => exact Run.restored_ok [] t _
  next notAllowed => exact Run.restored_stop h _

/-- A scan that fails ends at its start, wherever it had got to. -/
theorem restored_scan (terminator : Parser α) (o : ScanOptions) (start : Cursor) (s : State) :
    (scan o terminator start s).Restored start := by
  induction s using scan.induct o start with
  | case1 s atEnd allowed =>
      rw [scan, if_pos atEnd, if_pos allowed]
      exact Run.restored_ok _ s start
  | case2 s atEnd notAllowed =>
      rw [scan, if_pos atEnd, if_neg notAllowed]
      exact Run.restored_stop rfl _
  | case3 s notAtEnd ih =>
      rw [scan, if_neg notAtEnd]
      refine Run.restored_resume fun stopped t => ?_
      cases stopped using outcome_cases with
      | ok v =>
          dsimp only
          split
          next empty => exact Run.restored_stop rfl _
          next found => exact Run.restored_ok _ _ start
      | failure e => exact ih t
      | tooDeep limit => exact Run.restored_tooDeep limit t start
      | fault f => exact Run.restored_fault f t start

theorem restores_upTo (terminator : Parser α) (o : ScanOptions) : Restores (terminator.upTo o) :=
  fun s => restored_scan terminator o s.cursor s

/-! ### Nesting -/

theorem restores_tooDeep : Restores (tooDeep : Parser α) :=
  fun s => Run.restored_tooDeep s.nesting.limit s s.cursor

theorem Restores.nested {p : Parser α} (hp : Restores p) : Restores p.nested := by
  intro s
  cases entered : s.nesting.enter? with
  | none =>
      rw [nested_of_refused entered]
      exact Run.restored_tooDeep s.nesting.limit s s.cursor
  | some inner =>
      rw [nested_of_entered entered]
      intro e failed
      exact hp ⟨s.cursor, inner⟩ e failed

end Parser

/-! ## Grammars -/

namespace Grammar

variable {ι : Type} {τ : ι → Type} {α β : Type} {good : ι → Prop}

/-- The grammars that put the cursor back when they fail, if the good rules do. -/
inductive Restoring (good : ι → Prop) : {α : Type} → Grammar τ α → Prop where
  | pure {α : Type} (label : String) (v : α) : Restoring good (.pure label v)
  | fail {α : Type} (e : ParseError) : Restoring good (.fail e : Grammar τ α)
  | token (text : String) : Restoring good (.token text)
  | satisfy (p : Char → Bool) : Restoring good (.satisfy p)
  | satisfyRun (p : Char → Bool) (allowEmpty : Bool) : Restoring good (.satisfyRun p allowEmpty)
  | blanks (allowEmpty : Bool) : Restoring good (.blanks allowEmpty)
  | number : Restoring good .number
  | decimal (locale : String) (symbols : NumberSymbols) (convert : Conversion) :
      Restoring good (.decimal locale symbols convert)
  | upTo {α : Type} (terminator : Grammar τ α) (o : Parser.ScanOptions) :
      Restoring good (.upTo terminator o)
  | atomic {α : Type} (p : Grammar τ α) : Restoring good (.atomic p)
  | bind {α β : Type} (p : Grammar τ α) (f : α → Grammar τ β) : Restoring good (.bind p f)
  | orElse {α : Type} (p q : Grammar τ α) : Restoring good (.orElse p q)
  | keepRight {α β : Type} (p : Grammar τ α) (q : Grammar τ β) : Restoring good (.keepRight p q)
  | keepLeft {α β : Type} (p : Grammar τ α) (q : Grammar τ β) : Restoring good (.keepLeft p q)
  | optional {α : Type} (p : Grammar τ α) (fallback : α) : Restoring good (.optional p fallback)
  | discard {α : Type} (p : Grammar τ α) : Restoring good (.discard p)
  | choice {α : Type} {n : Nat} (branches : Fin (n + 2) → Grammar τ α) :
      Restoring good (.choice branches)
  | map {α β : Type} {p : Grammar τ α} {f : α → Except Stop β} (hp : Restoring good p)
      (hf : ∀ v e, f v ≠ .error (.failure e)) : Restoring good (.map p f)
  | context {α : Type} {p : Grammar τ α} (hp : Restoring good p) (label : String) :
      Restoring good (.context p label)
  | named {α : Type} {p : Grammar τ α} (hp : Restoring good p) (label : String) :
      Restoring good (.named p label)
  | firstError {α : Type} {p : Grammar τ α} (hp : Restoring good p) : Restoring good (.firstError p)
  | secondError {α : Type} {p : Grammar τ α} (hp : Restoring good p) :
      Restoring good (.secondError p)
  | many {α : Type} {p : Grammar τ α} (hp : Restoring good p) (allowEmpty : Bool) :
      Restoring good (.many p allowEmpty)
  | separated {α β : Type} {p : Grammar τ α} (hp : Restoring good p) (separator : Grammar τ β)
      (o : Parser.SequenceOptions) : Restoring good (.separated p separator o)
  | rule {i : ι} (hi : good i) (label : String) : Restoring good (.rule i label)

/-! ### Standard grammars -/

theorem Restoring.fmap {p : Grammar τ α} (hp : Restoring good p) (f : α → β) :
    Restoring good (f <$> p) := by
  refine (hp.map fun v e h => ?_).named p.name
  cases h

theorem restoring_empty : Restoring good (empty : Grammar τ String) := .pure "empty" ""

theorem restoring_optionalBlanks :
    Restoring good (optionalBlanks : Grammar τ (Option String)) :=
  (Restoring.optional _ none).named _

theorem restoring_space : Restoring good (space : Grammar τ String) :=
  (Restoring.satisfyRun _ _).named _

theorem restoring_newline : Restoring good (newline : Grammar τ String) :=
  (Restoring.bind _ _).named _

theorem restoring_comma : Restoring good (comma : Grammar τ Unit) :=
  ((Restoring.keepRight _ _).fmap _).named _

/-- Each literal adds an alternative, which puts the cursor back over any parts. -/
theorem restoring_firstLiteral (entries : List (String × α)) :
    Restoring good (firstLiteral entries : Grammar τ α) :=
  firstLiteral_of_step (fun e => .fail e) (fun _ _ _ _ => (Restoring.orElse _ _).firstError) entries

theorem restoring_of_member? {m : Member} {p : Grammar τ Member} (h : member? m = .ok p) :
    Restoring good p := by
  obtain ⟨text, v, label, rfl⟩ := exists_of_member? h
  exact ((Restoring.token text).fmap _).named label

theorem restoring_of_enumeration? {e : Enumeration} {p : Grammar τ Member}
    (h : enumeration? e = .ok p) : Restoring good p := by
  obtain ⟨entries, label, rfl⟩ := exists_of_enumeration? h
  exact (restoring_firstLiteral entries).named label

theorem restoring_of_decimal? {table : Option LocaleTable} {code : String}
    {convert : NumberSymbols → Conversion} {p : Grammar τ Decimal}
    (h : decimal? table code convert = .ok p) : Restoring good p := by
  unfold decimal? at h
  split at h
  next symbols found =>
    cases h
    exact .decimal code symbols (convert symbols)
  next e unknown => cases h

/-! ### The class is sound -/

theorem Restoring.restores_meaning {env : (i : ι) → Parser (τ i)}
    (henv : ∀ i, good i → (env i).Restores) {p : Grammar τ α} (hp : Restoring good p) :
    (p.meaning env).Restores := by
  induction hp with
  | pure label v => exact (Parser.isReading_succeed v).restores
  | fail e => exact (Parser.isReading_fail e).restores
  | token text => exact (Parser.isReading_token text).restores
  | satisfy p => exact (Parser.isReading_satisfy p).restores
  | satisfyRun p allowEmpty => exact (Parser.isReading_span p allowEmpty _).restores
  | blanks allowEmpty => exact (Parser.isReading_span _ allowEmpty _).restores
  | number => exact Parser.isReading_number.restores
  | decimal locale symbols convert =>
      exact (Parser.isReading_decimal locale symbols convert).restores
  | upTo terminator o => exact Parser.restores_upTo _ o
  | atomic p => exact Parser.restores_atomic _
  | bind p f => exact Parser.restores_atomic _
  | orElse p q => exact Parser.restores_atomic _
  | keepRight p q => exact Parser.restores_atomic _
  | keepLeft p q => exact Parser.restores_atomic _
  | optional p fallback => exact Parser.restores_optional _ _ fallback
  | discard p => exact Parser.restores_discard _ _
  | @choice _ n branches =>
      rw [meaning, List.ofFn_succ]
      exact Parser.restores_choice _ _ _
  | map hp hf ih => exact ih.mapOrStop hf
  | context hp label ih => exact ih.mapFailure _
  | named hp label ih => exact ih
  | firstError hp ih => exact ih.mapFailure _
  | secondError hp ih => exact ih.mapFailure _
  | many hp allowEmpty ih => exact ih.many _ allowEmpty
  | separated hp separator o ih => exact ih.sequence _ o _
  | rule hi label => exact henv _ hi

/-- Good rules put the cursor back, for any number of levels. -/
theorem restores_unroll {rules : (i : ι) → Grammar τ (τ i)}
    (hrules : ∀ i, good i → Restoring good (rules i)) :
    ∀ (levels : Nat) (i : ι), good i → (unroll rules levels i).Restores
  | 0, _, _ => Parser.restores_tooDeep
  | levels + 1, i, hi =>
      ((hrules i hi).restores_meaning (restores_unroll hrules levels)).nested

/-- A run of a restoring grammar that ends in a failure leaves the cursor where it
was. -/
theorem cursor_run_of_failure {rules : (i : ι) → Grammar τ (τ i)}
    (hrules : ∀ i, good i → Restoring good (rules i)) {p : Grammar τ α} (hp : Restoring good p)
    {s : State} {e : ParseError} (failed : (p.run rules s).outcome = .error (.failure e)) :
    (p.run rules s).state.cursor = s.cursor := by
  rw [outcome_run] at failed
  rw [state_run]
  exact hp.restores_meaning (restores_unroll hrules _) s e failed

/-- Round brackets with square ones inside or a cross, and square brackets with round
ones inside. -/
def brackets : Bool → Grammar (fun _ : Bool => String) String
  | false => (token "x").orElse (((token "(").keepRight (rule true)).keepLeft (token ")"))
  | true => ((token "[").keepRight (rule false)).keepLeft (token "]")

/-- Four levels down a bracket is missing, at the last level that the limit allows. -/
theorem cursor_run_brackets :
    (∀ square, True → Restoring (fun _ => True) (brackets square)) ∧
      Restoring (fun _ => True) (rule false : Grammar (fun _ : Bool => String) String) ∧
      ((rule false).run brackets ⟨.ofChars "ab([(y".toList 2, ⟨4, 0⟩⟩).outcome =
        .error (.failure (.either (.token (.one "x"))
          (.either (.token (.one "x")) (.token (.one "["))))) ∧
      ((rule false).run brackets ⟨.ofChars "ab([(y".toList 2, ⟨4, 0⟩⟩).state.cursor =
        .ofChars "ab([(y".toList 2 := by
  have hrules : ∀ square, True → Restoring (fun _ => True) (brackets square) := by
    intro square _
    cases square with
    | false => exact .orElse _ _
    | true => exact .keepLeft _ _
  have hp : Restoring (fun _ => True) (rule false : Grammar (fun _ : Bool => String) String) :=
    .rule trivial _
  have failed : ((rule false).run brackets ⟨.ofChars "ab([(y".toList 2, ⟨4, 0⟩⟩).outcome =
      .error (.failure (.either (.token (.one "x"))
        (.either (.token (.one "x")) (.token (.one "["))))) := rfl
  exact ⟨hrules, hp, failed, cursor_run_of_failure hrules hp failed⟩

end Grammar

end Descent
