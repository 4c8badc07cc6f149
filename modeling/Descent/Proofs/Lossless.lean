import Descent.Proofs.Restoration
import Descent.Proofs.Termination

/-!
# Grammars that give back what they read

The value of some grammars is the text they have read, no less and no more and in the same
order.  Such a value is looked at through a *view*, which makes characters of it: a text is
viewed as its characters, a character as itself, and a list as the views of its items one
after the other.  `Lossless` is the class of these grammars, each with its view.

* Literals, single characters, runs of a class and the text before a terminator are what
  they read.  The terminator must not be read with it.
* Alternatives, `atomic`, `context`, `named`, `firstError` and `secondError` give what their
  parts give.  `optional` gives nothing where it reads nothing.
* `many` lists what its element gives, and one text after another is both together.
* A function that keeps the view may change the value.
* A rule is in the class where its grammar is.  As with `Restoring`, the class is relative
  to a set of rules.

Value and place are kept in step by two facts about each run (`Run.Verbatim`).  A value
shows the characters from the start of the run to its end, and a failure ends at the start.
The second fact serves the first one: what a failed attempt had read would be missing from
the value of what comes after it.  Nor does any run of the class end in a fault, from which
`many` would go on without putting the cursor back.
-/

namespace Descent

/-! ## Runs -/

namespace Run

variable {α β : Type} {view : α → List Char} {view' : β → List Char} {s s' : State}

/-- A value shows what was read, a failure has read nothing, and there is no fault. -/
inductive Verbatim (view : α → List Char) (s : State) : Run α → Prop where
  | ok {v : α} {n : Nat} (shows : view v = s.cursor.rest.take n) (trace : Trace) :
      Verbatim view s ⟨.ok v, s.moveTo (s.cursor.advance n), trace⟩
  | failure (e : ParseError) (trace : Trace) : Verbatim view s ⟨.error (.failure e), s, trace⟩
  | tooDeep (limit : Int) (t : State) (trace : Trace) :
      Verbatim view s ⟨.error (.tooDeep limit), t, trace⟩

/-- What was noted does not matter. -/
theorem Verbatim.noting {o : Except Stop α} {t : State} {trace : Trace}
    (h : Verbatim view s ⟨o, t, trace⟩) (trace' : Trace) : Verbatim view s ⟨o, t, trace'⟩ := by
  cases h with
  | ok shows => exact .ok shows trace'
  | failure e => exact .failure e trace'
  | tooDeep limit t => exact .tooDeep limit t trace'

theorem Verbatim.resume {r : Run α} {k : Except Stop α → State → Run β} (h : r.Verbatim view s)
    (ok : ∀ v n, view v = s.cursor.rest.take n →
      (k (.ok v) (s.moveTo (s.cursor.advance n))).Verbatim view' s')
    (failure : ∀ e, (k (.error (.failure e)) s).Verbatim view' s')
    (tooDeep : ∀ limit t, (k (.error (.tooDeep limit)) t).Verbatim view' s') :
    (r.resume k).Verbatim view' s' := by
  cases h with
  | ok shows trace => exact (ok _ _ shows).noting _
  | failure e trace => exact (failure e).noting _
  | tooDeep limit t trace => exact (tooDeep limit t).noting _

/-- A run from where another one ended, with what that one read put before its value. -/
theorem Verbatim.map_of_advance {r : Run α} {n : Nat} {f : α → β}
    (h : r.Verbatim view (s.moveTo (s.cursor.advance n)))
    (settled : ∀ e, r.outcome ≠ .error (.failure e))
    (shows : ∀ v, view' (f v) = s.cursor.rest.take n ++ view v) :
    (r.map f).Verbatim view' s := by
  cases h with
  | @ok v m rest trace =>
      have both : view' (f v) = s.cursor.rest.take (n + m) := by
        rw [shows, rest, State.cursor_moveTo, Cursor.rest_advance, ← List.take_add]
      have there : (s.cursor.advance n).advance m = s.cursor.advance (n + m) :=
        Cursor.advance_advance _ _ _
      rw [State.cursor_moveTo, there]
      exact .ok both trace
  | failure e trace => exact absurd rfl (settled e)
  | tooDeep limit t trace => exact .tooDeep limit t trace

/-- A failure ends in the state in which the run began. -/
theorem Verbatim.state_of_failure {r : Run α} {e : ParseError} (h : r.Verbatim view s)
    (failed : r.outcome = .error (.failure e)) : r.state = s := by
  cases h with
  | ok shows trace => cases failed
  | failure e trace => rfl
  | tooDeep limit t trace => cases failed

end Run

/-- The text from a cursor to the one so many characters further. -/
theorem Cursor.toList_textTo_advance (c : Cursor) (n : Nat) :
    (c.textTo (c.advance n)).toList = c.rest.take n := by
  rw [textTo, String.toList_ofList, pos_advance, Nat.add_sub_cancel_left, ← List.take_eq_take_min]

/-! ## Parsers -/

namespace Parser

variable {α β : Type} {view : α → List Char} {view' : β → List Char}

/-- Every run gives what it reads. -/
def Verbatim (view : α → List Char) (p : Parser α) : Prop := ∀ s, (p s).Verbatim view s

theorem verbatim_succeed {v : α} (h : view v = []) : (succeed v).Verbatim view := by
  intro s
  have nothing : s.moveTo (s.cursor.advance 0) = s := by
    rw [Cursor.advance_zero, State.moveTo_cursor]
  have run : succeed v s = ⟨.ok v, s.moveTo (s.cursor.advance 0), []⟩ := by rw [nothing]; rfl
  rw [run]
  exact .ok (by rw [h, List.take_zero]) []

/-! ### Terminals -/

theorem verbatim_token (text : String) : (token text).Verbatim String.toList := by
  intro s
  rw [token]
  split
  next found =>
    have front : text.toList <+: s.cursor.rest := List.isPrefixOf_iff_prefix.mp found
    exact .ok (by rw [← String.length_toList]; exact List.prefix_iff_eq_take.mp front) []
  next missing => exact .failure _ []

theorem verbatim_satisfy (p : Char → Bool) : (satisfy p).Verbatim fun c => [c] := by
  intro s
  rw [satisfy]
  split
  next c rest front =>
    split
    next good => exact .ok (by rw [front]; rfl) []
    next bad => exact .failure _ []
  next atEnd => exact .failure _ []

theorem verbatim_span (p : Char → Bool) (allowEmpty : Bool) (e : ParseError) :
    (span p allowEmpty e).Verbatim String.toList := by
  intro s
  rw [span]
  split
  next missing => exact .failure _ []
  next found =>
    refine .ok ?_ []
    rw [String.toList_ofList]
    exact List.prefix_iff_eq_take.mp (List.takeWhile_prefix p)

/-! ### Changed values and failures -/

theorem Verbatim.mapOrStop {p : Parser α} (hp : p.Verbatim view) {f : α → β}
    (hf : ∀ v, view' (f v) = view v) : (p.mapOrStop fun v => .ok (f v)).Verbatim view' := by
  intro s
  rw [Parser.mapOrStop, andThen]
  exact (hp s).resume (fun v _ shows => .ok ((hf v).trans shows) [])
    (fun e => .failure e []) (fun limit t => .tooDeep limit t [])

theorem Verbatim.mapFailure {p : Parser α} (hp : p.Verbatim view) (f : ParseError → ParseError) :
    (p.mapFailure f).Verbatim view := by
  intro s
  simp only [Parser.mapFailure, catchFailure, recover]
  exact (hp s).resume (fun _ _ shows => .ok shows [])
    (fun e => .failure (f e) []) (fun limit t => .tooDeep limit t [])

theorem Verbatim.atomic {p : Parser α} (hp : p.Verbatim view) : p.atomic.Verbatim view := by
  intro s
  simp only [Parser.atomic, recover]
  exact (hp s).resume (fun _ _ shows => .ok shows [])
    (fun e => .failure e []) (fun limit t => .tooDeep limit _ [])

theorem Verbatim.optional {p : Parser α} (hp : p.Verbatim view) (name : String) {fallback : α}
    (h : view fallback = []) : (p.optional name fallback).Verbatim view := by
  intro s
  simp only [Parser.optional, recover]
  exact (hp s).resume (fun _ _ shows => .ok shows []) (fun _ => verbatim_succeed h s)
    (fun limit t => .tooDeep limit t [])

/-- Two texts, one after the other.  Where the second one fails, the first one is given up. -/
theorem Verbatim.append {p q : Parser String} (hp : p.Verbatim String.toList)
    (hq : q.Verbatim String.toList) :
    (p.bind fun a => q.mapOrStop fun b => .ok (a ++ b)).Verbatim String.toList := by
  intro s
  simp only [Parser.bind, Parser.atomic, recover, andThen, Run.resume_resume]
  refine (hp s).resume (fun a n first => ?_) (fun e => .failure e [])
    (fun limit t => .tooDeep limit _ [])
  dsimp only
  rw [Parser.mapOrStop, andThen, Run.resume_resume]
  refine (hq _).resume (fun b m second => ?_) (fun e => .failure e [])
    (fun limit t => .tooDeep limit _ [])
  have both : (a ++ b).toList = s.cursor.rest.take (n + m) := by
    rw [String.toList_append, first, second, State.cursor_moveTo, Cursor.rest_advance,
      ← List.take_add]
  have there : (s.cursor.advance n).advance m = s.cursor.advance (n + m) :=
    Cursor.advance_advance _ _ _
  rw [State.moveTo_moveTo, State.cursor_moveTo, there]
  exact .ok both []

/-! ### Branches -/

theorem Verbatim.orElse {p q : Parser α} (hp : p.Verbatim view) (hq : q.Verbatim view) :
    (p.orElse q).Verbatim view := by
  refine Verbatim.atomic fun s => ?_
  simp only [catchFailure, recover]
  exact (hp s).resume (fun _ _ shows => .ok shows []) (fun e => hq.mapFailure _ s)
    (fun limit t => .tooDeep limit t [])

theorem verbatim_otherwise {s : State} (ps : List (Parser α)) (hps : ∀ p ∈ ps, p.Verbatim view) :
    ∀ e, (otherwise s.cursor e ps s).Verbatim view s := by
  induction ps with
  | nil => exact fun e => .failure e []
  | cons p ps ih =>
      intro e
      simp only [otherwise, catchFailure, recover]
      exact (hps p (.head _) s).resume (fun _ _ shows => .ok shows [])
        (fun e' => ih (fun q hq => hps q (.tail _ hq)) _) (fun limit t => .tooDeep limit t [])

theorem Verbatim.choice {p : Parser α} (hp : p.Verbatim view) {ps : List (Parser α)}
    (hps : ∀ q ∈ ps, q.Verbatim view) : (p.choice ps).Verbatim view := by
  intro s
  simp only [Parser.choice, catchFailure, recover]
  exact (hp s).resume (fun _ _ shows => .ok shows []) (fun e => verbatim_otherwise ps hps e)
    (fun limit t => .tooDeep limit t [])

/-! ### Repetition -/

/-- The last attempt has read nothing, and what the attempts before it have read is in
their values. -/
theorem Verbatim.many {p : Parser α} (hp : p.Verbatim view) (name : String) (allowEmpty : Bool) :
    Verbatim (List.flatMap view) (p.many name allowEmpty) := by
  intro s
  induction allowEmpty, s using many.induct with
  | case1 allowEmpty s ih =>
      rw [Parser.many]
      refine (hp s).resume (fun v n shows => ?_) (fun e => ?_) (fun limit t => .tooDeep limit t [])
      · dsimp only
        split
        next progress =>
          have rest := ih _ progress
          refine rest.map_of_advance (fun e failed => ?_) fun vs => ?_
          · -- Further attempts that fail would end both where they began and at the start.
            have atStart := restored_many_true p name s.cursor _ e failed
            rw [rest.state_of_failure failed] at atStart
            exact absurd progress (by rw [atStart]; exact Nat.lt_irrefl _)
          · rw [List.flatMap_cons, shows]
        next stalled => exact .ok (by rw [List.flatMap_singleton, shows]) _
      · cases allowEmpty with
        | true => exact verbatim_succeed rfl s
        | false => exact .failure e []

/-- A scan has come so far from its start, and gives the text between. -/
theorem Verbatim.scan {terminator : Parser α} (ht : terminator.Verbatim view) {o : ScanOptions}
    (kept : o.consume = false) (s : State) :
    ∀ (t : State) (n : Nat), t = s.moveTo (s.cursor.advance n) →
      (scan o terminator s.cursor t).Verbatim String.toList s := by
  intro t
  induction t using scan.induct o s.cursor with
  | case1 t atEnd allowed =>
      rintro n rfl
      rw [Parser.scan, if_pos atEnd, if_pos allowed]
      have whole : s.cursor.rest.take n = s.cursor.rest := by
        rw [Cursor.isAtEnd, State.cursor_moveTo, Cursor.rest_advance, List.isEmpty_iff,
          List.drop_eq_nil_iff] at atEnd
        exact List.take_of_length_le atEnd
      exact .ok (by rw [whole, Cursor.remaining, String.toList_ofList]) []
  | case2 t atEnd notAllowed =>
      rintro n rfl
      rw [Parser.scan, if_pos atEnd, if_neg notAllowed]
      exact .failure _ []
  | case3 t notAtEnd ih =>
      rintro n rfl
      rw [Parser.scan, if_neg notAtEnd]
      refine (ht _).resume (fun v m _ => ?_) (fun e => ?_) (fun limit t => .tooDeep limit t [])
      · dsimp only
        split
        next empty => exact .failure _ []
        next found =>
          rw [kept]
          exact .ok (Cursor.toList_textTo_advance _ n) []
      · refine ih _ (n + 1) ?_
        rw [State.moveTo_moveTo, State.cursor_moveTo, Cursor.advance_advance]

theorem Verbatim.upTo {terminator : Parser α} (ht : terminator.Verbatim view) {o : ScanOptions}
    (kept : o.consume = false) : (terminator.upTo o).Verbatim String.toList := by
  intro s
  exact ht.scan kept s s 0 (by rw [Cursor.advance_zero, State.moveTo_cursor])

/-! ### Nesting -/

theorem verbatim_tooDeep : (tooDeep : Parser α).Verbatim view := fun s => .tooDeep _ s []

theorem Verbatim.nested {p : Parser α} (hp : p.Verbatim view) : p.nested.Verbatim view := by
  intro s
  cases entered : s.nesting.enter? with
  | none =>
      rw [nested_of_refused entered]
      exact .tooDeep _ s []
  | some inner =>
      have back := Nesting.leave_of_enter? entered
      rw [nested_of_entered entered]
      have body := hp ⟨s.cursor, inner⟩
      generalize p ⟨s.cursor, inner⟩ = r at body
      cases body with
      | ok shows trace =>
          dsimp only
          rw [State.nesting_moveTo, State.cursor_moveTo, back]
          exact .ok (s := s) shows trace
      | failure e trace =>
          dsimp only
          rw [back]
          exact .failure e trace
      | tooDeep limit t trace => exact .tooDeep limit _ trace

end Parser

/-! ## Grammars -/

namespace Grammar

variable {ι : Type} {τ : ι → Type} {α β : Type} {good : ι → Prop}
  {views : (i : ι) → τ i → List Char} {view : α → List Char}

/-- The grammars that give back what they read, if the good rules do, each with the view in
which its value shows the text. -/
inductive Lossless (good : ι → Prop) (views : (i : ι) → τ i → List Char) :
    {α : Type} → (α → List Char) → Grammar τ α → Prop where
  | token (text : String) : Lossless good views String.toList (.token text)
  | satisfy (p : Char → Bool) : Lossless good views (fun c => [c]) (.satisfy p)
  | satisfyRun (p : Char → Bool) (allowEmpty : Bool) :
      Lossless good views String.toList (.satisfyRun p allowEmpty)
  | blanks (allowEmpty : Bool) : Lossless good views String.toList (.blanks allowEmpty)
  | pure {α : Type} {view : α → List Char} (label : String) {v : α} (nothing : view v = []) :
      Lossless good views view (.pure label v)
  | upTo {α : Type} {view : α → List Char} {terminator : Grammar τ α}
      (ht : Lossless good views view terminator) {o : Parser.ScanOptions}
      (kept : o.consume = false) : Lossless good views String.toList (.upTo terminator o)
  | orElse {α : Type} {view : α → List Char} {p q : Grammar τ α} (hp : Lossless good views view p)
      (hq : Lossless good views view q) : Lossless good views view (.orElse p q)
  | choice {α : Type} {view : α → List Char} {n : Nat} {branches : Fin (n + 2) → Grammar τ α}
      (h : ∀ i, Lossless good views view (branches i)) :
      Lossless good views view (.choice branches)
  | atomic {α : Type} {view : α → List Char} {p : Grammar τ α} (hp : Lossless good views view p) :
      Lossless good views view (.atomic p)
  | context {α : Type} {view : α → List Char} {p : Grammar τ α} (hp : Lossless good views view p)
      (label : String) : Lossless good views view (.context p label)
  | named {α : Type} {view : α → List Char} {p : Grammar τ α} (hp : Lossless good views view p)
      (label : String) : Lossless good views view (.named p label)
  | firstError {α : Type} {view : α → List Char} {p : Grammar τ α}
      (hp : Lossless good views view p) : Lossless good views view (.firstError p)
  | secondError {α : Type} {view : α → List Char} {p : Grammar τ α}
      (hp : Lossless good views view p) : Lossless good views view (.secondError p)
  | optional {α : Type} {view : α → List Char} {p : Grammar τ α} (hp : Lossless good views view p)
      {fallback : α} (nothing : view fallback = []) :
      Lossless good views view (.optional p fallback)
  | many {α : Type} {view : α → List Char} {p : Grammar τ α} (hp : Lossless good views view p)
      (allowEmpty : Bool) : Lossless good views (List.flatMap view) (.many p allowEmpty)
  | append {p q : Grammar τ String} (hp : Lossless good views String.toList p)
      (hq : Lossless good views String.toList q) :
      Lossless good views String.toList (.bind p fun a => (a ++ ·) <$> q)
  | fmap {α β : Type} {view : α → List Char} {view' : β → List Char} {p : Grammar τ α}
      (hp : Lossless good views view p) {f : α → β} (same : ∀ v, view' (f v) = view v) :
      Lossless good views view' (f <$> p)
  | rule {i : ι} (hi : good i) (label : String) : Lossless good views (views i) (.rule i label)

/-! ### Standard grammars -/

theorem lossless_empty : Lossless good views String.toList empty := .pure "empty" rfl

theorem lossless_space : Lossless good views String.toList space :=
  (Lossless.satisfyRun _ _).named _

/-- One character as a text. -/
theorem lossless_singleton (p : Char → Bool) :
    Lossless good views String.toList (String.singleton <$> satisfy p) :=
  (Lossless.satisfy p).fmap fun c => String.toList_singleton c

theorem lossless_lineBreak : Lossless good views String.toList lineBreak :=
  ((Lossless.token _).orElse (lossless_singleton _)).secondError

theorem lossless_newline : Lossless good views String.toList newline :=
  ((lossless_space.optional rfl).append lossless_lineBreak).named _

/-- Texts one after the other, as one text. -/
theorem Lossless.join {p : Grammar τ String} (hp : Lossless good views String.toList p)
    (allowEmpty : Bool) :
    Lossless good views String.toList (String.join <$> p.many allowEmpty) :=
  (hp.many allowEmpty).fmap fun texts => by rw [String.toList_join, List.flatMap]

/-! ### The class is sound -/

theorem Lossless.verbatim_meaning {env : (i : ι) → Parser (τ i)}
    (henv : ∀ i, good i → (env i).Verbatim (views i)) {p : Grammar τ α}
    (hp : Lossless good views view p) : (p.meaning env).Verbatim view := by
  induction hp with
  | token text => exact Parser.verbatim_token text
  | satisfy p => exact Parser.verbatim_satisfy p
  | satisfyRun p allowEmpty => exact Parser.verbatim_span p allowEmpty _
  | blanks allowEmpty => exact Parser.verbatim_span _ allowEmpty _
  | pure label nothing => exact Parser.verbatim_succeed nothing
  | upTo ht kept ih => exact ih.upTo kept
  | orElse hp hq ihp ihq => exact ihp.orElse ihq
  | choice h ih =>
      refine (ih 0).choice fun q hq => ?_
      obtain ⟨i, rfl⟩ := List.mem_ofFn.mp hq
      exact ih i.succ
  | atomic hp ih => exact ih.atomic
  | context hp label ih => exact ih.mapFailure _
  | named hp label ih => exact ih
  | firstError hp ih => exact ih.mapFailure _
  | secondError hp ih => exact ih.mapFailure _
  | optional hp nothing ih => exact ih.optional _ nothing
  | many hp allowEmpty ih => exact ih.many _ allowEmpty
  | append hp hq ihp ihq => exact ihp.append ihq
  | fmap hp same ih => exact ih.mapOrStop same
  | rule hi label => exact henv _ hi

/-- Good rules give back what they read, for any number of levels. -/
theorem verbatim_unroll {rules : (i : ι) → Grammar τ (τ i)}
    (hrules : ∀ i, good i → Lossless good views (views i) (rules i)) :
    ∀ (levels : Nat) (i : ι), good i → (unroll rules levels i).Verbatim (views i)
  | 0, _, _ => Parser.verbatim_tooDeep
  | levels + 1, i, hi => ((hrules i hi).verbatim_meaning (verbatim_unroll hrules levels)).nested

/-! ## Whole runs -/

/-- A verbatim run gives the slice of the text from its start to its end. -/
theorem toList_eq_slice {r : Run String} {s : State} {v : String}
    (h : r.Verbatim String.toList s) (ended : r.outcome = .ok v) :
    v.toList = (s.cursor.source.take r.state.cursor.pos).drop s.cursor.pos := by
  cases h with
  | failure e trace => cases ended
  | tooDeep limit t trace => cases ended
  | @ok w n shows trace =>
      cases ended
      rw [shows, State.cursor_moveTo, Cursor.pos_advance, List.drop_take,
        Cursor.drop_pos_source, Nat.add_sub_cancel_left, ← List.take_eq_take_min]

/-- A run of a lossless text grammar gives the text between its start and its end.  Where it
fails, it leaves the cursor where it was. -/
theorem run_lossless {rules : (i : ι) → Grammar τ (τ i)}
    (hrules : ∀ i, good i → Lossless good views (views i) (rules i)) {p : Grammar τ String}
    (hp : Lossless good views String.toList p) (s : State) :
    (∀ v, (p.run rules s).outcome = .ok v →
        v.toList = (s.cursor.source.take (p.run rules s).state.cursor.pos).drop s.cursor.pos) ∧
      ∀ e, (p.run rules s).outcome = .error (.failure e) →
        (p.run rules s).state.cursor = s.cursor := by
  have run : (p.parser rules s).Verbatim String.toList s :=
    hp.verbatim_meaning (verbatim_unroll hrules _) s
  rw [outcome_run, state_run]
  exact ⟨fun v ended => toList_eq_slice run ended,
    fun e failed => congrArg State.cursor (run.state_of_failure failed)⟩

/-- A word or a line break, and what stands before one of them. -/
def wordsAndGaps : Bool → Grammar (fun _ : Bool => String) String
  | false => (satisfyRun Char.isAlpha).orElse newline
  | true => upTo (rule false) ⟨false, false, false⟩

/-- Words and gaps, at least one, as one text. -/
def wordyText : Grammar (fun _ : Bool => String) String :=
  String.join <$> ((rule false).orElse (rule true)).many false

/-- From the second character on, all is kept up to the digit at the end.  There is nothing
before which the digit could stand, so from there on the grammar fails. -/
theorem run_lossless_wordyText :
    (∀ gap, True → Lossless (fun _ => True) (fun _ => String.toList) String.toList
        (wordsAndGaps gap)) ∧
      Lossless (fun _ => True) (fun _ => String.toList) String.toList wordyText ∧
      ((wordyText.run wordsAndGaps ⟨.ofChars "ab 12\r\n3".toList 1, ⟨2, 0⟩⟩).outcome =
          .ok "b 12\r\n" ∧
        "b 12\r\n".toList = ("ab 12\r\n3".toList.take 7).drop 1) ∧
      (wordyText.run wordsAndGaps ⟨.ofChars "ab 12\r\n3".toList 7, ⟨2, 0⟩⟩).outcome =
          .error (.failure (.either (.either .satisfying .satisfying) .termination)) ∧
        (wordyText.run wordsAndGaps ⟨.ofChars "ab 12\r\n3".toList 7, ⟨2, 0⟩⟩).state.cursor =
          .ofChars "ab 12\r\n3".toList 7 := by
  have rules : ∀ gap, True → Lossless (fun _ => True) (fun _ => String.toList) String.toList
      (wordsAndGaps gap) := by
    intro gap _
    cases gap with
    | false => exact (Lossless.satisfyRun _ _).orElse lossless_newline
    | true => exact .upTo (.rule trivial _) rfl
  have text : Lossless (fun _ => True) (fun _ => String.toList) String.toList wordyText :=
    Lossless.join (.orElse (.rule trivial _) (.rule trivial _)) false
  have kept : (wordyText.run wordsAndGaps ⟨.ofChars "ab 12\r\n3".toList 1, ⟨2, 0⟩⟩).outcome =
      .ok "b 12\r\n" := by
    rw [← runWithin_eq_run _ _ _ (fun _ => Parser.tooDeep) 3 8 (by decide) (by decide)]
    rfl
  have stop : (wordyText.run wordsAndGaps
      ⟨.ofChars "ab 12\r\n3".toList 1, ⟨2, 0⟩⟩).state.cursor.pos = 7 := by
    rw [← runWithin_eq_run _ _ _ (fun _ => Parser.tooDeep) 3 8 (by decide) (by decide)]
    rfl
  have failed : (wordyText.run wordsAndGaps ⟨.ofChars "ab 12\r\n3".toList 7, ⟨2, 0⟩⟩).outcome =
      .error (.failure (.either (.either .satisfying .satisfying) .termination)) := by
    rw [← runWithin_eq_run _ _ _ (fun _ => Parser.tooDeep) 3 8 (by decide) (by decide)]
    rfl
  refine ⟨rules, text, ⟨kept, ?_⟩, failed, (run_lossless rules text _).2 _ failed⟩
  have slice := (run_lossless rules text _).1 _ kept
  rw [stop] at slice
  exact slice

end Grammar

end Descent
