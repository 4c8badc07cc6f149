import Descent.Proofs.Composition
import Descent.Proofs.Scanning

/-!
# What repetitions collect

A repetition takes what there is.  Said without its loop, `many` runs its element again and
again, each time from where the run before it ended, until there is no value any more or a value
for which nothing was read (`Parser.Repeats`).  An element that stops in place, wherever it
stops, leaves no mark when it ends the repetition.  So the repetition ends behind the last value,
and there is nothing left to collect there (`run_many_maximal`).

`sequence` does the same with rounds of a separator and an element (`Parser.Rounds`).  A round
may also end half-way, with a separator that no element follows, and then there are two places
where the sequence may end: behind the last element and behind that separator.  The options
choose between the two places, and about a first element that is missing.  They have no say in
what is collected (`run_separated`).
-/

namespace Descent

/-! ## Runs that end alike -/

namespace Run

variable {α β : Type} {r : Run α} {o o' : Except Stop α} {t t' : State}

/-- A run ends in one way. -/
theorem EndsAs.unique (h : r.EndsAs o t) (h' : r.EndsAs o' t') : o = o' ∧ t = t' :=
  ⟨h.1.symm.trans h'.1, h.2.symm.trans h'.2⟩

/-- What goes on after a run goes on from its end. -/
theorem EndsAs.resume {k : Except Stop α → State → Run β} {o' : Except Stop β} (h : r.EndsAs o t)
    (next : (k o t).EndsAs o' t') : (r.resume k).EndsAs o' t' := by
  obtain ⟨rfl, rfl⟩ := h
  exact next

theorem EndsAs.map {v : α} (f : α → β) (h : r.EndsAs (.ok v) t) :
    (r.map f).EndsAs (.ok (f v)) t :=
  ⟨congrArg (Except.map f) h.1, h.2⟩

end Run

namespace Parser

variable {α β : Type} {p q : Parser α} {separator separator' : Parser β} {s t u last stop : State}
  {v : α} {vs : List α}

/-- Two parsers that end alike from every state.  They may note different things. -/
def SameEnds (p q : Parser α) : Prop :=
  ∀ s, (p s).outcome = (q s).outcome ∧ (p s).state = (q s).state

theorem SameEnds.symm (same : SameEnds p q) : SameEnds q p :=
  fun s => ⟨(same s).1.symm, (same s).2.symm⟩

theorem SameEnds.outcome (same : SameEnds p q) {o : Except Stop α} (h : (p s).outcome = o) :
    (q s).outcome = o :=
  (same s).1.symm.trans h

theorem SameEnds.onlyFails (same : SameEnds p q) (h : (p s).OnlyFails) : (q s).OnlyFails :=
  fun e stopped => h e (same.symm.outcome stopped)

theorem SameEnds.endsAs (same : SameEnds p q) {o : Except Stop α} (h : (p s).EndsAs o t) :
    (q s).EndsAs o t :=
  ⟨(same s).1.symm.trans h.1, (same s).2.symm.trans h.2⟩

theorem Forward.le (forward : Forward p) {o : Except Stop α} (ended : (p s).EndsAs o t) : s ≤ t :=
  ended.2 ▸ forward s

theorem endsAs_mapOrStop (f : α → β) {o : Except Stop α} (h : (p s).EndsAs o t) :
    (p.mapOrStop (fun v => .ok (f v)) s).EndsAs (o.map f) t := by
  refine h.resume ?_
  cases o with
  | ok v => exact ⟨rfl, rfl⟩
  | error e => exact ⟨rfl, rfl⟩

/-! ## Elements one after the other -/

/-- Runs one after the other, each from where the one before it ended: the values from a state
on, and the state behind the last of them. -/
inductive Repeats (p : Parser α) : State → List α → State → Prop where
  /-- There is no value any more. -/
  | stop {s : State} {e : Stop} (stopped : (p s).outcome = .error e)
      (settled : ∀ limit, e ≠ .tooDeep limit) : Repeats p s [] s
  /-- A value for which nothing is read is the last one. -/
  | stalled {s t : State} {v : α} (ended : (p s).EndsAs (.ok v) t)
      (stay : t.cursor.pos = s.cursor.pos) : Repeats p s [v] t
  /-- A value for which something is read comes before those from there on. -/
  | more {s t u : State} {v : α} {vs : List α} (ended : (p s).EndsAs (.ok v) t)
      (progress : s.cursor.pos < t.cursor.pos) (others : Repeats p t vs u) :
      Repeats p s (v :: vs) u

theorem Repeats.congr (same : SameEnds p q) (h : p.Repeats s vs t) : q.Repeats s vs t := by
  induction h with
  | stop stopped settled => exact .stop (same.outcome stopped) settled
  | stalled ended stay => exact .stalled (same.endsAs ended) stay
  | more ended progress _ ih => exact .more (same.endsAs ended) progress ih

/-- Every stop but one at the nesting limit leaves the cursor where it was. -/
def StopsInPlace (p : Parser α) : Prop :=
  ∀ s e, (p s).outcome = .error e → (∀ limit, e ≠ .tooDeep limit) →
    (p s).state.cursor = s.cursor

theorem StopsInPlace.congr (same : SameEnds p q) (h : p.StopsInPlace) : q.StopsInPlace := by
  intro s e stopped settled
  rw [← (same s).2]
  exact h s e (same.symm.outcome stopped) settled

/-- As no run changes the nesting, a stop in place leaves the whole state as it was. -/
theorem StopsInPlace.state_eq (inPlace : p.StopsInPlace) (forward : Forward p) {e : Stop}
    (stopped : (p s).outcome = .error e) (settled : ∀ limit, e ≠ .tooDeep limit) :
    (p s).state = s :=
  State.eq_of_le_of_cursor (forward s) (inPlace s e stopped settled)

/-! ### Steps of the loop -/

section Many

variable (name : String) {allowEmpty : Bool}

theorem many_of_stop {e : Stop} (stopped : (p s).outcome = .error e)
    (settled : ∀ limit, e ≠ .tooDeep limit) :
    (p.many name allowEmpty s).EndsAs (if allowEmpty then .ok [] else .error e) (p s).state := by
  have ended : (p s).EndsAs (.error e) (p s).state := ⟨stopped, rfl⟩
  rw [many]
  refine ended.resume ?_
  cases e with
  | tooDeep limit => exact absurd rfl (settled limit)
  | failure f => cases allowEmpty <;> exact ⟨rfl, rfl⟩
  | fault f => cases allowEmpty <;> exact ⟨rfl, rfl⟩

theorem many_of_stalled (forward : Forward p) (ended : (p s).EndsAs (.ok v) t)
    (stay : t.cursor.pos = s.cursor.pos) : (p.many name allowEmpty s).EndsAs (.ok [v]) t := by
  have moved := Cursor.length_rest_lt_iff (State.cursor_le_of_le (forward.le ended))
  rw [many]
  refine ended.resume ?_
  dsimp only
  rw [if_neg fun progress => moved.mp progress stay]
  exact ⟨rfl, rfl⟩

theorem many_of_more (forward : Forward p) (ended : (p s).EndsAs (.ok v) t)
    (progress : s.cursor.pos < t.cursor.pos) {o : Except Stop (List α)}
    (others : (p.many name true t).EndsAs o u) :
    (p.many name allowEmpty s).EndsAs (o.map (v :: ·)) u := by
  obtain ⟨rfl, rfl⟩ := others
  have moved := Cursor.length_rest_lt_iff (State.cursor_le_of_le (forward.le ended))
  rw [many]
  refine ended.resume ?_
  dsimp only
  rw [if_pos (moved.mpr (Nat.ne_of_gt progress))]
  exact ⟨rfl, rfl⟩

/-! ### The loop -/

/-- What `many` returns are the values of runs one after the other. -/
theorem repeats_of_many (forward : Forward p) (inPlace : p.StopsInPlace) :
    ∀ {vs t}, (p.many name allowEmpty s).EndsAs (.ok vs) t → p.Repeats s vs t := by
  induction allowEmpty, s using many.induct with
  | case1 allowEmpty s ih =>
      intro vs t ended
      have settledCase : ∀ e, (p s).outcome = .error e → (∀ limit, e ≠ .tooDeep limit) →
          p.Repeats s vs t := by
        intro e stopped settled
        obtain ⟨values, rfl⟩ := (many_of_stop name stopped settled).unique ended
        rw [inPlace.state_eq forward stopped settled]
        cases allowEmpty <;> cases values
        exact .stop stopped settled
      cases value : (p s).outcome using outcome_cases with
      | ok v =>
          have later := State.cursor_le_of_le (forward s)
          by_cases stay : (p s).state.cursor.pos = s.cursor.pos
          · obtain ⟨values, rfl⟩ := (many_of_stalled name forward ⟨value, rfl⟩ stay).unique ended
            cases values
            exact .stalled ⟨value, rfl⟩ stay
          · have progress := Nat.lt_of_le_of_ne (Cursor.pos_le_of_le later) (Ne.symm stay)
            have less := (Cursor.length_rest_lt_iff later).mpr stay
            obtain ⟨values, rfl⟩ :=
              (many_of_more name forward ⟨value, rfl⟩ progress ⟨rfl, rfl⟩).unique ended
            obtain ⟨ws, others, rfl⟩ := Run.eq_of_outcome_map (f := (v :: ·)) values
            exact .more ⟨value, rfl⟩ progress (ih _ less ⟨others, rfl⟩)
      | failure f => exact settledCase _ value (by simp)
      | tooDeep limit =>
          have stopped := ended.1
          rw [many, Run.outcome_resume, value] at stopped
          cases stopped
      | fault f => exact settledCase _ value (by simp)

/-- The values of runs one after the other are what `many` returns. -/
theorem Repeats.many (forward : Forward p) (inPlace : p.StopsInPlace) (h : p.Repeats s vs t)
    (allowed : allowEmpty = true ∨ vs ≠ []) : (p.many name allowEmpty s).EndsAs (.ok vs) t := by
  induction h generalizing allowEmpty with
  | @stop s e stopped settled =>
      obtain rfl : allowEmpty = true := by simpa using allowed
      have ended : (p.many name true s).EndsAs (.ok []) (p s).state :=
        many_of_stop name stopped settled
      rwa [inPlace.state_eq forward stopped settled] at ended
  | stalled ended stay => exact many_of_stalled name forward ended stay
  | more ended progress _ ih => exact many_of_more name forward ended progress (ih (.inl rfl))

/-- Whether an empty list is a value or a stop, the repetition ends at that place. -/
theorem Repeats.state_many (forward : Forward p) (inPlace : p.StopsInPlace)
    (h : p.Repeats s vs t) : (p.many name allowEmpty s).state = t := by
  cases vs with
  | nil =>
      cases h with
      | stop stopped settled =>
          rw [(many_of_stop name stopped settled).2, inPlace.state_eq forward stopped settled]
  | cons v vs => exact (h.many name forward inPlace (.inr (List.cons_ne_nil v vs))).2

end Many

/-- At the end there is no value any more, or one for which nothing is read. -/
theorem Repeats.exhausted (forward : Forward p) (h : p.Repeats s vs t) :
    (∃ e, (p t).outcome = .error e ∧ ∀ limit, e ≠ .tooDeep limit) ∨
      ∃ v, (p t).EndsAs (.ok v) t := by
  induction h with
  | stop stopped settled => exact .inl ⟨_, stopped, settled⟩
  | @stalled s t v ended stay =>
      obtain rfl : t = s := State.eq_of_le_of_pos (forward.le ended) stay
      exact .inr ⟨v, ended⟩
  | more _ _ _ ih => exact ih

/-- So a repetition from there on ends there. -/
theorem Repeats.again (forward : Forward p) (h : p.Repeats s vs t) : ∃ ws, p.Repeats t ws t := by
  obtain ⟨e, stopped, settled⟩ | ⟨v, still⟩ := h.exhausted forward
  · exact ⟨[], .stop stopped settled⟩
  · exact ⟨[v], .stalled still rfl⟩

/-! ## Rounds of a separator and an element -/

/-- Rounds one after the other: the values of the elements from a state on, the state behind the
last element, and the state in which the last attempt has left off, which is behind a separator
if one has been read that no element follows. -/
inductive Rounds (p : Parser α) (separator : Parser β) : State → List α → State → State → Prop where
  /-- Nothing is left to read. -/
  | atEnd {s : State} (atEnd : s.cursor.isAtEnd = true) : Rounds p separator s [] s s
  /-- There is no separator. -/
  | noSeparator {s : State} {e : ParseError} (more : ¬ s.cursor.isAtEnd = true)
      (failed : (separator s).outcome = .error (.failure e)) : Rounds p separator s [] s s
  /-- There is a separator and no element behind it. -/
  | noElement {s t : State} {w : β} {e : ParseError} (more : ¬ s.cursor.isAtEnd = true)
      (separated : (separator s).EndsAs (.ok w) t) (failed : (p t).outcome = .error (.failure e)) :
      Rounds p separator s [] s t
  /-- A round in which nothing is read is the last one, and its value is kept. -/
  | stalled {s t u : State} {w : β} {v : α} (more : ¬ s.cursor.isAtEnd = true)
      (separated : (separator s).EndsAs (.ok w) t) (ended : (p t).EndsAs (.ok v) u)
      (stay : u.cursor.pos = s.cursor.pos) : Rounds p separator s [v] u u
  /-- A round in which something is read comes before those from there on. -/
  | more {s t u last stop : State} {w : β} {v : α} {vs : List α}
      (more : ¬ s.cursor.isAtEnd = true) (separated : (separator s).EndsAs (.ok w) t)
      (ended : (p t).EndsAs (.ok v) u) (progress : s.cursor.pos < u.cursor.pos)
      (others : Rounds p separator u vs last stop) : Rounds p separator s (v :: vs) last stop

theorem Rounds.congr (same : SameEnds p q) (same' : SameEnds separator separator')
    (h : p.Rounds separator s vs last stop) : q.Rounds separator' s vs last stop := by
  induction h with
  | atEnd atEnd => exact .atEnd atEnd
  | noSeparator more failed => exact .noSeparator more (same'.outcome failed)
  | noElement more separated failed =>
      exact .noElement more (same'.endsAs separated) (same.outcome failed)
  | stalled more separated ended stay =>
      exact .stalled more (same'.endsAs separated) (same.endsAs ended) stay
  | more more separated ended progress _ ih =>
      exact .more more (same'.endsAs separated) (same.endsAs ended) progress ih

/-- The rounds leave off behind the last element or behind one separator after it. -/
theorem Rounds.stop_eq (h : p.Rounds separator s vs last stop) :
    stop = last ∨ ∃ w, (separator last).EndsAs (.ok w) stop := by
  induction h with
  | atEnd _ => exact .inl rfl
  | noSeparator _ _ => exact .inl rfl
  | noElement _ separated _ => exact .inr ⟨_, separated⟩
  | stalled _ _ _ _ => exact .inl rfl
  | more _ _ _ _ _ ih => exact ih

/-- A failure that puts the cursor back leaves the whole state as it was. -/
theorem Restores.state_eq (restores : p.Restores) (forward : Forward p) {e : ParseError}
    (failed : (p s).outcome = .error (.failure e)) : (p s).state = s :=
  State.eq_of_le_of_cursor (forward s) (restores s e failed)

theorem Restores.congr (same : SameEnds p q) (h : p.Restores) : q.Restores := by
  intro s e failed
  rw [← (same s).2]
  exact h s e (same.symm.outcome failed)

/-- The loop of `sequence` collects what the rounds collect.  It ends where they have left off,
or behind the last element if no separator is to be read without an element. -/
theorem Rounds.rounds (forward : Forward p) (forward' : Forward separator) (restores : p.Restores)
    (h : p.Rounds separator s vs last stop) (name : String) (o : SequenceOptions) :
    (rounds name o p separator s).EndsAs (.ok vs) (if o.allowTrailing then stop else last) := by
  induction h with
  | atEnd atEnd =>
      rw [Parser.rounds, if_pos atEnd, ite_self]
      exact ⟨rfl, rfl⟩
  | @noSeparator s e more failed =>
      have ended : (separator s).EndsAs (.error (.failure e)) (separator s).state := ⟨failed, rfl⟩
      rw [Parser.rounds, if_neg more, ite_self]
      exact ended.resume ⟨rfl, State.moveTo_cursor_of_le (forward' s)⟩
  | @noElement s t w e more separated failed =>
      have ended : (p t).EndsAs (.error (.failure e)) t :=
        ⟨failed, restores.state_eq forward failed⟩
      rw [Parser.rounds, if_neg more]
      refine separated.resume (ended.resume ?_)
      dsimp only
      rw [State.moveTo_cursor_of_le (forward'.le separated)]
      exact ⟨rfl, rfl⟩
  | @stalled s t u w v more separated ended stay =>
      have later := le_trans (forward'.le separated) (forward.le ended)
      have moved := Cursor.length_rest_lt_iff (State.cursor_le_of_le later)
      rw [Parser.rounds, if_neg more, ite_self]
      refine separated.resume (ended.resume ?_)
      dsimp only
      rw [if_neg fun progress => moved.mp progress stay]
      exact ⟨rfl, rfl⟩
  | @more s t u last stop w v vs more separated ended progress _ ih =>
      have later := le_trans (forward'.le separated) (forward.le ended)
      have moved := Cursor.length_rest_lt_iff (State.cursor_le_of_le later)
      rw [Parser.rounds, if_neg more]
      refine separated.resume (ended.resume ?_)
      dsimp only
      rw [if_pos (moved.mpr (Nat.ne_of_gt progress))]
      exact ih.map (v :: ·)

/-! ### Attempts -/

/-- The states in which the separator is tried in a run from `s`: behind the first element and
behind every round in which something is read, as long as input is left. -/
inductive TriesSeparator (p : Parser α) (separator : Parser β) (s : State) : State → Prop where
  | first {t : State} {v : α} (ended : (p s).EndsAs (.ok v) t) (more : ¬ t.cursor.isAtEnd = true) :
      TriesSeparator p separator s t
  | next {t u x : State} {w : β} {v : α} (tried : TriesSeparator p separator s t)
      (separated : (separator t).EndsAs (.ok w) u) (ended : (p u).EndsAs (.ok v) x)
      (progress : t.cursor.pos < x.cursor.pos) (more : ¬ x.cursor.isAtEnd = true) :
      TriesSeparator p separator s x

/-- The states in which the element is tried: the first one, and those behind a separator. -/
def TriesElement (p : Parser α) (separator : Parser β) (s t : State) : Prop :=
  t = s ∨ ∃ u w, TriesSeparator p separator s u ∧ (separator u).EndsAs (.ok w) t

theorem TriesSeparator.congr (same : SameEnds p q) (same' : SameEnds separator separator')
    (h : p.TriesSeparator separator s t) : q.TriesSeparator separator' s t := by
  induction h with
  | first ended more => exact .first (same.endsAs ended) more
  | next _ separated ended progress more ih =>
      exact .next ih (same'.endsAs separated) (same.endsAs ended) progress more

theorem TriesElement.congr (same : SameEnds p q) (same' : SameEnds separator separator')
    (h : p.TriesElement separator s t) : q.TriesElement separator' s t := by
  obtain rfl | ⟨u, w, tried, separated⟩ := h
  · exact .inl rfl
  · exact .inr ⟨u, w, tried.congr same same', same'.endsAs separated⟩

/-- Where the attempts do nothing but fail, the rounds come to an end. -/
theorem exists_rounds (forward : Forward p) (forward' : Forward separator)
    (element : ∀ t, p.TriesElement separator s t → (p t).OnlyFails)
    (between : ∀ t, p.TriesSeparator separator s t → (separator t).OnlyFails) :
    ∀ t, (¬ t.cursor.isAtEnd = true → p.TriesSeparator separator s t) →
      ∃ vs last stop, p.Rounds separator t vs last stop := by
  intro t
  induction t using rounds.induct with
  | case1 t atEnd => exact fun _ => ⟨[], t, t, .atEnd atEnd⟩
  | case2 t more ih =>
      intro tries
      have tried := tries more
      cases found : (separator t).outcome with
      | error e =>
          obtain ⟨f, rfl⟩ := between t tried e found
          exact ⟨[], t, t, .noSeparator more found⟩
      | ok w =>
          have behind : p.TriesElement separator s (separator t).state :=
            .inr ⟨t, w, tried, found, rfl⟩
          have later := State.cursor_le_of_le (le_trans (forward' t) (forward (separator t).state))
          cases value : (p (separator t).state).outcome with
          | error e =>
              obtain ⟨f, rfl⟩ := element _ behind e value
              exact ⟨[], t, _, .noElement more ⟨found, rfl⟩ value⟩
          | ok v =>
              by_cases stay : (p (separator t).state).state.cursor.pos = t.cursor.pos
              · exact ⟨[v], _, _, .stalled more ⟨found, rfl⟩ ⟨value, rfl⟩ stay⟩
              · have progress := Nat.lt_of_le_of_ne (Cursor.pos_le_of_le later) (Ne.symm stay)
                have less := (Cursor.length_rest_lt_iff later).mpr stay
                obtain ⟨vs, last, stop, others⟩ :=
                  ih _ less fun more' => .next tried ⟨found, rfl⟩ ⟨value, rfl⟩ progress more'
                exact ⟨v :: vs, last, stop, .more more ⟨found, rfl⟩ ⟨value, rfl⟩ progress others⟩

/-! ### Whole sequences -/

/-- A first element and the rounds after it: all values, the state behind the last element, and
the state in which the last attempt has left off. -/
inductive Collects (p : Parser α) (separator : Parser β) (s : State) :
    List α → State → State → Prop where
  /-- There is no first element. -/
  | none {e : ParseError} (failed : (p s).outcome = .error (.failure e)) :
      Collects p separator s [] s s
  | some {t last stop : State} {v : α} {vs : List α} (first : (p s).EndsAs (.ok v) t)
      (others : p.Rounds separator t vs last stop) : Collects p separator s (v :: vs) last stop

theorem Collects.congr (same : SameEnds p q) (same' : SameEnds separator separator')
    (h : p.Collects separator s vs last stop) : q.Collects separator' s vs last stop := by
  cases h with
  | none failed => exact .none (same.outcome failed)
  | some first others => exact .some (same.endsAs first) (others.congr same same')

theorem Collects.stop_eq (h : p.Collects separator s vs last stop) :
    stop = last ∨ ∃ w, (separator last).EndsAs (.ok w) stop := by
  cases h with
  | none _ => exact .inl rfl
  | some _ others => exact others.stop_eq

theorem exists_collects (forward : Forward p) (forward' : Forward separator)
    (element : ∀ t, p.TriesElement separator s t → (p t).OnlyFails)
    (between : ∀ t, p.TriesSeparator separator s t → (separator t).OnlyFails) :
    ∃ vs last stop, p.Collects separator s vs last stop := by
  cases value : (p s).outcome with
  | error e =>
      obtain ⟨f, rfl⟩ := element s (.inl rfl) e value
      exact ⟨[], s, s, .none value⟩
  | ok v =>
      obtain ⟨vs, last, stop, others⟩ :=
        exists_rounds forward forward' element between _ fun more => .first ⟨value, rfl⟩ more
      exact ⟨v :: vs, last, stop, .some ⟨value, rfl⟩ others⟩

/-- Without a first element the options decide whether that is a failure. -/
theorem sequence_of_failed (forward : Forward p) (restores : p.Restores) {e : ParseError}
    (failed : (p s).outcome = .error (.failure e)) (name : String) (o : SequenceOptions)
    (separator : Parser β) :
    (p.sequence name o separator s).EndsAs
      (if o.allowEmpty then .ok [] else .error (.failure e)) s := by
  have ended : (p s).EndsAs (.error (.failure e)) s := ⟨failed, restores.state_eq forward failed⟩
  rw [sequence]
  refine ended.resume ?_
  dsimp only
  split
  · exact ⟨rfl, rfl⟩
  · exact ⟨rfl, rfl⟩

theorem Collects.sequence (forward : Forward p) (forward' : Forward separator)
    (restores : p.Restores) (h : p.Collects separator s vs last stop) (name : String)
    {o : SequenceOptions} (allowed : o.allowEmpty = true ∨ vs ≠ []) :
    (p.sequence name o separator s).EndsAs (.ok vs) (if o.allowTrailing then stop else last) := by
  cases h with
  | none failed =>
      have allowed : o.allowEmpty = true := by simpa using allowed
      have ended := sequence_of_failed forward restores failed name o separator
      rw [ite_self]
      rwa [if_pos allowed] at ended
  | @some t _ _ v vs first others =>
      have ended := others.rounds forward forward' restores name o
      rw [Parser.sequence]
      exact first.resume (ended.map (v :: ·))

/-- A sequence that may be empty is empty exactly where one that may not be fails as the first
element does. -/
theorem Collects.empty_iff (forward : Forward p) (forward' : Forward separator)
    (restores : p.Restores) (h : p.Collects separator s vs last stop) (name : String)
    (allowTrailing : Bool) :
    (p.sequence name ⟨true, allowTrailing⟩ separator s).EndsAs (.ok []) s ↔
      ∃ e, (p s).outcome = .error (.failure e) ∧
        (p.sequence name ⟨false, allowTrailing⟩ separator s).outcome = .error (.failure e) := by
  have ended := h.sequence forward forward' restores name (o := ⟨true, allowTrailing⟩) (.inl rfl)
  cases h with
  | @none e failed =>
      have empty := sequence_of_failed forward restores failed name ⟨true, allowTrailing⟩ separator
      have stopped :=
        sequence_of_failed forward restores failed name ⟨false, allowTrailing⟩ separator
      exact ⟨fun _ => ⟨e, failed, stopped.1⟩, fun _ => empty⟩
  | some first others =>
      constructor
      · intro empty
        cases (ended.unique empty).1
      · rintro ⟨e, failed, -⟩
        cases first.1.symm.trans failed

end Parser

namespace Grammar

variable {ι : Type} {τ : ι → Type} {α β : Type} {rules : (i : ι) → Grammar τ (τ i)}

/-- A whole run ends as its parser does, and has more to note. -/
theorem sameEnds_run (rules : (i : ι) → Grammar τ (τ i)) (p : Grammar τ α) :
    Parser.SameEnds (p.run rules) (p.parser rules) :=
  fun s => ⟨outcome_run rules p s, state_run rules p s⟩

/-! ## Repetitions -/

/-- Over an element that stops in place, what a repetition returns are the values of runs of the
element one after the other, and it ends behind the last of them.  One more run from there stops
or reads nothing, and a second repetition reads nothing. -/
theorem run_many_maximal (p : Grammar τ α) (inPlace : (p.run rules).StopsInPlace)
    (allowEmpty : Bool) {s t : State} {vs : List α}
    (returned : ((p.many allowEmpty).run rules s).EndsAs (.ok vs) t) :
    (p.run rules).Repeats s vs t ∧
      ((∃ e, (p.run rules t).outcome = .error e) ∨ ∃ v, (p.run rules t).EndsAs (.ok v) t) ∧
      (∃ ws, (p.many.run rules t).EndsAs (.ok ws) t) ∧
      ∀ allowEmpty', ((p.many allowEmpty').run rules t).state = t := by
  have same := sameEnds_run rules p
  have forward : (p.parser rules).Forward := forward rules p
  have inPlace' := inPlace.congr same
  have ended := (sameEnds_run rules (p.many allowEmpty)).endsAs returned
  rw [parser_many] at ended
  have values := Parser.repeats_of_many p.name forward inPlace' ended
  obtain ⟨ws, again⟩ := values.again forward
  refine ⟨values.congr same.symm, ?_, ⟨ws, ?_⟩, fun allowEmpty' => ?_⟩
  · obtain ⟨e, stopped, -⟩ | ⟨v, still⟩ := values.exhausted forward
    · exact .inl ⟨e, same.symm.outcome stopped⟩
    · exact .inr ⟨v, same.symm.endsAs still⟩
  · refine (sameEnds_run rules p.many).symm.endsAs ?_
    rw [parser_many]
    exact again.many p.name forward inPlace' (.inl rfl)
  · rw [state_run, parser_many]
    exact again.state_many p.name forward inPlace'

/-- An `a` and a `b` after it. -/
def pair : Grammar (fun _ : Empty => Unit) String := (token "a").keepLeft (token "b")

theorem stopsInPlace_pair : (pair.run nofun).StopsInPlace := by
  refine Parser.StopsInPlace.congr (sameEnds_run _ _).symm ?_
  intro s e stopped _
  rw [pair, parser_keepLeft] at stopped ⊢
  rw [Parser.keepLeft, Parser.outcome_atomic] at stopped
  exact Parser.cursor_atomic_of_error stopped

/-- Two pairs are collected, and the `a` that has no `b` is put back. -/
theorem run_many_pairs :
    (pair.run nofun).StopsInPlace ∧
      (pair.run nofun).Repeats ⟨.ofChars "xababac".toList 1, ⟨3, 0⟩⟩ ["a", "a"]
        ⟨.ofChars "xababac".toList 5, ⟨3, 0⟩⟩ := by
  have returned : (pair.many.run nofun ⟨.ofChars "xababac".toList 1, ⟨3, 0⟩⟩).EndsAs
      (.ok ["a", "a"]) ⟨.ofChars "xababac".toList 5, ⟨3, 0⟩⟩ := by
    rw [← runWithin_eq_run _ _ _ (fun _ => Parser.tooDeep) 4 7 (by decide) (by decide)]
    exact ⟨rfl, rfl⟩
  exact ⟨stopsInPlace_pair, (run_many_maximal pair stopsInPlace_pair true returned).1⟩

/-! ## Separated repetitions -/

/-- Over an element that puts the cursor back, and where the attempts do nothing but fail, a
separated repetition returns the first element and those of the rounds after it, whatever the
options are.  They choose between the place behind the last element and the one behind a
separator after it, and whether a missing first element is a failure. -/
theorem run_separated (p : Grammar τ α) (separator : Grammar τ β)
    (restores : (p.run rules).Restores) (s : State)
    (element : ∀ t, (p.run rules).TriesElement (separator.run rules) s t →
      (p.run rules t).OnlyFails)
    (between : ∀ t, (p.run rules).TriesSeparator (separator.run rules) s t →
      (separator.run rules t).OnlyFails) :
    (∃ vs last stop, (p.run rules).Collects (separator.run rules) s vs last stop ∧
        (stop = last ∨ ∃ w, (separator.run rules last).EndsAs (.ok w) stop) ∧
        ∀ o : Parser.SequenceOptions, o.allowEmpty = true ∨ vs ≠ [] →
          ((p.separated separator o).run rules s).EndsAs (.ok vs)
            (if o.allowTrailing then stop else last)) ∧
      ∀ allowTrailing,
        (((p.separated separator ⟨true, allowTrailing⟩).run rules s).EndsAs (.ok []) s ↔
          ∃ e, (p.run rules s).outcome = .error (.failure e) ∧
            ((p.separated separator ⟨false, allowTrailing⟩).run rules s).outcome =
              .error (.failure e)) := by
  have same := sameEnds_run rules p
  have same' := sameEnds_run rules separator
  have forward₁ : (p.parser rules).Forward := forward rules p
  have forward₂ : (separator.parser rules).Forward := forward rules separator
  have restores' := restores.congr same
  obtain ⟨vs, last, stop, collects⟩ := Parser.exists_collects forward₁ forward₂ (s := s)
    (fun t tried => same.onlyFails (element t (tried.congr same.symm same'.symm)))
    (fun t tried => same'.onlyFails (between t (tried.congr same.symm same'.symm)))
  constructor
  · refine ⟨vs, last, stop, collects.congr same.symm same'.symm, ?_, fun o allowed => ?_⟩
    · exact collects.stop_eq.imp_right fun ⟨w, behind⟩ => ⟨w, same'.symm.endsAs behind⟩
    · refine (sameEnds_run rules (p.separated separator o)).symm.endsAs ?_
      rw [parser_separated]
      exact collects.sequence forward₁ forward₂ restores' p.name allowed
  · intro allowTrailing
    have empty := collects.empty_iff forward₁ forward₂ restores' p.name allowTrailing
    simpa only [Run.EndsAs, outcome_run, state_run, parser_separated] using empty

/-- Of one `a` after the other, with two stars between, two are collected.  The two stars behind
them stay read or not. -/
theorem run_separated_twoStars :
    let letter : Grammar (fun _ : Empty => Unit) String := token "a"
    let start : State := ⟨.ofChars "xa**a**b".toList 1, ⟨3, 0⟩⟩
    (letter.run nofun).Restores ∧ (∀ t, (letter.run nofun t).OnlyFails) ∧
      (∀ t, (twoStars.run nofun t).OnlyFails) ∧
      (letter.run nofun).Collects (twoStars.run nofun) start ["a", "a"] (start.atPos 5)
        (start.atPos 7) := by
  intro letter start
  have sameLetter := sameEnds_run (τ := fun _ : Empty => Unit) nofun letter
  have restores : (letter.run nofun).Restores :=
    Parser.Restores.congr sameLetter.symm (Parser.isReading_token "a").restores
  have element : ∀ t, (letter.run nofun t).OnlyFails := fun t =>
    sameLetter.symm.onlyFails ((Parser.readsOrFails_token "a").onlyFails t)
  refine ⟨restores, element, onlyFails_twoStars, ?_⟩
  obtain ⟨vs, last, stop, collects, -, ends⟩ := (run_separated letter twoStars restores start
    (fun t _ => element t) (fun t _ => onlyFails_twoStars t)).1
  have kept : ((letter.separated twoStars ⟨true, true⟩).run nofun start).EndsAs (.ok ["a", "a"])
      (start.atPos 7) := by
    rw [← runWithin_eq_run _ _ _ (fun _ => Parser.tooDeep) 4 8 (by decide) (by decide)]
    exact ⟨by decide +kernel, by decide +kernel⟩
  have rewound : ((letter.separated twoStars ⟨true, false⟩).run nofun start).EndsAs
      (.ok ["a", "a"]) (start.atPos 5) := by
    rw [← runWithin_eq_run _ _ _ (fun _ => Parser.tooDeep) 4 8 (by decide) (by decide)]
    exact ⟨by decide +kernel, by decide +kernel⟩
  obtain ⟨values, rfl⟩ := (ends ⟨true, true⟩ (.inl rfl)).unique kept
  obtain ⟨-, rfl⟩ := (ends ⟨true, false⟩ (.inl rfl)).unique rewound
  cases values
  exact collects

end Grammar

end Descent
