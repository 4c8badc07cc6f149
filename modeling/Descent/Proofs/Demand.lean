import Descent.Parser.Repetition
import Descent.Proofs.Stepping

/-!
# The levels that a text demands

A parser *reads* a text before a rest when, wherever the two stand ahead, its run ends right
past the text with a known value.  To do so it needs a number of levels of nesting, its
*demand* for that text, and with fewer levels left it stops at the nesting limit
(`Parser.Reads`).  It *refuses* an input where it fails without moving
(`Parser.Refuses`).

Demands follow the texts.  Parts that are read one after the other demand what the greediest
of them does, and one level deeper is one level more.  Where a run stops at the limit, its
place depends on how far the parts before have come, so `Reads` does not name this place.
-/

namespace Descent

/-! ## Past a text -/

namespace State

variable {s : State} {a b rest : List Char}

/-- The state as many characters further as a text has. -/
def past (s : State) (text : List Char) : State := s.moveTo (s.cursor.advance text.length)

@[simp] theorem nesting_past (s : State) (text : List Char) : (s.past text).nesting = s.nesting :=
  rfl

theorem past_nil (s : State) : s.past [] = s := by
  rw [past, List.length_nil, Cursor.advance_zero, moveTo_cursor]

theorem past_append (s : State) (a b : List Char) : (s.past a).past b = s.past (a ++ b) := by
  simp only [past, cursor_moveTo, moveTo_moveTo, Cursor.advance_advance, List.length_append]

theorem rest_past (ahead : s.cursor.rest = a ++ rest) : (s.past a).cursor.rest = rest := by
  rw [past, cursor_moveTo, Cursor.rest_advance, ahead, List.drop_left]

end State

namespace Parser

variable {α β γ : Type} {p : Parser α} {q : Parser β} {v : α} {w : β} {m n : Nat}
  {text a b rest ahead : List Char}

/-! ## Reading and refusing -/

/-- Before `rest` the parser reads `text` for a value and demands so many levels. -/
structure Reads (p : Parser α) (v : α) (levels : Nat) (text rest : List Char) : Prop where
  /-- With enough levels left, the run ends past the text. -/
  ok_of_le {s : State} : s.cursor.rest = text ++ rest → levels ≤ s.nesting.budget →
    p s = .ok v (s.past text)
  /-- With fewer, it stops at the limit. -/
  stop_of_lt {s : State} : s.cursor.rest = text ++ rest → s.nesting.budget < levels →
    ∃ t, p s = .stop (.tooDeep s.nesting.limit) t

/-- At this input the parser fails and does not move. -/
def Refuses (p : Parser α) (ahead : List Char) : Prop :=
  ∀ s : State, s.cursor.rest = ahead → ∃ e, p s = .stop (.failure e) s

/-- At this input the parser demands so many levels, and then it fails and does not move. -/
structure Declines (p : Parser α) (levels : Nat) (ahead : List Char) : Prop where
  /-- With enough levels left, the run fails. -/
  stop_of_le {s : State} : s.cursor.rest = ahead → levels ≤ s.nesting.budget →
    ∃ e, p s = .stop (.failure e) s
  /-- With fewer, it stops at the limit. -/
  stop_of_lt {s : State} : s.cursor.rest = ahead → s.nesting.budget < levels →
    ∃ t, p s = .stop (.tooDeep s.nesting.limit) t

/-- What a parser refuses it declines at once. -/
theorem Refuses.declines (hp : Refuses p ahead) : Declines p 0 ahead where
  stop_of_le hs _ := hp _ hs
  stop_of_lt _ few := absurd few (Nat.not_lt_zero _)

/-- A parser that ends past the text at every nesting demands nothing. -/
theorem Reads.of_ok (ok : ∀ s : State, s.cursor.rest = text ++ rest → p s = .ok v (s.past text)) :
    Reads p v 0 text rest where
  ok_of_le ahead _ := ok _ ahead
  stop_of_lt _ few := absurd few (Nat.not_lt_zero _)

/-! ## Terminals -/

theorem reads_succeed (v : α) : Reads (succeed v) v 0 [] rest :=
  .of_ok fun s _ => by
    rw [State.past_nil]
    rfl

theorem reads_token (text : String) : Reads (token text) text 0 text.toList rest :=
  .of_ok fun s ahead => by rw [token_of_append ahead, State.past, String.length_toList]

theorem refuses_token {text : String} (missing : ¬ text.toList <+: ahead) :
    Refuses (token text) ahead := by
  rintro s rfl
  exact ⟨_, token_of_not_prefix missing⟩

theorem reads_span {c : Char → Bool} (e : ParseError) (all : ∀ x ∈ text, c x = true)
    (stop : ∀ x ∈ rest.head?, c x = false) :
    Reads (span c true e) (String.ofList text) 0 text rest :=
  .of_ok fun _ ahead => span_of_append e ahead all stop

theorem reads_number {i : Int} (written : Numeral i text)
    (stop : ∀ x ∈ rest.head?, x.isDigit = false) : Reads number i 0 text rest :=
  .of_ok fun _ ahead => number_of_numeral written ahead stop

theorem refuses_number {x : Char} (digit : x.isDigit = false) (minus : x ≠ '-') :
    Refuses number (x :: rest) :=
  fun _ ahead => ⟨_, number_of_other ahead digit minus⟩

/-! ## Combinators -/

theorem Reads.map (hp : Reads p v m text rest) (f : α → β) :
    Reads (p.mapOrStop fun v => .ok (f v)) (f v) m text rest where
  ok_of_le ahead enough := mapOrStop_of_ok (hp.ok_of_le ahead enough) rfl
  stop_of_lt ahead few := by
    obtain ⟨t, stopped⟩ := hp.stop_of_lt ahead few
    exact ⟨t, mapOrStop_of_stop _ stopped⟩

theorem Refuses.map (hp : Refuses p ahead) (f : α → Except Stop β) :
    Refuses (p.mapOrStop f) ahead := by
  intro s hs
  obtain ⟨e, failed⟩ := hp s hs
  exact ⟨e, mapOrStop_of_stop f failed⟩

theorem Declines.map (hp : Declines p m ahead) (f : α → Except Stop β) :
    Declines (p.mapOrStop f) m ahead where
  stop_of_le hs enough := by
    obtain ⟨e, failed⟩ := hp.stop_of_le hs enough
    exact ⟨e, mapOrStop_of_stop f failed⟩
  stop_of_lt hs few := by
    obtain ⟨t, stopped⟩ := hp.stop_of_lt hs few
    exact ⟨t, mapOrStop_of_stop f stopped⟩

/-- What runs one parser after another reads the two texts one after the other.  A stop of
either part at the limit is a stop of the whole there. -/
theorem Reads.both {r : Parser γ} {x : γ} (hp : Reads p v m a (b ++ rest)) (hq : Reads q w n b rest)
    (ok : ∀ {s t u}, p s = .ok v t → q t = .ok w u → r s = .ok x u)
    (first : ∀ {s t limit}, p s = .stop (.tooDeep limit) t → ∃ u, r s = .stop (.tooDeep limit) u)
    (second : ∀ {s t u limit}, p s = .ok v t → q t = .stop (.tooDeep limit) u →
      ∃ u, r s = .stop (.tooDeep limit) u) : Reads r x (max m n) (a ++ b) rest where
  ok_of_le {s} ahead enough := by
    rw [List.append_assoc] at ahead
    have read := hp.ok_of_le ahead (Nat.le_trans (Nat.le_max_left m n) enough)
    have read' := hq.ok_of_le (State.rest_past ahead) (Nat.le_trans (Nat.le_max_right m n) enough)
    rw [ok read read', State.past_append]
  stop_of_lt {s} ahead few := by
    rw [List.append_assoc] at ahead
    rcases Nat.lt_or_ge s.nesting.budget m with fewer | enough
    · obtain ⟨t, stopped⟩ := hp.stop_of_lt ahead fewer
      exact first stopped
    · have fewer : s.nesting.budget < n := by omega
      obtain ⟨t, stopped⟩ := hq.stop_of_lt (State.rest_past ahead) fewer
      exact second (hp.ok_of_le ahead enough) stopped

theorem Reads.keepRight (hp : Reads p v m a (b ++ rest)) (hq : Reads q w n b rest) :
    Reads (p.keepRight q) w (max m n) (a ++ b) rest :=
  hp.both hq keepRight_of_ok (fun h => ⟨_, keepRight_of_stop q h⟩)
    fun h h' => ⟨_, keepRight_of_ok_of_stop h h'⟩

theorem Refuses.keepRight (hp : Refuses p ahead) (q : Parser β) :
    Refuses (p.keepRight q) ahead := by
  intro s hs
  obtain ⟨e, failed⟩ := hp s hs
  exact ⟨e, keepRight_of_stop q failed⟩

theorem Reads.keepLeft (hp : Reads p v m a (b ++ rest)) (hq : Reads q w n b rest) :
    Reads (p.keepLeft q) v (max m n) (a ++ b) rest :=
  hp.both hq keepLeft_of_ok (fun h => ⟨_, keepLeft_of_stop q h⟩)
    fun h h' => ⟨_, keepLeft_of_ok_of_stop h h'⟩

theorem Refuses.keepLeft (hp : Refuses p ahead) (q : Parser β) :
    Refuses (p.keepLeft q) ahead := by
  intro s hs
  obtain ⟨e, failed⟩ := hp s hs
  exact ⟨e, keepLeft_of_stop q failed⟩

/-- A text is read, and what is missing behind it is a failure of the whole. -/
theorem Reads.keepLeft_declines (hp : Reads p v m text ahead) (hq : Refuses q ahead) :
    Declines (p.keepLeft q) m (text ++ ahead) where
  stop_of_le {s} hs enough := by
    obtain ⟨e, failed⟩ := hq _ (State.rest_past hs)
    have stopped := keepLeft_of_ok_of_stop (hp.ok_of_le hs enough) failed
    exact ⟨e, stopped⟩
  stop_of_lt hs few := by
    obtain ⟨t, stopped⟩ := hp.stop_of_lt hs few
    exact ⟨_, keepLeft_of_stop q stopped⟩

theorem Reads.orElse_left (hp : Reads p v m text rest) (q : Parser α) :
    Reads (p.orElse q) v m text rest where
  ok_of_le ahead enough := orElse_of_ok q (hp.ok_of_le ahead enough)
  stop_of_lt ahead few := by
    obtain ⟨t, stopped⟩ := hp.stop_of_lt ahead few
    exact ⟨_, orElse_of_tooDeep q stopped⟩

theorem Declines.orElse {q : Parser α} (hp : Declines p m (text ++ rest))
    (hq : Reads q v n text rest) : Reads (p.orElse q) v (max m n) text rest where
  ok_of_le {s} ahead enough := by
    obtain ⟨e, failed⟩ := hp.stop_of_le ahead (Nat.le_trans (Nat.le_max_left m n) enough)
    have read := hq.ok_of_le ahead (Nat.le_trans (Nat.le_max_right m n) enough)
    exact orElse_of_failure failed read
  stop_of_lt {s} ahead few := by
    rcases Nat.lt_or_ge s.nesting.budget m with fewer | enough
    · obtain ⟨t, stopped⟩ := hp.stop_of_lt ahead fewer
      exact ⟨_, orElse_of_tooDeep q stopped⟩
    · obtain ⟨e, failed⟩ := hp.stop_of_le ahead enough
      obtain ⟨t, stopped⟩ := hq.stop_of_lt ahead (by omega)
      exact ⟨_, orElse_of_failure_of_tooDeep failed stopped⟩

/-- With nothing to read as a last branch, what is declined is nothing. -/
theorem Declines.orElse_succeed (hp : Declines p m rest) (v : α) :
    Reads (p.orElse (succeed v)) v m [] rest := by
  have read : Reads (p.orElse (succeed v)) v (max m 0) [] rest := hp.orElse (reads_succeed v)
  rwa [Nat.max_zero] at read

theorem Reads.orElse_right {q : Parser α} (hp : Refuses p (text ++ rest))
    (hq : Reads q v m text rest) : Reads (p.orElse q) v m text rest := by
  have read := hp.declines.orElse hq
  rwa [Nat.zero_max] at read

theorem Refuses.orElse {q : Parser α} (hp : Refuses p ahead) (hq : Refuses q ahead) :
    Refuses (p.orElse q) ahead := by
  intro s hs
  obtain ⟨e, failed⟩ := hp s hs
  obtain ⟨e', failed'⟩ := hq s hs
  exact ⟨_, orElse_of_failures failed failed'⟩

/-! ## One level deeper -/

theorem Reads.nested (hp : Reads p v m text rest) : Reads p.nested v (m + 1) text rest where
  ok_of_le {s} ahead enough := by
    cases entered : s.nesting.enter? with
    | none =>
        have none_left := (Nesting.enter?_eq_none_iff _).mp entered
        omega
    | some inner =>
        have budget := Nesting.budget_of_enter? entered
        have read := hp.ok_of_le (s := ⟨s.cursor, inner⟩) ahead (by simp only; omega)
        rw [nested_of_entered entered, read]
        simp only [Run.ok, State.past, State.moveTo, Nesting.leave_of_enter? entered]
  stop_of_lt {s} ahead few := by
    cases entered : s.nesting.enter? with
    | none => exact ⟨s, nested_of_refused entered⟩
    | some inner =>
        have budget := Nesting.budget_of_enter? entered
        have limit := congrArg Nesting.limit (Nesting.leave_of_enter? entered)
        obtain ⟨t, stopped⟩ := hp.stop_of_lt (s := ⟨s.cursor, inner⟩) ahead (by simp only; omega)
        refine ⟨⟨t.cursor, t.nesting.leave⟩, ?_⟩
        rw [nested_of_entered entered, stopped, ← limit]
        rfl

/-- Where a level is left, what a parser refuses it refuses one level deeper too. -/
theorem Refuses.nested {s : State} (hp : Refuses p s.cursor.rest) (room : 0 < s.nesting.budget) :
    ∃ e, p.nested s = .stop (.failure e) s := by
  cases entered : s.nesting.enter? with
  | none => exact absurd ((Nesting.enter?_eq_none_iff _).mp entered) (Nat.ne_of_gt room)
  | some inner =>
      obtain ⟨e, failed⟩ := hp ⟨s.cursor, inner⟩ rfl
      refine ⟨e, ?_⟩
      rw [nested_of_entered entered, failed]
      simp only [Run.stop, Nesting.leave_of_enter? entered]

/-! ## Sequences -/

section Sequences

variable {separator : Parser β} {vs : List α} {c : List Char} {k : Nat}
  (name : String) (o : SequenceOptions)

/-- The rounds end where the separator refuses. -/
theorem reads_rounds_nil (p : Parser α) (hs : Refuses separator rest) :
    Reads (rounds name o p separator) [] 0 [] rest :=
  .of_ok fun s ahead => by
    obtain ⟨e, failed⟩ := hs s ahead
    rw [rounds_of_failure name o p failed, State.past_nil, State.moveTo_cursor, ite_self]

/-- One round: a separator that is not empty, an element, and the rounds after it. -/
theorem Reads.rounds_cons (hs : Reads separator w k a (b ++ (c ++ rest)))
    (hp : Reads p v m b (c ++ rest)) (ht : Reads (rounds name o p separator) vs n c rest)
    (ne_nil : a ≠ []) :
    Reads (rounds name o p separator) (v :: vs) (max k (max m n)) (a ++ (b ++ c)) rest := by
  have split (s : State) (ahead : s.cursor.rest = a ++ (b ++ c) ++ rest) :
      s.cursor.rest = a ++ (b ++ (c ++ rest)) ∧ ¬ s.cursor.isAtEnd = true := by
    simp [ahead, Cursor.isAtEnd, ne_nil]
  -- The separator alone sees to it that a round does not stall.
  have shorter : (c ++ rest).length < (a ++ (b ++ (c ++ rest))).length := by
    have some := List.length_pos_iff.mpr ne_nil
    simp only [List.length_append]
    omega
  constructor
  · intro s ahead enough
    obtain ⟨ahead, more⟩ := split s ahead
    have separated := hs.ok_of_le ahead (by omega)
    have aheadElement := State.rest_past ahead
    have element := hp.ok_of_le aheadElement (by rw [State.nesting_past]; omega)
    have aheadOthers := State.rest_past aheadElement
    have others := ht.ok_of_le aheadOthers (by simp only [State.nesting_past]; omega)
    rw [rounds_of_ok name o more separated element (by rwa [aheadOthers, ahead]), others,
      State.past_append, State.past_append]
    rfl
  · intro s ahead few
    obtain ⟨ahead, more⟩ := split s ahead
    rcases Nat.lt_or_ge s.nesting.budget k with fewer | enough
    · obtain ⟨t, separated⟩ := hs.stop_of_lt ahead fewer
      exact ⟨t, rounds_of_tooDeep name o p more separated⟩
    have separated := hs.ok_of_le ahead enough
    have aheadElement := State.rest_past ahead
    rcases Nat.lt_or_ge s.nesting.budget m with fewer | enough
    · obtain ⟨t, element⟩ := hp.stop_of_lt aheadElement fewer
      exact ⟨t, rounds_of_ok_of_tooDeep name o more separated element⟩
    have element := hp.ok_of_le aheadElement enough
    have aheadOthers := State.rest_past aheadElement
    obtain ⟨t, others⟩ := ht.stop_of_lt aheadOthers (by simp only [State.nesting_past]; omega)
    refine ⟨t, ?_⟩
    rw [rounds_of_ok name o more separated element (by rwa [aheadOthers, ahead]), others]
    rfl

/-- An empty sequence: one level is demanded to find out that there is no element. -/
theorem Refuses.reads_sequence_nil (hp : Refuses p rest) (separator : Parser β)
    (allowed : o.allowEmpty = true) : Reads (p.nested.sequence name o separator) [] 1 [] rest where
  ok_of_le {s} ahead enough := by
    obtain ⟨e, failed⟩ := (ahead ▸ hp : Refuses p s.cursor.rest).nested enough
    rw [sequence_of_failure name o separator failed, if_pos allowed, State.past_nil]
  stop_of_lt {s} ahead few := by
    have refused := (Nesting.enter?_eq_none_iff _).mpr (Nat.lt_one_iff.mp few)
    exact ⟨s, sequence_of_tooDeep name o separator (nested_of_refused refused)⟩

/-- A sequence: an element, and the rounds after it. -/
theorem Reads.sequence_cons (hp : Reads p v m a (b ++ rest))
    (ht : Reads (rounds name o p separator) vs n b rest) :
    Reads (p.sequence name o separator) (v :: vs) (max m n) (a ++ b) rest :=
  hp.both ht (sequence_of_ok name o) (fun h => ⟨_, sequence_of_tooDeep name o separator h⟩)
    fun h h' => ⟨_, sequence_of_ok_of_stop name o h h'⟩

end Sequences

end Parser

end Descent
