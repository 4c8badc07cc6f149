import Descent.Proofs.Termination

/-!
# Parsers of parts

The meaning of a grammar takes the unrolled rules from the nesting in which the whole run
begins, so each part runs over rules that were unrolled for the whole.  No run changes the
nesting (`forward`), and so every part may as well unroll the rules for itself: the parser
of a grammar is put together from the parsers of its parts, and the parser of a rule is that
of its grammar, one level deeper.  The unrolling does not show in these equations.
-/

namespace Descent

namespace Parser

variable {α β : Type} {s : State}

/-- Both sequences are the one that is cut after enough rounds. -/
theorem SameFrom.sequence {p q : Parser α} {p' q' : Parser β} (h : SameFrom s p q)
    (hp : Forward p) (hq : Forward q) (h' : SameFrom s p' q') (hp' : Forward p')
    (hq' : Forward q') (name : String) (o : SequenceOptions) :
    SameFrom s (p.sequence name o p') (q.sequence name o q') := by
  intro t ht
  have enough := Nat.lt_succ_self s.cursor.rest.length
  have left := (SameFrom.refl p).sequenceWithin hp (.refl p') hp' (fun _ => tooDeep) enough name o
  have right := h.sequenceWithin hq h' hq' (fun _ => tooDeep) enough name o
  exact (left t ht).symm.trans (right t ht)

/-- So are both repetitions. -/
theorem SameFrom.many {p q : Parser α} (h : SameFrom s p q) (hp : Forward p) (hq : Forward q)
    (name : String) (allowEmpty : Bool) :
    SameFrom s (p.many name allowEmpty) (q.many name allowEmpty) := by
  intro t ht
  have enough := Nat.lt_succ_self t.cursor.rest.length
  have left := (SameFrom.refl p).manyWithin hp (fun _ => tooDeep) name _ allowEmpty t ht enough
  have right := h.manyWithin hq (fun _ => tooDeep) name _ allowEmpty t ht enough
  exact left.symm.trans right

end Parser

namespace Grammar

open Descent.Parser (Forward SameFrom)

variable {ι : Type} {τ : ι → Type} {α β : Type} (rules : (i : ι) → Grammar τ (τ i))

/-- Later states have the nesting of the first one. -/
theorem sameFrom_unrolled (p : Grammar τ α) (s : State) :
    SameFrom s (p.meaning (unroll rules (s.nesting.budget + 1))) (p.parser rules) := by
  intro t ht
  rw [parser, State.nesting_eq_of_le ht]

theorem parser_named (p : Grammar τ α) (label : String) :
    (p.named label).parser rules = p.parser rules := rfl

theorem parser_map (p : Grammar τ α) (f : α → Except Stop β) :
    (p.map f).parser rules = (p.parser rules).mapOrStop f := rfl

theorem parser_functor (f : α → β) (p : Grammar τ α) :
    (f <$> p).parser rules = (p.parser rules).mapOrStop fun v => .ok (f v) := rfl

theorem parser_orElse (p q : Grammar τ α) :
    (p.orElse q).parser rules = (p.parser rules).orElse (q.parser rules) :=
  funext fun s =>
    (sameFrom_unrolled rules p s).orElse (forward rules p) (sameFrom_unrolled rules q s) s
      (le_refl s)

theorem parser_keepRight (p : Grammar τ α) (q : Grammar τ β) :
    (p.keepRight q).parser rules = (p.parser rules).keepRight (q.parser rules) :=
  funext fun s =>
    (sameFrom_unrolled rules p s).keepRight (forward rules p) (sameFrom_unrolled rules q s) s
      (le_refl s)

theorem parser_keepLeft (p : Grammar τ α) (q : Grammar τ β) :
    (p.keepLeft q).parser rules = (p.parser rules).keepLeft (q.parser rules) :=
  funext fun s =>
    (sameFrom_unrolled rules p s).keepLeft (forward rules p) (sameFrom_unrolled rules q s)
      (forward rules q) s (le_refl s)

theorem parser_separated (p : Grammar τ α) (separator : Grammar τ β)
    (o : Parser.SequenceOptions) :
    (p.separated separator o).parser rules =
      (p.parser rules).sequence p.name o (separator.parser rules) := by
  funext s
  have unrolled := forward_unroll rules (s.nesting.budget + 1)
  exact (sameFrom_unrolled rules p s).sequence (forward_meaning unrolled p) (forward rules p)
    (sameFrom_unrolled rules separator s) (forward_meaning unrolled separator)
    (forward rules separator) p.name o s (le_refl s)

theorem parser_many (p : Grammar τ α) (allowEmpty : Bool) :
    (p.many allowEmpty).parser rules = (p.parser rules).many p.name allowEmpty := by
  funext s
  exact (sameFrom_unrolled rules p s).many (forward_meaning (forward_unroll rules _) p)
    (forward rules p) p.name allowEmpty s (le_refl s)

/-- A rule that may be entered leaves its grammar one level less than there was. -/
theorem parser_rule (i : ι) (label : String) :
    (rule i label).parser rules = ((rules i).parser rules).nested := by
  funext s
  cases entered : s.nesting.enter? with
  | none =>
      rw [Parser.nested_of_refused entered]
      exact Parser.nested_of_refused entered
  | some inner =>
      rw [Parser.nested_of_entered entered, parser, Nesting.budget_of_enter? entered]
      exact Parser.nested_of_entered entered

/-! ## Whole runs -/

variable {p : Grammar τ α} {s t : State}

theorem run_of_ok {v : α} (h : p.parser rules s = .ok v t) : p.run rules s = .ok v t := by
  rw [run, h, Run.resume_ok]

theorem run_of_tooDeep {limit : Int} (h : p.parser rules s = .stop (.tooDeep limit) t) :
    p.run rules s = .stop (.tooDeep limit) t := by
  rw [run, h, Run.resume_stop]

end Grammar

end Descent
