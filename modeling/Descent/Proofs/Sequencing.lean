import Descent.Proofs.Choice

/-!
# Sequences under any brackets

Parsers one after the other are written with `bind`, `keepRight` and `keepLeft`.  Each of
these is a plain `andThen` made atomic, so brackets around them decide where cursors are kept
for going back, and each part of a sequence may stop with something read.

What matters is only the outermost place.  An atomic part within an atomic whole puts the
cursor back to a place from which the whole puts it back again: at the front of the whole it
is the same place (`atomic_andThen`), and behind the front it is a later one
(`andThen_atomic`).  With both, every law of `andThen` is one of the atomic sequences: `succeed`
is a unit up to `atomic`, and brackets do not matter (`sequence_laws`).  The laws are equations
between parsers, so the two sides agree in outcome, cursor, nesting and trace from every state,
whatever the parts do.
-/

namespace Descent.Parser

variable {α β γ : Type}

/-! ## Plain sequences -/

theorem succeed_andThen (v : α) (f : α → Parser β) : (succeed v).andThen f = f v := rfl

theorem andThen_succeed (p : Parser α) : p.andThen succeed = p := by
  funext s
  simp only [andThen]
  refine Run.resume_eq_self fun o t => ?_
  cases o with
  | ok v => rfl
  | error e => rfl

theorem andThen_andThen (p : Parser α) (f : α → Parser β) (g : β → Parser γ) :
    (p.andThen f).andThen g = p.andThen fun v => (f v).andThen g := by
  funext s
  simp only [andThen, Run.resume_resume]
  refine Run.resume_congr fun o t => ?_
  cases o with
  | ok v => rfl
  | error e => rfl

/-! ## Atomic parts of an atomic sequence -/

/-- The first part and the whole begin at the same place. -/
theorem atomic_andThen (p : Parser α) (f : α → Parser β) :
    (p.atomic.andThen f).atomic = (p.andThen f).atomic := by
  funext s
  simp only [andThen, atomic, recover, Run.resume_resume]
  refine Run.resume_congr fun o t => ?_
  cases o with
  | ok v => rfl
  | error e => rfl

/-- The second part goes back to where the first one ended, and the whole goes back from
there. -/
theorem andThen_atomic (p : Parser α) (f : α → Parser β) :
    (p.andThen fun v => (f v).atomic).atomic = (p.andThen f).atomic := by
  funext s
  simp only [andThen, atomic, recover, Run.resume_resume]
  refine Run.resume_congr fun o t => ?_
  cases o with
  | error e => rfl
  | ok v =>
      simp only [Run.resume_resume]
      refine Run.resume_congr fun o u => ?_
      cases o with
      | ok w => rfl
      | error e => rfl

/-- So does a part in the middle: it goes back to where the first one ended. -/
theorem andThen_atomic_andThen (p : Parser α) (f : α → Parser β) (g : α → β → Parser γ) :
    (p.andThen fun v => (f v).atomic.andThen (g v)).atomic =
      (p.andThen fun v => (f v).andThen (g v)).atomic :=
  calc (p.andThen fun v => (f v).atomic.andThen (g v)).atomic
      = (p.andThen fun v => ((f v).atomic.andThen (g v)).atomic).atomic :=
        (andThen_atomic p _).symm
    _ = (p.andThen fun v => ((f v).andThen (g v)).atomic).atomic := by simp only [atomic_andThen]
    _ = (p.andThen fun v => (f v).andThen (g v)).atomic := andThen_atomic p _

/-! ## The unit -/

theorem succeed_bind (v : α) (f : α → Parser β) : (succeed v).bind f = (f v).atomic := by
  rw [bind, succeed_andThen]

theorem bind_succeed (p : Parser α) : p.bind succeed = p.atomic := by
  rw [bind, andThen_succeed]

/-! ## Brackets -/

theorem bind_bind (p : Parser α) (f : α → Parser β) (g : β → Parser γ) :
    (p.bind f).bind g = p.bind fun v => (f v).bind g :=
  calc (p.bind f).bind g
      = ((p.andThen f).andThen g).atomic := atomic_andThen _ g
    _ = (p.andThen fun v => (f v).andThen g).atomic := by rw [andThen_andThen]
    _ = p.bind fun v => (f v).bind g := (andThen_atomic p _).symm

theorem keepRight_eq_bind (p : Parser α) (q : Parser β) : p.keepRight q = p.bind fun _ => q := rfl

theorem keepLeft_eq_bind (p : Parser α) (q : Parser β) :
    p.keepLeft q = p.bind fun v => q.mapOrStop fun _ => .ok v := rfl

theorem keepRight_keepRight (p : Parser α) (q : Parser β) (r : Parser γ) :
    (p.keepRight q).keepRight r = p.keepRight (q.keepRight r) := by
  simp only [keepRight_eq_bind, bind_bind]

theorem keepLeft_keepLeft (p : Parser α) (q : Parser β) (r : Parser γ) :
    (p.keepLeft q).keepLeft r = p.keepLeft (q.keepLeft r) :=
  calc (p.keepLeft q).keepLeft r
      = ((p.andThen fun v => q.andThen fun _ => succeed v).andThen fun v =>
          r.andThen fun _ => succeed v).atomic := atomic_andThen _ _
    _ = (p.andThen fun v => (q.andThen fun w => r.andThen fun _ => succeed w).andThen fun _ =>
          succeed v).atomic := by simp only [andThen_andThen, succeed_andThen]
    _ = p.keepLeft (q.keepLeft r) := (andThen_atomic_andThen p _ _).symm

theorem keepRight_keepLeft (p : Parser α) (q : Parser β) (r : Parser γ) :
    (p.keepRight q).keepLeft r = p.keepRight (q.keepLeft r) :=
  calc (p.keepRight q).keepLeft r
      = ((p.andThen fun _ => q).andThen fun v => r.andThen fun _ => succeed v).atomic :=
        atomic_andThen _ _
    _ = (p.andThen fun _ => q.andThen fun v => r.andThen fun _ => succeed v).atomic := by
        rw [andThen_andThen]
    _ = p.keepRight (q.keepLeft r) := (andThen_atomic p _).symm

/-- The laws of sequences: `succeed` is a unit of `bind` up to `atomic`, `bind` may be
regrouped, the two others are forms of it, and any two of them may be regrouped. -/
theorem sequence_laws (p : Parser α) (q : Parser β) (r : Parser γ) (v : α) (f : α → Parser β)
    (g : β → Parser γ) :
    (succeed v).bind f = (f v).atomic ∧
      p.bind succeed = p.atomic ∧
      (p.bind f).bind g = (p.bind fun v => (f v).bind g) ∧
      p.keepRight q = (p.bind fun _ => q) ∧
      p.keepLeft q = (p.bind fun v => q.mapOrStop fun _ => .ok v) ∧
      (p.keepRight q).keepRight r = p.keepRight (q.keepRight r) ∧
      (p.keepLeft q).keepLeft r = p.keepLeft (q.keepLeft r) ∧
      (p.keepRight q).keepLeft r = p.keepRight (q.keepLeft r) :=
  ⟨succeed_bind v f, bind_succeed p, bind_bind p f g, keepRight_eq_bind p q, keepLeft_eq_bind p q,
    keepRight_keepRight p q r, keepLeft_keepLeft p q r, keepRight_keepLeft p q r⟩

end Descent.Parser
