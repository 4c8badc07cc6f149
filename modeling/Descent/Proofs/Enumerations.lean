import Descent.Proofs.Composition
import Descent.Proofs.Scanning
import Descent.Proofs.Stepping

/-!
# Members of an enumeration

The grammar of an enumeration is a chain of alternatives, one for each member, in the order of
their declaration.  The chain begins with a failure that shows all texts, and of the two failures
of an alternative the first one is kept.  Three facts about adding one more literal to such a
chain carry over to any number of literals, by induction on the list of those that are added.

* A chain that has a value keeps it (`addLiterals_of_ok`).
* A chain that fails goes on failing as it did, over literals that are not ahead
  (`addLiterals_of_failure`).
* A chain that fails takes the value of a literal that is ahead.

So the first member whose text is ahead is the value, be its text empty or a part of a later one,
and where there is none the one failure of the beginning is left (`exists_enumeration`).
-/

namespace Descent

namespace Grammar

variable {ι : Type} {τ : ι → Type} {α : Type} {rules : (i : ι) → Grammar τ (τ i)}
  {p : Grammar τ α} {s t : State} {v : α} {e : ParseError}

/-! ## One literal -/

/-- A chain of alternatives with one more literal. -/
def addLiteral (p : Grammar τ α) (entry : String × α) : Grammar τ α :=
  (p.orElse ((fun _ => entry.2) <$> token entry.1)).firstError

theorem firstLiteral_eq (entries : List (String × α)) :
    (firstLiteral entries : Grammar τ α) =
      entries.foldl addLiteral (fail (.token (.oneOf (entries.map Prod.fst)))) := rfl

theorem parser_addLiteral (rules : (i : ι) → Grammar τ (τ i)) (p : Grammar τ α)
    (entry : String × α) :
    (p.addLiteral entry).parser rules =
      ((p.parser rules).orElse
        ((Parser.token entry.1).mapOrStop fun _ => .ok entry.2)).firstError := by
  have branches := parser_orElse rules p ((fun _ => entry.2) <$> token entry.1)
  rw [parser_functor] at branches
  exact congrArg Parser.firstError branches

theorem addLiteral_of_ok (entry : String × α) (hp : p.parser rules s = .ok v t) :
    (p.addLiteral entry).parser rules s = .ok v t := by
  rw [parser_addLiteral]
  exact Parser.firstError_of_ok (Parser.orElse_of_ok _ hp)

theorem addLiteral_of_failure {entry : String × α}
    (hp : p.parser rules s = .stop (.failure e) s) (missing : ¬ entry.1.toList <+: s.cursor.rest) :
    (p.addLiteral entry).parser rules s = .stop (.failure e) s := by
  have literal := Parser.mapOrStop_of_stop (fun _ => Except.ok entry.2)
    (Parser.token_of_not_prefix missing)
  rw [parser_addLiteral]
  exact Parser.firstError_of_either (Parser.orElse_of_failures hp literal)

theorem addLiteral_of_ahead {entry : String × α} (hp : p.parser rules s = .stop (.failure e) s)
    (ahead : entry.1.toList <+: s.cursor.rest) :
    (p.addLiteral entry).parser rules s =
      .ok entry.2 (s.moveTo (s.cursor.advance entry.1.length)) := by
  obtain ⟨rest, split⟩ := ahead
  have literal := Parser.mapOrStop_of_ok (f := fun _ => Except.ok entry.2)
    (Parser.token_of_append split.symm) rfl
  rw [parser_addLiteral]
  exact Parser.firstError_of_ok (Parser.orElse_of_failure hp literal)

/-! ## Many literals -/

theorem addLiterals_of_ok (entries : List (String × α)) (hp : p.parser rules s = .ok v t) :
    (entries.foldl addLiteral p).parser rules s = .ok v t := by
  induction entries generalizing p with
  | nil => exact hp
  | cons entry entries ih => exact ih (addLiteral_of_ok entry hp)

theorem addLiterals_of_failure {entries : List (String × α)}
    (hp : p.parser rules s = .stop (.failure e) s)
    (missing : ∀ entry ∈ entries, ¬ entry.1.toList <+: s.cursor.rest) :
    (entries.foldl addLiteral p).parser rules s = .stop (.failure e) s := by
  induction entries generalizing p with
  | nil => exact hp
  | cons entry entries ih =>
      refine ih (addLiteral_of_failure hp (missing entry (.head _))) fun other among => ?_
      exact missing other (.tail _ among)

/-- The first literal that is ahead is read. -/
theorem firstLiteral_of_ahead {before after : List (String × α)} {entry : String × α}
    (missing : ∀ other ∈ before, ¬ other.1.toList <+: s.cursor.rest)
    (ahead : entry.1.toList <+: s.cursor.rest) :
    (firstLiteral (before ++ entry :: after) : Grammar τ α).parser rules s =
      .ok entry.2 (s.moveTo (s.cursor.advance entry.1.length)) := by
  rw [firstLiteral_eq, List.foldl_append, List.foldl_cons]
  generalize seed : ParseError.token (.oneOf ((before ++ entry :: after).map Prod.fst)) = e
  have failed : (before.foldl addLiteral (fail e)).parser rules s = .stop (.failure e) s :=
    addLiterals_of_failure rfl missing
  exact addLiterals_of_ok after (addLiteral_of_ahead failed ahead)

/-- Where no literal is ahead, the failure shows all of them. -/
theorem firstLiteral_of_missing {entries : List (String × α)}
    (missing : ∀ entry ∈ entries, ¬ entry.1.toList <+: s.cursor.rest) :
    (firstLiteral entries : Grammar τ α).parser rules s =
      .stop (.failure (.token (.oneOf (entries.map Prod.fst)))) s := by
  rw [firstLiteral_eq]
  exact addLiterals_of_failure (p := fail _) rfl missing

end Grammar

/-! ## Members -/

/-- The text of a member whose value is one. -/
def Member.text (m : Member) : String := m.value.text?.getD ""

namespace Grammar

variable {ι : Type} {τ : ι → Type} {rules : (i : ι) → Grammar τ (τ i)} {s : State}

/-- The texts of members that have one, each beside its member. -/
theorem mapM_memberText? {members : List Member}
    (texts : ∀ m ∈ members, m.value = .text m.text) :
    members.mapM memberText? = .ok (members.map fun m => (m.text, m)) := by
  induction members with
  | nil => rfl
  | cons m members ih =>
      have one : memberText? m = .ok (m.text, m) := by
        rw [memberText?, texts m (.head _)]
        rfl
      rw [List.mapM_cons, one, ih fun other among => texts other (.tail _ among)]
      rfl

/-- The grammar of an enumeration with these members. -/
def anyMember (members : List Member) : Grammar τ Member :=
  firstLiteral (members.map fun m => (m.text, m))

theorem anyMember_of_ahead {before after : List Member} {m : Member}
    (missing : ∀ other ∈ before, ¬ other.text.toList <+: s.cursor.rest)
    (ahead : m.text.toList <+: s.cursor.rest) :
    (anyMember (before ++ m :: after)).parser rules s =
      .ok m (s.moveTo (s.cursor.advance m.text.length)) := by
  rw [anyMember, List.map_append, List.map_cons]
  exact firstLiteral_of_ahead (by simpa using missing) ahead

theorem anyMember_of_missing {members : List Member}
    (missing : ∀ m ∈ members, ¬ m.text.toList <+: s.cursor.rest) :
    (anyMember members).parser rules s =
      .stop (.failure (.token (.oneOf (members.map Member.text)))) s := by
  rw [anyMember, firstLiteral_of_missing (by simpa using missing), List.map_map]
  rfl

/-- Of the members whose texts are ahead there is a first one. -/
theorem exists_first {members : List Member}
    (found : ∃ m ∈ members, m.text.toList <+: s.cursor.rest) :
    ∃ before m after, members = before ++ m :: after ∧
      (∀ other ∈ before, ¬ other.text.toList <+: s.cursor.rest) ∧
      m.text.toList <+: s.cursor.rest := by
  obtain ⟨m, first⟩ : ∃ m, members.find? (fun m => m.text.toList <+: s.cursor.rest) = some m := by
    simpa [← Option.isSome_iff_exists] using found
  obtain ⟨ahead, before, after, split, missing⟩ := List.find?_eq_some_iff_append.mp first
  exact ⟨before, m, after, split, by simpa using missing, by simpa using ahead⟩

/-- Where all members have texts there is a grammar of the enumeration.  It gives the first
member whose text is ahead, with this text read, and where there is none it fails with all texts
as one expectation. -/
theorem exists_enumeration (e : Enumeration) (texts : ∀ m ∈ e.members, m.value = .text m.text) :
    ∃ g : Grammar τ Member, enumeration? e = .ok g ∧
      ∀ (rules : (i : ι) → Grammar τ (τ i)) (s : State),
        ((∃ m, (g.run rules s).outcome = .ok m) ↔
          ∃ m ∈ e.members, m.text.toList <+: s.cursor.rest) ∧
        (∀ before m after, e.members = before ++ m :: after →
          (∀ other ∈ before, ¬ other.text.toList <+: s.cursor.rest) →
          m.text.toList <+: s.cursor.rest →
            (g.run rules s).EndsAs (.ok m) (s.moveTo (s.cursor.advance m.text.length)) ∧
              (g.run rules s).state.cursor.pos = s.cursor.pos + m.text.length) ∧
        ((∀ m ∈ e.members, ¬ m.text.toList <+: s.cursor.rest) →
          (g.run rules s).EndsAs
            (.error (.failure (.token (.oneOf (e.members.map Member.text))))) s) := by
  refine ⟨(anyMember e.members).named ("enumeration(" ++ e.name ++ ")"), ?_, fun rules s => ?_⟩
  · rw [enumeration?, mapM_memberText? texts]
    rfl
  simp only [Run.EndsAs, outcome_run, state_run, parser_named]
  refine ⟨⟨?_, ?_⟩, ?_, ?_⟩
  · rintro ⟨m, value⟩
    by_contra none
    rw [anyMember_of_missing fun m among ahead => none ⟨m, among, ahead⟩] at value
    cases value
  · intro found
    obtain ⟨before, m, after, split, missing, ahead⟩ := exists_first found
    rw [split, anyMember_of_ahead missing ahead]
    exact ⟨m, rfl⟩
  · intro before m after split missing ahead
    rw [split, anyMember_of_ahead missing ahead]
    refine ⟨⟨rfl, rfl⟩, ?_⟩
    have inside : m.text.length ≤ s.cursor.rest.length := ahead.length_le
    exact (Cursor.pos_advance _ _).trans (congrArg _ (Nat.min_eq_left inside))
  · intro missing
    rw [anyMember_of_missing missing]
    exact ⟨rfl, rfl⟩

/-- Three names of two operators, the shorter of them declared first. -/
def operators : Enumeration :=
  ⟨"Operator", [("TIMES", .text "*"), ("POWER", .text "**"), ("STAR", .text "*")]⟩

/-- The shorter operator hides the longer one, and a failure shows both of them once. -/
theorem exists_enumeration_operators :
    (∀ m ∈ operators.members, m.value = .text m.text) ∧
      ∃ g : Grammar (fun _ : Empty => Unit) Member, enumeration? operators = .ok g ∧
        (g.run nofun ⟨.ofChars "2**3".toList 1, ⟨5, 0⟩⟩).EndsAs
          (.ok ⟨"Operator", "TIMES", .text "*"⟩) ⟨.ofChars "2**3".toList 2, ⟨5, 0⟩⟩ ∧
        (g.run nofun ⟨.ofChars "2**3".toList 0, ⟨5, 0⟩⟩).EndsAs
          (.error (.failure (.token (.oneOf ["*", "**"])))) ⟨.ofChars "2**3".toList 0, ⟨5, 0⟩⟩ := by
  have texts : ∀ m ∈ operators.members, m.value = .text m.text := by decide
  obtain ⟨g, made, runs⟩ := exists_enumeration (τ := fun _ : Empty => Unit) operators texts
  have found := (runs nofun ⟨.ofChars "2**3".toList 1, ⟨5, 0⟩⟩).2.1 []
    ⟨"Operator", "TIMES", .text "*"⟩ [⟨"Operator", "POWER", .text "**"⟩] (by decide) nofun
    (by decide)
  have missing := (runs nofun ⟨.ofChars "2**3".toList 0, ⟨5, 0⟩⟩).2.2 (by decide)
  exact ⟨texts, g, made, found.1, missing⟩

end Grammar

end Descent
