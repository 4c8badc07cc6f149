import Descent.Proofs.Composition
import Descent.Proofs.Demand
import Descent.Proofs.Limit

/-!
# Matching parentheses

`Grammar.parens` counts the round brackets around nothing, and brackets that do not match are
nothing to it.  Two numbers decide what it does: how many brackets are opened at the cursor, and
how many are closed right behind them.

Each opening bracket takes one level, whether it is closed or not.  If all are closed, each level
reads its own pair and adds one to the value.  If one is not closed, the level that misses it
gives up what it has read and is nothing, and then the level around it misses its own bracket,
as an opening one comes next.  So nothing is read in the end, and the levels have been demanded
all the same.  This is where a failure demands levels (`Parser.Declines`).
-/

namespace Descent

namespace Grammar

open Descent.Parser (Reads Refuses Declines)

variable {a b : Nat} {rest tail : List Char}

/-! ## Brackets of a text -/

/-- How many brackets are opened at the front. -/
def opened (text : List Char) : Nat := (text.takeWhile (· == '(')).length

/-- How many are closed right behind them. -/
def closed (text : List Char) : Nat :=
  ((text.dropWhile (· == '(')).takeWhile (· == ')')).length

/-- A text is the run of a character at its front and what comes behind the run. -/
theorem replicate_append_dropWhile (x : Char) (text : List Char) :
    List.replicate (text.takeWhile (· == x)).length x ++ text.dropWhile (· == x) = text := by
  have run : text.takeWhile (· == x) = List.replicate (text.takeWhile (· == x)).length x :=
    List.eq_replicate_iff.mpr ⟨rfl, fun y hy => by simpa using List.mem_takeWhile_imp hy⟩
  rw [← run, List.takeWhile_append_dropWhile]

/-- Behind the run something else comes. -/
theorem head?_dropWhile_ne (x : Char) (text : List Char) :
    (text.dropWhile (· == x)).head? ≠ some x := by
  intro head
  have other := Parser.mem_head?_dropWhile x head
  simp at other

/-- A text is made of the brackets that are opened, those that are closed, and a tail. -/
theorem exists_tail (text : List Char) : ∃ tail,
    text = List.replicate (opened text) '(' ++ (List.replicate (closed text) ')' ++ tail) ∧
      (List.replicate (closed text) ')' ++ tail).head? ≠ some '(' ∧ tail.head? ≠ some ')' := by
  refine ⟨(text.dropWhile (· == '(')).dropWhile (· == ')'), ?_, ?_, head?_dropWhile_ne _ _⟩
  · rw [closed, replicate_append_dropWhile, opened, replicate_append_dropWhile]
  · rw [closed, replicate_append_dropWhile]
    exact head?_dropWhile_ne _ _

/-! ## What the grammar reads -/

/-- The parser of the grammar. -/
def around : Parser Int := (parens ()).parser parens

theorem around_eq : around =
    ((((Parser.token "(").keepRight around.nested).keepLeft (Parser.token ")")).mapOrStop
      fun n => .ok (n + 1)).orElse (Parser.succeed 0) := by
  conv_lhs => rw [around, parens, parser_orElse, parser_map, parser_keepLeft, parser_keepRight,
    parser_rule]
  rfl

theorem refuses_bracket (text : String) {x : Char} (one : text.toList = [x])
    (other : rest.head? ≠ some x) : Refuses (Parser.token text) rest := by
  refine Parser.refuses_token ?_
  rw [one]
  rintro ⟨tail, rfl⟩
  exact other rfl

/-- Nothing is read where no bracket is opened. -/
theorem reads_nothing (other : rest.head? ≠ some '(') : Reads around 0 0 [] rest := by
  have refused := (((refuses_bracket "(" rfl other).keepRight around.nested).keepLeft
    (Parser.token ")")).map fun n => .ok (n + 1)
  rw [around_eq]
  exact refused.declines.orElse_succeed 0

/-- An opening bracket and what is read behind it. -/
theorem reads_opening {n : Int} {text : List Char} {levels : Nat}
    (inner : Reads around n levels text rest) :
    Reads ((Parser.token "(").keepRight around.nested) n (levels + 1) ('(' :: text) rest := by
  have read := (Parser.reads_token "(").keepRight inner.nested
  rwa [Nat.zero_max] at read

/-- A pair around what has been read adds one. -/
theorem reads_pair {n : Int} {text : List Char} {levels : Nat}
    (inner : Reads around n levels text (')' :: rest)) :
    Reads around (n + 1) (levels + 1) ('(' :: (text ++ [')'])) rest := by
  rw [around_eq]
  have read := (((reads_opening inner).keepLeft (Parser.reads_token ")")).map (· + 1)).orElse_left
    (Parser.succeed 0)
  simpa using read

/-- Where the closing bracket is missing nothing is read. -/
theorem reads_unclosed {n : Int} {text ahead : List Char} {levels : Nat}
    (inner : Reads around n levels text ahead) (missing : ahead.head? ≠ some ')') :
    Reads around 0 (levels + 1) [] ('(' :: (text ++ ahead)) := by
  have declined := ((reads_opening inner).keepLeft_declines (refuses_bracket ")" rfl missing)).map
    fun n => .ok (n + 1)
  rw [around_eq]
  exact declined.orElse_succeed 0

/-- As many brackets are closed as are opened. -/
theorem reads_matched (n : Nat) (follow : n = 0 → rest.head? ≠ some '(') :
    Reads around n n (List.replicate n '(' ++ List.replicate n ')') rest := by
  induction n generalizing rest with
  | zero => exact reads_nothing (follow rfl)
  | succ n ih =>
      have inner : Reads around n n (List.replicate n '(' ++ List.replicate n ')') (')' :: rest) :=
        ih fun _ => by simp
      have pair := reads_pair inner
      rw [List.replicate_succ' (a := ')')]
      simpa [List.replicate_succ] using pair

/-- Fewer are closed. -/
theorem reads_unmatched (few : b < a) (other : (List.replicate b ')' ++ tail).head? ≠ some '(')
    (missing : tail.head? ≠ some ')') :
    Reads around 0 a [] (List.replicate a '(' ++ (List.replicate b ')' ++ tail)) := by
  induction a with
  | zero => exact absurd few (Nat.not_lt_zero b)
  | succ a ih =>
      rw [List.replicate_succ, List.cons_append]
      rcases Nat.lt_succ_iff_lt_or_eq.mp few with fewer | rfl
      · have opening :
            (List.replicate a '(' ++ (List.replicate b ')' ++ tail)).head? ≠ some ')' := by
          obtain ⟨k, rfl⟩ := Nat.exists_eq_add_one.mpr (Nat.zero_lt_of_lt fewer)
          simp [List.replicate_succ]
        exact (reads_unclosed (ih fewer) opening :)
      · have all : Reads around b b (List.replicate b '(' ++ List.replicate b ')') tail := by
          refine reads_matched b ?_
          rintro rfl
          exact other
        rw [← List.append_assoc]
        exact reads_unclosed all missing

/-! ## What it decides -/

/-- The alternatives of the grammar put the cursor back at the limit. -/
theorem run_of_reads {n : Int} {text : List Char} {levels : Nat} {c : Cursor}
    (read : Reads around n levels text rest) (ahead : c.rest = text ++ rest) (g : Nesting) :
    (parens ()).run parens ⟨c, g⟩ =
      if g.budget < levels then .stop (.tooDeep g.limit) ⟨c, g⟩
      else .ok n ⟨c.advance text.length, g⟩ := by
  split
  next few =>
    obtain ⟨t, stopped⟩ := read.stop_of_lt (s := ⟨c, g⟩) ahead few
    have later := forward parens (parens ()) ⟨c, g⟩
    rw [← around, stopped] at later
    have same : t = ⟨c, g⟩ := Parser.eq_of_atomic_stop (around_eq ▸ stopped) later
    rw [run_of_tooDeep parens stopped, same]
  next enough =>
    exact run_of_ok parens (read.ok_of_le (s := ⟨c, g⟩) ahead (Nat.not_lt.mp enough))

/-- Where more brackets are opened than levels are left, the run stops at the limit and leaves
the cursor and the nesting as they were.  Otherwise it counts the brackets that are opened if
all of them are closed, and it reads nothing if not. -/
theorem run_parens (c : Cursor) (g : Nesting) :
    (parens ()).run parens ⟨c, g⟩ =
      if g.budget < opened c.rest then .stop (.tooDeep g.limit) ⟨c, g⟩
      else if opened c.rest ≤ closed c.rest then
        .ok (opened c.rest : Int) ⟨c.advance (2 * opened c.rest), g⟩
      else .ok 0 ⟨c, g⟩ := by
  obtain ⟨tail, split, other, missing⟩ := exists_tail c.rest
  rcases Nat.lt_or_ge (closed c.rest) (opened c.rest) with few | enough
  · have read := reads_unmatched few other missing
    rw [run_of_reads read split g, if_neg (Nat.not_le.mpr few), List.length_nil,
      Cursor.advance_zero]
  · obtain ⟨more, closing⟩ := Nat.exists_eq_add_of_le enough
    have follow : opened c.rest = 0 →
        (List.replicate more ')' ++ tail).head? ≠ some '(' := by
      intro none
      rwa [closing, none, Nat.zero_add] at other
    have read := reads_matched (opened c.rest) follow
    rw [closing, ← List.replicate_append_replicate, List.append_assoc, ← List.append_assoc] at split
    rw [run_of_reads read split g, if_pos enough]
    simp [Nat.two_mul]

end Grammar

end Descent
