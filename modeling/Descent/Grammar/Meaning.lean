import Descent.Grammar.Basic
import Descent.Parser.Terminal

/-!
# What grammars mean

The meaning of a grammar is a parser, given parsers for the rules.  A rule means
its grammar, one level of nesting deeper.

Rules may refer to each other in a circle, so their meaning is unrolled level by
level.  A run unrolls one level more than its nesting can still enter.  So it is
the nesting that refuses entry to a rule, and no run comes to the end of the levels.
-/

namespace Descent.Grammar

variable {ι : Type} {τ : ι → Type} {α : Type}

/-! ## One grammar -/

/-- The parser of a grammar over parsers for the rules. -/
def meaning (env : (i : ι) → Parser (τ i)) {α : Type} : Grammar τ α → Parser α
  | pure _ v => Parser.succeed v
  | fail e => Parser.fail e
  | raise e => Parser.raise e
  | token text => Parser.token text
  | satisfy p => Parser.satisfy p
  | satisfyRun p allowEmpty => Parser.span p allowEmpty .satisfying
  | blanks allowEmpty => Parser.span Text.isBlank allowEmpty .whitespace
  | number => Parser.number
  | decimal locale symbols convert => Parser.decimal locale symbols convert
  | upTo terminator o => (terminator.meaning env).upTo o
  | map p f => (p.meaning env).mapOrStop f
  | bind p f => (p.meaning env).bind fun v => (f v).meaning env
  | orElse p q => (p.meaning env).orElse (q.meaning env)
  | keepRight p q => (p.meaning env).keepRight (q.meaning env)
  | keepLeft p q => (p.meaning env).keepLeft (q.meaning env)
  | atomic p => (p.meaning env).atomic
  | lookAhead p => (p.meaning env).lookAhead
  | optional p fallback => (p.meaning env).optional p.name fallback
  | discard p => (p.meaning env).discard p.name
  | separated p separator o => (p.meaning env).sequence p.name o (separator.meaning env)
  | many p allowEmpty => (p.meaning env).many p.name allowEmpty
  | context p label => (p.meaning env).context label
  | complete p => (p.meaning env).complete
  | firstError p => (p.meaning env).firstError
  | secondError p => (p.meaning env).secondError
  | choice branches =>
      ((branches 0).meaning env).choice (List.ofFn fun i => (branches i.succ).meaning env)
  | chain parts => Parser.chain (List.ofFn fun i => (parts i).meaning env)
  | rule i _ => env i
  | named p _ => p.meaning env

/-! ## Rules -/

/-- The parsers of the rules, unrolled to so many levels. -/
def unroll (rules : (i : ι) → Grammar τ (τ i)) : (levels : Nat) → (i : ι) → Parser (τ i)
  | 0, _ => Parser.tooDeep
  | levels + 1, i => ((rules i).meaning (unroll rules levels)).nested

/-- The parser of a grammar over rules. -/
def parser (rules : (i : ι) → Grammar τ (τ i)) (p : Grammar τ α) : Parser α := fun s =>
  p.meaning (unroll rules (s.nesting.budget + 1)) s

/-! ## Whole runs -/

/-- Runs a grammar and notes where it failed. -/
def run (rules : (i : ι) → Grammar τ (τ i)) (p : Grammar τ α) : Parser α := fun s =>
  (p.parser rules s).resume fun
    | .error (.failure e), s' =>
        (Run.stop (.failure e) s').after (.failed p.name s'.cursor.pos e.code)
    | .error e, s' => .stop e s'
    | .ok v, s' => .ok v s'

/-- Runs a grammar on a whole text, with the default nesting limit. -/
def runText (rules : (i : ι) → Grammar τ (τ i)) (p : Grammar τ α) (text : String)
    (stack : Int) : Run α :=
  p.run rules (.start text Nesting.defaultLimit stack)

end Descent.Grammar
