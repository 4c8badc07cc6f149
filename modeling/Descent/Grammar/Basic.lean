import Descent.Conversion
import Descent.Error.Constructed
import Descent.Literal
import Descent.Parser.Repetition

/-!
# Grammars

A grammar says what a parser does, as data: putting grammars together runs
nothing.  Recursion goes through *rules*, a family of grammars with an index type
`ι` in which the rule `i` has values of type `τ i`.  A grammar refers to a rule by
`rule i`, and so may a rule to itself or to another one.

Every grammar has a name, made of the names of its parts.  Names show in records
of the log.  `named` gives a grammar another name.
-/

namespace Descent

open Descent.Parser (SequenceOptions ScanOptions)

/-- A grammar for values of a type, over rules with values of types `τ`. -/
inductive Grammar {ι : Type} (τ : ι → Type) : Type → Type 1 where
  /-- Gives a value.  The label is its name. -/
  | pure {α : Type} (label : String) (v : α) : Grammar τ α
  /-- Fails. -/
  | fail {α : Type} (e : ParseError) : Grammar τ α
  /-- Stops.  This is how a builder ends that has no grammar to give. -/
  | raise {α : Type} (e : Stop) : Grammar τ α
  /-- A literal. -/
  | token (text : String) : Grammar τ String
  /-- One character of a class. -/
  | satisfy (p : Char → Bool) : Grammar τ Char
  /-- The longest run of characters of a class. -/
  | satisfyRun (p : Char → Bool) (allowEmpty : Bool := false) : Grammar τ String
  /-- The longest run of blanks. -/
  | blanks (allowEmpty : Bool := false) : Grammar τ String
  /-- An integer. -/
  | number : Grammar τ Int
  /-- A number in the notation of a locale, with the conversion for it. -/
  | decimal (locale : String) (symbols : NumberSymbols) (convert : Conversion) : Grammar τ Decimal
  /-- The characters up to a terminator. -/
  | upTo {α : Type} (terminator : Grammar τ α) (o : ScanOptions := {}) : Grammar τ String
  /-- Changes the value by a function that may stop the run. -/
  | map {α β : Type} (p : Grammar τ α) (f : α → Except Stop β) : Grammar τ β
  /-- Goes on with a grammar built from the value. -/
  | bind {α β : Type} (p : Grammar τ α) (f : α → Grammar τ β) : Grammar τ β
  /-- Tries a second grammar where the first one failed. -/
  | orElse {α : Type} (p q : Grammar τ α) : Grammar τ α
  /-- Two grammars, keeping the second value. -/
  | keepRight {α β : Type} (p : Grammar τ α) (q : Grammar τ β) : Grammar τ β
  /-- Two grammars, keeping the first value. -/
  | keepLeft {α β : Type} (p : Grammar τ α) (q : Grammar τ β) : Grammar τ α
  /-- All or nothing. -/
  | atomic {α : Type} (p : Grammar τ α) : Grammar τ α
  /-- The value, with nothing read. -/
  | lookAhead {α : Type} (p : Grammar τ α) : Grammar τ α
  /-- A value in place of a stop, with nothing read. -/
  | optional {α : Type} (p : Grammar τ α) (fallback : α) : Grammar τ α
  /-- What a grammar reads, also when it stops. -/
  | discard {α : Type} (p : Grammar τ α) : Grammar τ Unit
  /-- Elements with separators between. -/
  | separated {α β : Type} (p : Grammar τ α) (separator : Grammar τ β)
      (o : SequenceOptions := {}) : Grammar τ (List α)
  /-- Elements one after the other. -/
  | many {α : Type} (p : Grammar τ α) (allowEmpty : Bool := true) : Grammar τ (List α)
  /-- Names the region in which a failure happened. -/
  | context {α : Type} (p : Grammar τ α) (label : String) : Grammar τ α
  /-- Fails where input is left. -/
  | complete {α : Type} (p : Grammar τ α) : Grammar τ α
  /-- Of the failures of two branches, keeps the first. -/
  | firstError {α : Type} (p : Grammar τ α) : Grammar τ α
  /-- Of the failures of two branches, keeps the second. -/
  | secondError {α : Type} (p : Grammar τ α) : Grammar τ α
  /-- Two or more branches. -/
  | choice {α : Type} {n : Nat} (branches : Fin (n + 2) → Grammar τ α) : Grammar τ α
  /-- Grammars one after the other, each staying where it stopped. -/
  | chain {α : Type} {n : Nat} (parts : Fin n → Grammar τ α) : Grammar τ (List α)
  /-- The rule with this index. -/
  | rule (i : ι) (label : String := "lazy") : Grammar τ (τ i)
  /-- The same grammar under another name. -/
  | named {α : Type} (p : Grammar τ α) (label : String) : Grammar τ α

namespace Grammar

variable {ι : Type} {τ : ι → Type} {α β : Type}

/-! ## Names -/

/-- The name of a grammar. -/
def name {α : Type} : Grammar τ α → String
  | pure label _ => label
  | fail e => "fail(" ++ e.constructed ++ ")"
  | raise _ => "raise"
  | token text => "token(" ++ Text.quoted text ++ ")"
  | satisfy _ => "character_where"
  | satisfyRun _ _ => "characters_where"
  | blanks _ => "whitespace"
  | number => "number"
  | decimal locale _ _ => "decimal(" ++ Text.quoted locale ++ ")"
  | upTo terminator _ => "until(" ++ terminator.name ++ ")"
  | map p _ => p.name ++ ".map"
  | bind p _ => p.name ++ ".bind"
  | orElse p q => "(" ++ p.name ++ " | " ++ q.name ++ ")"
  | keepRight p q => "(" ++ p.name ++ " >> " ++ q.name ++ ")"
  | keepLeft p q => "(" ++ p.name ++ " << " ++ q.name ++ ")"
  | atomic p => p.name
  | lookAhead p => p.name ++ ".ahead"
  | optional p _ => p.name ++ ".optional"
  | discard p => p.name ++ ".discard"
  | separated p _ _ => p.name ++ ".sequence"
  | many p _ => p.name ++ ".many"
  | context p _ => p.name
  | complete p => p.name ++ ".complete"
  | firstError p => p.name
  | secondError p => p.name
  | choice branches => "choice(" ++ " | ".intercalate (List.ofFn fun i => (branches i).name) ++ ")"
  | chain _ => "chain"
  | rule _ label => label
  | named _ label => label

/-- The literal of a grammar. -/
def literalForm (p : Grammar τ α) : String := "Parser(" ++ Text.quoted p.name ++ ")"

/-! ## Values -/

instance : Inhabited (Grammar τ α) := ⟨fail .whitespace⟩

/-- Gives a value and is named for it. -/
def succeed [Literal α] (v : α) : Grammar τ α := pure ("succeed(" ++ literal v ++ ")") v

/-- Changes the value and keeps the name. -/
instance : Functor (Grammar τ) where
  map f p := (p.map fun v => .ok (f v)).named p.name

end Grammar

end Descent
