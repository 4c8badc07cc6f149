import Descent.Grammar.Meaning
import Descent.Grammar.Standard

/-!
# Types that know their grammar

A type with a canonical grammar is parsed without naming the grammar.  The
grammar may stand in any other, whatever the rules are.  Points and
lengths are two such types.
-/

namespace Descent

/-- Types with a canonical grammar. -/
class HasGrammar (α : Type) : Type 1 where
  /-- The grammar. -/
  grammar {ι : Type} {τ : ι → Type} : Grammar τ α

/-- Runs the canonical grammar of a type. -/
def HasGrammar.run (α : Type) [HasGrammar α] : Parser α :=
  (HasGrammar.grammar : Grammar (ι := Empty) nofun α).run nofun

/-! ## Points -/

/-- A point of the plane. -/
structure Point where
  /-- The first coordinate. -/
  x : Int
  /-- The second coordinate. -/
  y : Int
  deriving DecidableEq

instance : HasGrammar Point where
  grammar :=
    ((Grammar.number.keepLeft (.token ",")).bind fun x =>
      (Point.mk x ·) <$> Grammar.number).named "point"

/-! ## Lengths -/

/-- A unit of length. -/
inductive LengthUnit where
  | px
  | em
  deriving DecidableEq

namespace LengthUnit

/-- The units as constants. -/
def enumeration : Enumeration := ⟨"Unit", [("PX", .text "px"), ("EM", .text "em")]⟩

/-- The constant of a unit. -/
def member : LengthUnit → Member
  | px => ⟨"Unit", "PX", .text "px"⟩
  | em => ⟨"Unit", "EM", .text "em"⟩

end LengthUnit

/-- A number of units. -/
structure Length where
  /-- How many. -/
  value : Int
  /-- Of what. -/
  unit : LengthUnit
  deriving DecidableEq

instance : HasGrammar Length where
  grammar :=
    Grammar.number.bind fun value =>
      (Length.mk value ·) <$> Grammar.firstLiteral [("px", .px), ("em", .em)]

end Descent
