/-!
# Nesting

A nesting counts how many rules a run is inside of, and refuses to go deeper than
its limit.  The limit is checked before the count changes, so a refused entry
leaves the nesting as it was.  Entering and leaving need not be paired by a
caller, so the count may go below zero.

A requested limit is clamped to what the stack allows.
-/

namespace Descent

/-- A limit of nesting and the nesting reached. -/
structure Nesting where
  /-- The deepest nesting allowed. -/
  limit : Int
  /-- The rules entered and not yet left. -/
  depth : Int := 0
  deriving DecidableEq

namespace Nesting

/-! ## Limits -/

/-- The limit of a run that asks for none. -/
def defaultLimit : Int := 100

/-- Stack frames kept free when a limit is clamped. -/
def reservedFrames : Int := 50

/-- The deepest nesting for a stack of `stack` frames of which `reserve` stay free. -/
def clamp (requested : Int) (reserve stack : Int) : Int := min requested (stack - reserve)

/-- The nesting of a new run, its limit clamped. -/
def ofRequest (requested stack : Int) : Nesting := ⟨clamp requested reservedFrames stack, 0⟩

/-! ## Entering and leaving -/

/-- One level deeper, unless the limit is reached. -/
def enter? (g : Nesting) : Option Nesting :=
  if g.limit ≤ g.depth then none else some ⟨g.limit, g.depth + 1⟩

/-- One level up. -/
def leave (g : Nesting) : Nesting := ⟨g.limit, g.depth - 1⟩

/-- How many levels may still be entered. -/
def budget (g : Nesting) : Nat := (g.limit - g.depth).toNat

/-! ## How they fit together -/

@[simp] theorem leave_of_enter? {g h : Nesting} (entered : g.enter? = some h) :
    h.leave = g := by
  unfold enter? at entered
  split at entered
  · cases entered
  · cases entered
    simp [leave]

/-- Entry is refused exactly when no level is left. -/
theorem enter?_eq_none_iff (g : Nesting) : g.enter? = none ↔ g.budget = 0 := by
  unfold enter? budget
  split <;> simp <;> omega

/-- An entry uses up one level. -/
theorem budget_of_enter? {g h : Nesting} (entered : g.enter? = some h) :
    g.budget = h.budget + 1 := by
  unfold enter? at entered
  split at entered
  · cases entered
  · cases entered
    simp only [budget]
    omega

end Nesting

end Descent
