import Descent.Text.Quoted

/-!
# Literals of values

A value that is shown in the name of a grammar is written as a literal: texts in
quotes, lists in brackets, and constants by name.
-/

namespace Descent

/-- Types whose values are written as literals. -/
class Literal (α : Type) where
  /-- The literal of a value. -/
  literal : α → String

export Literal (literal)

instance : Literal String := ⟨Text.quoted⟩

instance : Literal Int := ⟨toString⟩

instance : Literal Nat := ⟨toString⟩

instance : Literal Bool := ⟨fun b => if b then "True" else "False"⟩

instance : Literal Unit := ⟨fun _ => "None"⟩

instance {α : Type} [Literal α] : Literal (List α) :=
  ⟨fun vs => "[" ++ ", ".intercalate (vs.map literal) ++ "]"⟩

end Descent
