import Descent.Text.Quoted

/-!
# How places write numbers

A locale fixes the character between groups of digits, the character before the
decimals and the sign of negative numbers.  The data may be absent: an absent
table answers every question with the name of the feature that asked.
-/

namespace Descent

/-! ## Symbols -/

/-- The characters a locale writes in numbers. -/
structure NumberSymbols where
  /-- Stands between groups of digits. -/
  group : Char
  /-- Stands before the decimals. -/
  point : Char
  /-- Stands before a negative number. -/
  minus : String
  deriving DecidableEq

/-- The symbols of the locales, by code. -/
abbrev LocaleTable := List (String × NumberSymbols)

/-- The symbols of the common locale data. -/
def LocaleTable.common : LocaleTable := [
    ("en_US", ⟨',', '.', "-"⟩),
    ("de_DE", ⟨'.', ',', "-"⟩),
    ("pt_BR", ⟨'.', ',', "-"⟩),
    ("sl", ⟨'.', ',', "\u2212"⟩),
    ("de_CH", ⟨'\u2019', '.', "-"⟩),
    ("rm", ⟨'\u2019', '.', "\u2212"⟩),
    ("fr_FR", ⟨'\u202f', ',', "-"⟩),
    ("lv_LV", ⟨'\u00a0', ',', "-"⟩),
    ("en_ZA", ⟨'\u00a0', ',', "-"⟩),
    ("sv_SE", ⟨'\u00a0', ',', "\u2212"⟩),
    ("ar_EG", ⟨',', '.', "\u200e-"⟩),
    ("he_IL", ⟨',', '.', "\u200e-"⟩),
    ("fa_IR", ⟨',', '.', "\u200e\u2212"⟩)
  ]

/-! ## Questions to the table -/

/-- Why there are no symbols. -/
inductive LocaleError where
  /-- There is no table, and this feature needs one. -/
  | missingData (feature : String)
  /-- The table has no locale of this code. -/
  | unknown (code : String)
  deriving DecidableEq

/-- The text of the error. -/
def LocaleError.message : LocaleError → String
  | missingData feature =>
      feature ++
        " requires Babel for CLDR locale data. Install with: pip install parsewright[babel]"
  | unknown code => "Unknown locale: " ++ Text.quoted code

namespace Locale

/-- The code with underscores for hyphens. -/
def canonical (code : String) : String :=
  String.ofList (code.toList.map fun c => if c = '-' then '_' else c)

/-- The table, which `feature` cannot do without. -/
def tableFor (table : Option LocaleTable) (feature : String) : Except LocaleError LocaleTable :=
  match table with
  | some table => .ok table
  | none => .error (.missingData feature)

/-- The symbols of a locale, asked for by `feature`. -/
def symbols? (table : Option LocaleTable) (feature code : String) :
    Except LocaleError NumberSymbols :=
  match tableFor table feature with
  | .error e => .error e
  | .ok table =>
      match table.lookup (canonical code) with
      | some symbols => .ok symbols
      | none => .error (.unknown code)

end Locale

end Descent
