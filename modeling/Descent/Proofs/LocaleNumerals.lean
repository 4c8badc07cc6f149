import Mathlib.Data.List.DropRight
import Descent.Proofs.Integers

/-!
# Numbers as a locale writes them

A numeral of a locale is a sign or none and a body.  The sign is that of the locale, which may be
several characters, or else a hyphen.  The body is the run of digits, group symbols and decimal
symbols behind the sign, less the symbols at its end (`NumeralAhead`).  It is read if it begins
with a digit and has at most one decimal symbol (`NumberSymbols.Accepts`).

What is converted is another text: the body, with a hyphen before it if there is a sign.  A
conversion that follows the symbols (`Conversion.Follows`) deletes the group symbols there, puts a
point for each decimal symbol, and takes or refuses the plain number that is left.  Group symbols
may stand anywhere in the body, also behind the decimal symbol.  So the value is that of the digits
alone, and the digits behind the decimal symbol are the places of the exponent
(`ofUnsigned?_plain`).

The hyphen before the body must come through the conversion, and it does not if it is a symbol
itself: as a group symbol it is deleted, and the sign is lost.  Symbols without the hyphen are
`HyphenFree`, as those of the common locale data are.  Where there is no sign it makes no
difference (`ofPlain?_candidate`).

The cursor moves over the sign and the body as they stand, group symbols and all, and comes to rest
behind a digit (`exists_decimal`).
-/

namespace Descent

namespace NumberSymbols

/-- The symbols of a locale can be told from each other and from digits. -/
structure Distinct (symbols : NumberSymbols) : Prop where
  group_ne_point : symbols.group ≠ symbols.point
  group_not_mem : symbols.group ∉ Text.digits
  point_not_mem : symbols.point ∉ Text.digits

instance (symbols : NumberSymbols) : Decidable symbols.Distinct :=
  decidable_of_iff (symbols.group ≠ symbols.point ∧ symbols.group ∉ Text.digits ∧
      symbols.point ∉ Text.digits)
    ⟨fun ⟨h₁, h₂, h₃⟩ => ⟨h₁, h₂, h₃⟩, fun ⟨h₁, h₂, h₃⟩ => ⟨h₁, h₂, h₃⟩⟩

/-- The symbols of the common locale data can be told apart. -/
theorem distinct_common : ∀ entry ∈ LocaleTable.common, entry.2.Distinct := by decide

/-- The hyphen, which stands for the sign where a numeral is converted, is not one of the symbols
in the body. -/
structure HyphenFree (symbols : NumberSymbols) : Prop where
  group_ne : symbols.group ≠ '-'
  point_ne : symbols.point ≠ '-'

/-- The symbols of the common locale data are without it. -/
theorem hyphenFree_common : ∀ entry ∈ LocaleTable.common, entry.2.HyphenFree := by
  have other : ∀ entry ∈ LocaleTable.common, entry.2.group ≠ '-' ∧ entry.2.point ≠ '-' := by
    decide
  exact fun entry known => ⟨(other entry known).1, (other entry known).2⟩

variable (symbols : NumberSymbols)

/-- The sign at the front of a text: that of the locale, or else a hyphen, or else nothing. -/
def signAhead (text : List Char) : List Char :=
  if symbols.minus.toList <+: text then symbols.minus.toList
  else if ['-'] <+: text then ['-']
  else []

/-- A group symbol or a decimal symbol. -/
def isSeparator (c : Char) : Bool := c = symbols.group ∨ c = symbols.point

/-- What a body is made of. -/
def isNumeric (c : Char) : Bool := c ∈ Text.digits ∨ symbols.isSeparator c

/-- The text is digits and symbols, with a hyphen before them or not. -/
def IsNumeral (text : List Char) : Prop :=
  ∃ sign body, text = sign ++ body ∧ (sign = [] ∨ sign = ['-']) ∧
    ∀ c ∈ body, symbols.isNumeric c = true

/-- Behind the sign there is a digit, and the plain text of what is converted is this number. -/
def Denotes (unsigned sign body : List Char) (v : Decimal) : Prop :=
  (∃ c ∈ unsigned.head?, c ∈ Text.digits) ∧
    Decimal.ofPlain? (symbols.plain (Parser.candidate (sign ≠ []) body).toList) = some v

/-- Behind the sign there is a digit, and the body there has at most one decimal symbol. -/
def Accepts (unsigned body : List Char) : Prop :=
  (∃ c ∈ unsigned.head?, c ∈ Text.digits) ∧ body.count symbols.point ≤ 1

/-- The number that a sign and a body denote.  Its coefficient has all digits of the body, and
its exponent counts those behind the decimal symbol. -/
def value (sign body : List Char) : Decimal :=
  ⟨sign ≠ [], Text.denoted (body.filter (· ∈ Text.digits)),
    -((body.dropWhile (· != symbols.point)).countP (· ∈ Text.digits) : Int)⟩

end NumberSymbols

/-- For digits and symbols, with a hyphen before them or not, the conversion gives the number that
their plain text is.  Where this is no number, it says that the numeral is not well formed. -/
structure Conversion.Follows (convert : Conversion) (symbols : NumberSymbols) : Prop where
  value : ∀ {numeral : String} {v : Decimal}, symbols.IsNumeral numeral.toList →
    Decimal.ofPlain? (symbols.plain numeral.toList) = some v → convert numeral = .ok v
  malformed : ∀ {numeral : String}, symbols.IsNumeral numeral.toList →
    Decimal.ofPlain? (symbols.plain numeral.toList) = none →
    ∃ message, convert numeral = .error (.reported .numberFormat message)

theorem NumberSymbols.follows_convert (symbols : NumberSymbols) :
    symbols.convert.Follows symbols := by
  constructor
  · intro numeral v _ plain
    rw [convert, plain]
  · intro numeral _ plain
    refine ⟨Text.quoted numeral ++ " is not a valid decimal number", ?_⟩
    rw [convert, plain]

/-- A text is cut into the sign at its front, the body behind it, the symbols at the end of the
body, and the rest.  The body and the symbols are the whole run of digits and symbols. -/
structure NumeralAhead (symbols : NumberSymbols) (text sign body trail rest : List Char) :
    Prop where
  signed : sign = symbols.signAhead text
  split : text = sign ++ (body ++ (trail ++ rest))
  /-- The body is made of digits and symbols. -/
  numeric : ∀ c ∈ body, symbols.isNumeric c = true
  /-- It does not end with a symbol. -/
  ends : ∀ c ∈ body.getLast?, symbols.isSeparator c = false
  /-- There are only symbols behind it. -/
  separators : ∀ c ∈ trail, symbols.isSeparator c = true
  /-- They end the run. -/
  stop : ∀ c ∈ rest.head?, symbols.isNumeric c = false

open Descent.Parser (candidate numeralBody)

variable {symbols : NumberSymbols} {text sign body trail rest : List Char}

/-! ## Signs and bodies -/

theorem signAhead_prefix (symbols : NumberSymbols) (text : List Char) :
    symbols.signAhead text <+: text := by
  unfold NumberSymbols.signAhead
  split
  next locale => exact locale
  next =>
    split
    next hyphen => exact hyphen
    next => exact List.nil_prefix

/-- Every text can be cut in this way. -/
theorem exists_numeralAhead (symbols : NumberSymbols) (text : List Char) :
    ∃ sign body trail rest, NumeralAhead symbols text sign body trail rest := by
  obtain ⟨unsigned, signed⟩ := signAhead_prefix symbols text
  let run := unsigned.takeWhile symbols.isNumeric
  have cut : run.rdropWhile symbols.isSeparator ++ run.rtakeWhile symbols.isSeparator = run :=
    List.rdropWhile_append_rtakeWhile ..
  refine ⟨symbols.signAhead text, run.rdropWhile symbols.isSeparator,
    run.rtakeWhile symbols.isSeparator, unsigned.dropWhile symbols.isNumeric, rfl, ?_,
    fun c hc => ?_, fun c hc => ?_, fun c hc => ?_, Parser.mem_head?_dropWhile⟩
  · rw [← List.append_assoc (List.rdropWhile ..), cut, List.takeWhile_append_dropWhile, signed]
  · have front := List.rdropWhile_prefix symbols.isSeparator run
    exact List.mem_takeWhile_imp (front.mem hc)
  · have ne_nil : run.rdropWhile symbols.isSeparator ≠ [] := by
      rintro nil
      simp [nil] at hc
    rw [List.getLast?_eq_some_getLast ne_nil] at hc
    cases hc
    simpa using List.rdropWhile_last_not _ run ne_nil
  · exact List.mem_rtakeWhile_imp hc

namespace NumeralAhead

theorem drop_sign (h : NumeralAhead symbols text sign body trail rest) :
    text.drop sign.length = body ++ (trail ++ rest) := by
  rw [h.split, List.drop_left]

/-- The body is what `decimal` cuts off. -/
theorem numeralBody_eq (h : NumeralAhead symbols text sign body trail rest) :
    numeralBody symbols (text.drop sign.length) = body := by
  have isNumeric : (fun c : Char => decide (c.isDigit = true ∨ c = symbols.group ∨
      c = symbols.point)) = symbols.isNumeric := by
    funext c
    simp [NumberSymbols.isNumeric, NumberSymbols.isSeparator, Text.mem_digits_iff]
  have run : (text.drop sign.length).takeWhile symbols.isNumeric = body ++ trail := by
    rw [h.drop_sign, ← List.append_assoc]
    refine Parser.takeWhile_append (fun c hc => ?_) h.stop
    obtain inBody | behind := List.mem_append.mp hc
    · exact h.numeric c inBody
    · simp [NumberSymbols.isNumeric, h.separators c behind]
  have ends : body.rdropWhile symbols.isSeparator = body := by
    refine List.rdropWhile_eq_self_iff.mpr fun ne_nil => ?_
    simp [h.ends _ (List.getLast?_eq_some_getLast ne_nil)]
  calc numeralBody symbols (text.drop sign.length)
      = (body ++ trail).rdropWhile symbols.isSeparator := by
        rw [numeralBody, isNumeric, run]
        rfl
    _ = body.rdropWhile symbols.isSeparator := by
        rw [List.rdropWhile, List.reverse_append, List.dropWhile_append_of_pos fun c hc =>
          h.separators c (List.mem_reverse.mp hc)]
        rfl
    _ = body := ends

/-- What is handed to the conversion is a numeral. -/
theorem isNumeral_candidate (h : NumeralAhead symbols text sign body trail rest) :
    symbols.IsNumeral (candidate (sign ≠ []) body).toList := by
  rw [candidate, String.toList_ofList]
  by_cases none : sign = []
  · exact ⟨[], body, by simp [none], .inl rfl, h.numeric⟩
  · exact ⟨['-'], body, by simp [none], .inr rfl, h.numeric⟩

section Digit

variable (distinct : symbols.Distinct) (h : NumeralAhead symbols text sign body trail rest)
  (digit : ∃ c ∈ (text.drop sign.length).head?, c ∈ Text.digits)
include distinct h digit

/-- Where a digit is behind the sign, there is a body. -/
theorem body_ne_nil : body ≠ [] := by
  obtain ⟨first, isFirst, digit⟩ := digit
  rw [h.drop_sign] at isFirst
  rintro rfl
  cases trail with
  | nil =>
      have other := h.stop first isFirst
      simp [NumberSymbols.isNumeric, digit] at other
  | cons x trail =>
      cases isFirst
      have symbol := h.separators first (.head _)
      simp only [NumberSymbols.isSeparator, decide_eq_true_eq] at symbol
      obtain rfl | rfl := symbol
      · exact distinct.group_not_mem digit
      · exact distinct.point_not_mem digit

/-- It begins with that digit. -/
theorem exists_first : ∃ c ∈ body.head?, c ∈ Text.digits := by
  have ne_nil := h.body_ne_nil distinct digit
  rwa [h.drop_sign, List.head?_append_of_ne_nil _ ne_nil] at digit

/-- It ends with a digit as well. -/
theorem exists_last : ∃ c ∈ body.getLast?, c ∈ Text.digits := by
  have ne_nil := h.body_ne_nil distinct digit
  have last := List.getLast?_eq_some_getLast ne_nil
  have numeric := h.numeric _ (List.getLast_mem ne_nil)
  have noSymbol := h.ends _ last
  simp only [NumberSymbols.isNumeric, noSymbol, decide_eq_true_eq, Bool.false_eq_true,
    or_false] at numeric
  exact ⟨_, last, numeric⟩

end Digit

end NumeralAhead

/-! ## Plain numbers -/

namespace Decimal

variable (negative : Bool) {whole : List Char} (digits : ∀ c ∈ whole, c.isDigit = true)
  (ne_nil : whole ≠ [])
include digits ne_nil

theorem any_isDigit_append (text : List Char) : (whole ++ text).any Char.isDigit = true := by
  obtain ⟨c, cs, rfl⟩ := List.exists_cons_of_ne_nil ne_nil
  simp [digits c (.head _)]

theorem ofUnsigned?_of_digits :
    ofUnsigned? negative whole = some (.ofDigits negative whole []) := by
  have any := any_isDigit_append digits ne_nil []
  rw [List.append_nil] at any
  rw [ofUnsigned?, if_pos any, List.dropWhile_eq_nil_iff.mpr digits]

theorem ofUnsigned?_of_point (fraction : List Char) :
    ofUnsigned? negative (whole ++ '.' :: fraction) =
      if fraction.all Char.isDigit then some (.ofDigits negative whole fraction) else none := by
  have stop : ∀ c ∈ ('.' :: fraction).head?, c.isDigit = false := by
    rintro c ⟨⟩
    rfl
  rw [ofUnsigned?, if_pos (any_isDigit_append digits ne_nil _), Parser.dropWhile_append digits stop,
    Parser.takeWhile_append digits stop]
  simp only [true_and]

end Decimal

/-! ## Plain texts -/

theorem bne_of_not_mem {x : Char} {cs : List Char} (none : x ∉ cs) :
    ∀ c ∈ cs, (c != x) = true :=
  fun _ hc => bne_iff_ne.mpr (ne_of_mem_of_not_mem hc none)

theorem isNumeric_iff {c : Char} : symbols.isNumeric c = true ↔
    c ∈ Text.digits ∨ c = symbols.group ∨ c = symbols.point := by
  simp [NumberSymbols.isNumeric, NumberSymbols.isSeparator]

theorem mem_digits_of_mem_filter {c : Char} {cs : List Char}
    (h : c ∈ cs.filter (· ∈ Text.digits)) : c ∈ Text.digits := by
  simpa using List.of_mem_filter h

theorem isDigit_of_mem_filter (cs : List Char) :
    ∀ c ∈ cs.filter (· ∈ Text.digits), c.isDigit = true :=
  fun _ hc => Text.mem_digits_iff.mp (mem_digits_of_mem_filter hc)

theorem filter_digits_ne_nil {cs : List Char} (begins : ∃ c ∈ cs.head?, c ∈ Text.digits) :
    cs.filter (· ∈ Text.digits) ≠ [] := by
  obtain ⟨c, isFirst, digit⟩ := begins
  obtain ⟨rest, rfl⟩ := List.head?_eq_some_iff.mp isFirst
  simp [digit]

/-- The digits before and behind the point make a number with all of them. -/
theorem ofDigits_filter (negative : Bool) (front back : List Char) :
    Decimal.ofDigits negative (front.filter (· ∈ Text.digits)) (back.filter (· ∈ Text.digits)) =
      ⟨negative, Text.denoted ((front ++ back).filter (· ∈ Text.digits)),
        -(back.countP (· ∈ Text.digits) : Int)⟩ := by
  have digit : ∀ c ∈ (front ++ back).filter (· ∈ Text.digits), c ∈ Text.digits :=
    fun c => mem_digits_of_mem_filter
  rw [Decimal.ofDigits, ← List.filter_append, Text.ofDigitChars_eq_denoted digit,
    List.countP_eq_length_filter]

theorem ofDigits_filter_nil (negative : Bool) (front : List Char) :
    Decimal.ofDigits negative (front.filter (· ∈ Text.digits)) [] =
      ⟨negative, Text.denoted (front.filter (· ∈ Text.digits)), 0⟩ := by
  simpa using ofDigits_filter negative front []

section Plain

variable (distinct : symbols.Distinct)
include distinct

/-- Without a decimal symbol, what is left besides group symbols are the digits. -/
theorem filter_ne_group {cs : List Char} (numeric : ∀ c ∈ cs, symbols.isNumeric c = true)
    (none : symbols.point ∉ cs) :
    cs.filter (· != symbols.group) = cs.filter (· ∈ Text.digits) := by
  refine List.filter_congr fun c hc => ?_
  obtain digit | rfl | rfl := isNumeric_iff.mp (numeric c hc)
  · have other : c ≠ symbols.group := by
      rintro rfl
      exact distinct.group_not_mem digit
    simp [digit, other]
  · simp [distinct.group_not_mem]
  · exact absurd hc none

theorem plain_of_not_mem {cs : List Char} (numeric : ∀ c ∈ cs, symbols.isNumeric c = true)
    (none : symbols.point ∉ cs) : symbols.plain cs = cs.filter (· ∈ Text.digits) := by
  rw [NumberSymbols.plain, filter_ne_group distinct numeric none]
  refine (List.map_congr_left fun c hc => ?_).trans (List.map_id _)
  have other : c ≠ symbols.point := ne_of_mem_of_not_mem (List.mem_of_mem_filter hc) none
  exact if_neg other

/-- The first decimal symbol parts the digits. -/
theorem plain_of_cut {front back : List Char}
    (numeric : ∀ c ∈ front ++ symbols.point :: back, symbols.isNumeric c = true)
    (first : symbols.point ∉ front) :
    symbols.plain (front ++ symbols.point :: back) =
      front.filter (· ∈ Text.digits) ++ '.' :: symbols.plain back := by
  have inFront := plain_of_not_mem distinct
    (fun c hc => numeric c (List.mem_append_left _ hc)) first
  rw [← inFront]
  simp [NumberSymbols.plain, distinct.group_ne_point.symm]

/-- The plain text has a point for each decimal symbol. -/
theorem point_mem_plain {cs : List Char} (found : symbols.point ∈ cs) :
    '.' ∈ symbols.plain cs := by
  refine List.mem_map.mpr ⟨symbols.point, List.mem_filter.mpr ⟨found, ?_⟩, if_pos rfl⟩
  exact bne_iff_ne.mpr distinct.group_ne_point.symm

/-- Digits are left as they are. -/
theorem plain_cons_of_mem {c : Char} (digit : c ∈ Text.digits) (cs : List Char) :
    symbols.plain (c :: cs) = c :: symbols.plain cs := by
  have group : c ≠ symbols.group := ne_of_mem_of_not_mem digit distinct.group_not_mem
  have point : c ≠ symbols.point := ne_of_mem_of_not_mem digit distinct.point_not_mem
  simp [NumberSymbols.plain, group, point]

/-- A text that begins with a digit has it before the first decimal symbol. -/
theorem begins_of_cut {front back : List Char}
    (begins : ∃ c ∈ (front ++ symbols.point :: back).head?, c ∈ Text.digits) :
    ∃ c ∈ front.head?, c ∈ Text.digits := by
  obtain ⟨c, isFirst, digit⟩ := begins
  cases front with
  | nil =>
      cases isFirst
      exact absurd digit distinct.point_not_mem
  | cons x front => exact ⟨c, isFirst, digit⟩

/-- The plain text of a body is a number if the body has at most one decimal symbol, and group
symbols do not count. -/
theorem ofUnsigned?_plain (sign : List Char) (numeric : ∀ c ∈ body, symbols.isNumeric c = true)
    (begins : ∃ c ∈ body.head?, c ∈ Text.digits) :
    Decimal.ofUnsigned? (sign ≠ []) (symbols.plain body) =
      if body.count symbols.point ≤ 1 then some (symbols.value sign body) else none := by
  by_cases found : symbols.point ∈ body
  · obtain ⟨front, back, rfl, first⟩ := List.eq_append_cons_of_mem found
    have whole := filter_digits_ne_nil (begins_of_cut distinct begins)
    have one : (front ++ symbols.point :: back).count symbols.point ≤ 1 ↔
        symbols.point ∉ back := by
      simp [List.count_append, List.count_eq_zero.mpr first, List.count_eq_zero]
    have behind : (front ++ symbols.point :: back).dropWhile (· != symbols.point) =
        symbols.point :: back := Parser.dropWhile_append (bne_of_not_mem first) (by simp)
    rw [plain_of_cut distinct numeric first,
      Decimal.ofUnsigned?_of_point _ (isDigit_of_mem_filter front) whole, NumberSymbols.value,
      behind, if_congr one rfl rfl]
    by_cases second : symbols.point ∈ back
    · have rejected : ¬ (symbols.plain back).all Char.isDigit := fun all =>
        absurd (List.all_eq_true.mp all _ (point_mem_plain distinct second)) (by decide)
      simp [second, rejected]
    · have fraction := plain_of_not_mem distinct
        (fun c hc => numeric c (List.mem_append_right _ (.tail _ hc))) second
      have all := List.all_eq_true.mpr (isDigit_of_mem_filter back)
      simp [fraction, all, second, ofDigits_filter, distinct.point_not_mem]
  · have whole := filter_digits_ne_nil begins
    rw [plain_of_not_mem distinct numeric found,
      Decimal.ofUnsigned?_of_digits _ (isDigit_of_mem_filter body) whole, NumberSymbols.value,
      List.dropWhile_eq_nil_iff.mpr (bne_of_not_mem found), List.count_eq_zero.mpr found]
    simp [ofDigits_filter_nil]

/-- The sign of what is converted is read off its plain text, unless the hyphen is a symbol. -/
theorem ofPlain?_candidate (begins : ∃ c ∈ body.head?, c ∈ Text.digits)
    (hyphen : sign = [] ∨ symbols.HyphenFree) :
    Decimal.ofPlain? (symbols.plain (candidate (sign ≠ []) body).toList) =
      Decimal.ofUnsigned? (sign ≠ []) (symbols.plain body) := by
  rw [candidate, String.toList_ofList]
  by_cases none : sign = []
  · obtain ⟨c, isFirst, digit⟩ := begins
    obtain ⟨cs, rfl⟩ := List.head?_eq_some_iff.mp isFirst
    have other : c ≠ '-' := by
      rintro rfl
      exact absurd digit (by decide)
    simp [none, plain_cons_of_mem distinct digit, Decimal.ofPlain?, other]
  · obtain ⟨group, point⟩ := hyphen.resolve_left none
    simp [none, NumberSymbols.plain, group.symm, point.symm, Decimal.ofPlain?]

/-- A hyphen between groups of digits takes the sign away. -/
example : Decimal.ofPlain? ((⟨'-', '.', "-"⟩ : NumberSymbols).plain (candidate true ['5']).toList) =
    some ⟨false, 5, 0⟩ := by rfl

/-- So what is converted is a number if the text is accepted, and it is the value then. -/
theorem denotes_iff (ahead : NumeralAhead symbols text sign body trail rest)
    (hyphen : sign = [] ∨ symbols.HyphenFree) {v : Decimal} :
    symbols.Denotes (text.drop sign.length) sign body v ↔
      symbols.Accepts (text.drop sign.length) body ∧ symbols.value sign body = v := by
  rw [NumberSymbols.Denotes, NumberSymbols.Accepts, and_assoc]
  refine and_congr_right fun digit => ?_
  have begins := ahead.exists_first distinct digit
  rw [ofPlain?_candidate distinct begins hyphen,
    ofUnsigned?_plain distinct sign ahead.numeric begins]
  split
  next few => simp [few]
  next many => simp [many]

end Plain

/-! ## What is read -/

/-- The sign that is found is the one at the front. -/
theorem toList_find?_sign (symbols : NumberSymbols) (text : List Char) :
    (([symbols.minus, "-"].find? fun m => m.toList.isPrefixOf text).getD "").toList =
      symbols.signAhead text := by
  have hyphen : "-".toList = ['-'] := rfl
  simp only [NumberSymbols.signAhead, ← List.isPrefixOf_iff_prefix]
  cases locale : symbols.minus.toList.isPrefixOf text with
  | true => simp [locale]
  | false =>
      cases other : ['-'].isPrefixOf text with
      | true => simp [locale, other, hyphen]
      | false => simp [locale, other, hyphen]

/-- What `decimal` makes of a text, by the sign at its front. -/
theorem decimalReading_eq (locale : String) (symbols : NumberSymbols) (convert : Conversion)
    (text : List Char) :
    Parser.decimalReading locale symbols convert text =
      let sign := symbols.signAhead text
      Parser.unsignedReading locale symbols convert sign.length (sign ≠ [])
        (text.drop sign.length) := by
  have sign := toList_find?_sign symbols text
  simp only [Parser.decimalReading]
  generalize ([symbols.minus, "-"].find? fun m => m.toList.isPrefixOf text).getD "" = m at sign ⊢
  have taken : (!m.isEmpty) = decide (m.toList ≠ []) := by
    rw [Bool.eq_iff_iff, decide_eq_true_iff, Bool.not_eq_true', String.isEmpty_eq_false_iff, ne_eq,
      ne_eq, String.toList_eq_nil_iff]
  simp only [← sign, taken, String.length_toList]

theorem getD_isDigit_iff {text : List Char} :
    (text.head?.map Char.isDigit).getD false = true ↔ ∃ c ∈ text.head?, c ∈ Text.digits := by
  cases text with
  | nil => simp
  | cons c text => simp [Text.mem_digits_iff]

section Reading

variable (locale : String) {convert : Conversion} (follows : convert.Follows symbols)
  (ahead : NumeralAhead symbols text sign body trail rest)
include follows ahead

theorem decimalReading_of_denotes {v : Decimal}
    (denotes : symbols.Denotes (text.drop sign.length) sign body v) :
    Parser.decimalReading locale symbols convert text =
      .value v (sign.length + body.length) := by
  rw [decimalReading_eq, ← ahead.signed]
  simp only [Parser.unsignedReading, ahead.numeralBody_eq, if_pos (getD_isDigit_iff.mpr denotes.1),
    follows.value ahead.isNumeral_candidate denotes.2, Parser.convertedReading]

/-- The conversion refuses what is no number, and `decimal` takes that for a failure. -/
theorem decimalReading_of_refused
    (refused : ∀ v, ¬ symbols.Denotes (text.drop sign.length) sign body v) :
    ∃ trace, Parser.decimalReading locale symbols convert text =
      .stop (.failure .number) trace := by
  rw [decimalReading_eq, ← ahead.signed]
  by_cases digit : ∃ c ∈ (text.drop sign.length).head?, c ∈ Text.digits
  · have none := Option.eq_none_iff_forall_ne_some.mpr fun v plain => refused v ⟨digit, plain⟩
    obtain ⟨message, raised⟩ := follows.malformed ahead.isNumeral_candidate none
    have rejected : Fault.kind (.reported .numberFormat message) ∈ Parser.rejectedKinds :=
      .head _
    simp only [Parser.unsignedReading, ahead.numeralBody_eq, if_pos (getD_isDigit_iff.mpr digit),
      raised, Parser.convertedReading, if_pos rejected]
    exact ⟨_, rfl⟩
  · exact ⟨[], if_neg (mt getD_isDigit_iff.mp digit)⟩

end Reading

/-- A run from a state has read the sign and the body of a numeral, has this value, and has come to
rest behind a digit. -/
structure Run.ReadsNumeral (r : Run Decimal) (s : State) (sign body trail rest : List Char)
    (v : Decimal) : Prop where
  ends : r.EndsAs (.ok v) (s.moveTo (s.cursor.advance (sign.length + body.length)))
  behind : r.state.cursor.rest = trail ++ rest
  last : ∃ c ∈ r.state.cursor.passed.head?, c ∈ Text.digits

namespace Grammar

variable {ι : Type} {τ : ι → Type} {rules : (i : ι) → Grammar τ (τ i)} {s : State}
  {locale : String} {convert : Conversion}

theorem run_decimal_of_denotes (distinct : symbols.Distinct) (follows : convert.Follows symbols)
    (ahead : NumeralAhead symbols s.cursor.rest sign body trail rest) {v : Decimal}
    (denotes : symbols.Denotes (s.cursor.rest.drop sign.length) sign body v) :
    ((decimal locale symbols convert).run rules s).ReadsNumeral s sign body trail rest v := by
  have read : Parser.decimal locale symbols convert s = .ok v
      (s.moveTo (s.cursor.advance (sign.length + body.length))) := by
    rw [Parser.decimal_eq, decimalReading_of_denotes locale follows ahead denotes,
      Reading.run_value]
  have ends : ((decimal locale symbols convert).run rules s).EndsAs (.ok v)
      (s.moveTo (s.cursor.advance (sign.length + body.length))) :=
    endsAs_run_iff.mpr (Run.endsAs_of_eq_ok read)
  have front : s.cursor.rest.take (sign.length + body.length) = sign ++ body := by
    rw [ahead.split, ← List.append_assoc, ← List.length_append, List.take_left]
  obtain ⟨c, last, digit⟩ := ahead.exists_last distinct denotes.1
  refine ⟨ends, ?_, c, ?_, digit⟩
  · rw [ends.2, State.cursor_moveTo, Cursor.rest_advance, ← List.drop_drop, ahead.drop_sign,
      List.drop_left]
  · rw [ends.2, State.cursor_moveTo, Cursor.advance, front, List.reverse_append,
      List.append_assoc, List.head?_append, List.head?_reverse, Option.mem_def.mp last]
    rfl

theorem run_decimal_of_refused (follows : convert.Follows symbols)
    (ahead : NumeralAhead symbols s.cursor.rest sign body trail rest)
    (refused : ∀ v, ¬ symbols.Denotes (s.cursor.rest.drop sign.length) sign body v) :
    ((decimal locale symbols convert).run rules s).EndsAs (.error (.failure .number)) s := by
  obtain ⟨trace, reading⟩ := decimalReading_of_refused locale follows ahead refused
  have stopped :
      Parser.decimal locale symbols convert s = ⟨.error (.failure .number), s, trace⟩ := by
    rw [Parser.decimal_eq, reading, Reading.run_stop]
  exact endsAs_run_iff.mpr ⟨congrArg Run.outcome stopped, congrArg Run.state stopped⟩

/-- The sign of this locale is two characters. -/
def persian : NumberSymbols := ⟨',', '.', "\u200e\u2212"⟩

end Grammar

end Descent
