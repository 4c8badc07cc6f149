import Descent.Proofs.SingleLine

/-!
# Reports as outlines

A report in the text format is built from the inside: what is nested in a failure is written
first, and then its finished text is indented.  Read from the top it is an outline.  Each failure
has a line of its own, the outer ones before the inner ones, behind a margin of two spaces for
each failure that it is nested in.  `ParseError.nodes` lists the failures in this order, and
`Node.lines` says what is written for one of them.

The two readings agree because of what indenting does to a text whose lines all show something:
it puts the margin before each of them (`Text.splitOn_indent`).  For this it has to be known that
no line is blank, as blank lines get no margin, and that no line has a boundary in it, as the
text would be cut there too.  Headings always show something, so the first is asked of unread
input alone.

With this, one more level is one more margin before all lines (`ParseError.outline_succ`), and
the report is the outline by induction on the failure (`ParseError.splitOn_explain`).
-/

namespace Descent

/-! ## Indented lines -/

namespace Text

/-- There is a character in the text that is not blank. -/
def Shows (text : List Char) : Prop := ∃ x ∈ text, isBlank x = false

instance (text : List Char) : Decidable (Shows text) :=
  List.decidableBEx (fun x => isBlank x = false) text

/-- A line that is indented, and as a whole. -/
structure IsLine (line : List Char) : Prop where
  /-- No line boundary is in it. -/
  unbroken : Unbroken line
  /-- It is not blank. -/
  shows : Shows line

variable {line front text : List Char} {lines : List (List Char)} {x : Char}

theorem Unbroken.not_mem (h : Unbroken line) : '\n' ∉ line := fun mem => by
  have other := h '\n' mem
  exact absurd other (by decide)

theorem Shows.ne_nil (h : Shows text) : text ≠ [] := by
  obtain ⟨x, mem, -⟩ := h
  exact List.ne_nil_of_mem mem

theorem Shows.append_left (front : List Char) (h : Shows text) : Shows (front ++ text) := by
  obtain ⟨x, mem, visible⟩ := h
  exact ⟨x, List.mem_append_right front mem, visible⟩

theorem Shows.append_right (h : Shows text) (behind : List Char) : Shows (text ++ behind) := by
  obtain ⟨x, mem, visible⟩ := h
  exact ⟨x, List.mem_append_left behind mem, visible⟩

theorem Shows.toList_append {a : String} (h : Shows a.toList) (b : String) :
    Shows (a ++ b).toList := by
  rw [String.toList_append]
  exact h.append_right b.toList

theorem IsLine.append (h : IsLine line) (unbroken : Unbroken front) : IsLine (front ++ line) :=
  ⟨unbroken_append.mpr ⟨unbroken, h.unbroken⟩, h.shows.append_left front⟩

/-! ### Cutting -/

/-- A character that is no boundary makes the first line longer. -/
theorem cutLines_cons (h : isLineBoundary x = false) (cut : cutLines text = line :: lines) :
    cutLines (x :: text) = (x :: line) :: lines := by
  have other : ∀ rest, x = '\r' → text = '\n' :: rest → False := by
    rintro rest rfl -
    exact absurd h (by decide)
  rw [cutLines, if_neg (by rw [h]; decide), cut]
  exact other

/-- A line feed ends a line. -/
theorem cutLines_append_newline (h : Unbroken line) (text : List Char) :
    cutLines (line ++ '\n' :: text) = (line ++ ['\n']) :: cutLines text := by
  induction line with
  | nil =>
      have other : ∀ rest, '\n' = '\r' → text = '\n' :: rest → False :=
        fun _ same => absurd same (by decide)
      rw [List.nil_append, cutLines, if_pos (by decide), List.nil_append]
      exact other
  | cons x line ih =>
      obtain ⟨plain, others⟩ := unbroken_cons.mp h
      rw [List.cons_append, cutLines_cons plain (ih others), List.cons_append]

theorem cutLines_of_unbroken (h : Unbroken line) (ne_nil : line ≠ []) :
    cutLines line = [line] := by
  induction line with
  | nil => exact absurd rfl ne_nil
  | cons x line ih =>
      obtain ⟨plain, others⟩ := unbroken_cons.mp h
      cases line with
      | nil =>
          rw [cutLines, if_neg (by rw [plain]; decide), cutLines]
          exact fun _ _ => nofun
      | cons y line => exact cutLines_cons plain (ih others (List.cons_ne_nil y line))

/-! ### Margins -/

theorem indentLine_of_shows (h : Shows line) : indentLine line = margin ++ line := by
  obtain ⟨x, mem, visible⟩ := h
  refine if_neg fun blank => ?_
  rw [List.all_eq_true.mp blank x mem] at visible
  cases visible

/-- Lines that all show something have the margin before each. -/
theorem flatMap_indentLine (h : ∀ line ∈ lines, IsLine line) :
    (cutLines (['\n'].intercalate lines)).flatMap indentLine =
      ['\n'].intercalate (lines.map (margin ++ ·)) := by
  induction lines with
  | nil => rfl
  | cons line lines ih =>
      obtain ⟨unbroken, shows⟩ := h line (.head _)
      have others := ih fun line' mem => h line' (.tail _ mem)
      cases lines with
      | nil =>
          have cut := cutLines_of_unbroken unbroken shows.ne_nil
          rw [List.intercalate_singleton, cut, List.flatMap_singleton, indentLine_of_shows shows]
          exact List.intercalate_singleton.symm
      | cons next lines =>
          rw [List.intercalate_cons_cons, List.append_assoc, List.singleton_append,
            cutLines_append_newline unbroken, List.flatMap_cons, others,
            indentLine_of_shows (shows.append_right ['\n'])]
          simp only [List.map_cons, List.intercalate_cons_cons, List.append_assoc]

/-- Indenting puts the margin before each line, if the lines all show something. -/
theorem splitOn_indent {text : String} (h : ∀ line ∈ text.toList.splitOn '\n', IsLine line) :
    (indent text).toList.splitOn '\n' = (text.toList.splitOn '\n').map (margin ++ ·) := by
  have indented := flatMap_indentLine h
  rw [List.intercalate_splitOn] at indented
  rw [indent, String.toList_ofList, indented]
  refine List.splitOn_intercalate '\n' ?_ ?_
  · refine List.forall_mem_map.mpr fun line mem => Unbroken.not_mem ?_
    exact unbroken_append.mpr ⟨by decide, (h line mem).unbroken⟩
  · exact fun empty => List.splitOn_ne_nil '\n' _ (List.map_eq_nil_iff.mp empty)

end Text

open Text (Unbroken Shows IsLine)

/-! ## Outlines -/

/-- The branches of an alternative. -/
inductive Branch where
  | first
  | second

/-- What stands before the heading of a branch. -/
def Branch.mark : Branch → String
  | first => "1. "
  | second => "2. "

/-- A failure in its place in an outline. -/
structure Node where
  /-- The number of failures that it is nested in. -/
  depth : Nat
  /-- The branch that it is, if it is one. -/
  branch : Option Branch
  /-- The failure. -/
  error : ParseError

namespace ParseError

/-- The failure and those nested in it, each before what is nested in it. -/
def nodes (depth : Nat) (branch : Option Branch) : ParseError → List Node
  | context label error => ⟨depth, branch, context label error⟩ :: error.nodes (depth + 1) none
  | either first second =>
      ⟨depth, branch, either first second⟩ ::
        (first.nodes (depth + 1) (some .first) ++ second.nodes (depth + 1) (some .second))
  | error => [⟨depth, branch, error⟩]

/-- The line of a failure, less its margin and the mark of its branch. -/
def heading : ParseError → String
  | context label error => "- " ++ (context label error).message ++ ":"
  | either first second => (either first second).message ++ ":"
  | incomplete _ => "Incomplete Parse - Remaining: "
  | error => error.message

/-- The unread input that is shown below this line. -/
def unread : ParseError → List (List Char)
  | incomplete stopped => [stopped.rest]
  | _ => []

/-- The places where a failure, or one nested in it, shows unread input. -/
def places : ParseError → List Cursor
  | incomplete stopped => [stopped]
  | context _ error => error.places
  | either first second => first.places ++ second.places
  | _ => []

/-- The texts that the failure was given have no line boundaries, and the unread input that it
shows has none and is not blank. -/
structure IsLined (e : ParseError) : Prop where
  /-- The texts are unbroken. -/
  texts : ∀ text ∈ e.texts, Unbroken text.toList
  /-- The unread input is a line at every place. -/
  places : ∀ stopped ∈ e.places, IsLine stopped.rest

namespace IsLined

variable {label : String} {error first second : ParseError}

theorem inner (h : (context label error).IsLined) : error.IsLined :=
  ⟨fun text mem => h.texts text (.tail _ mem), h.places⟩

theorem left (h : (either first second).IsLined) : first.IsLined :=
  ⟨fun text mem => h.texts text (List.mem_append_left _ mem),
    fun stopped mem => h.places stopped (List.mem_append_left _ mem)⟩

theorem right (h : (either first second).IsLined) : second.IsLined :=
  ⟨fun text mem => h.texts text (List.mem_append_right _ mem),
    fun stopped mem => h.places stopped (List.mem_append_right _ mem)⟩

end IsLined

end ParseError

namespace Node

/-- The mark of a branch, or nothing. -/
def mark (branch : Option Branch) : List Char := (branch.elim "" Branch.mark).toList

/-- The margin of a depth. -/
def margin (depth : Nat) : List Char := List.replicate (2 * depth) ' '

/-- What is written for a failure: its heading, and the unread input below if it shows any. -/
def lines (n : Node) : List (List Char) :=
  (margin n.depth ++ mark n.branch ++ n.error.heading.toList) ::
    n.error.unread.map (margin n.depth ++ ·)

theorem unbroken_mark (branch : Option Branch) : Unbroken (mark branch) := by
  cases branch with
  | none => decide
  | some branch => cases branch <;> decide

theorem unbroken_margin (depth : Nat) : Unbroken (margin depth) := by
  intro x mem
  rw [List.eq_of_mem_replicate mem]
  decide

theorem lines_of_isPlain {depth : Nat} {branch : Option Branch} {e : ParseError} (h : e.IsPlain) :
    (Node.mk depth branch e).lines = [margin depth ++ mark branch ++ e.message.toList] := by
  cases e with
  | incomplete _ | context _ _ | either _ _ => exact h.elim
  | _ => rfl

/-- One more level is one more margin. -/
theorem lines_succ (depth : Nat) (branch : Option Branch) (e : ParseError) :
    (Node.mk (depth + 1) branch e).lines =
      (Node.mk depth branch e).lines.map (Text.margin ++ ·) := by
  rw [lines, lines, List.map_cons, List.map_map]
  rfl

end Node

namespace ParseError

variable {e : ParseError} (depth : Nat) (branch : Option Branch)

/-- The lines of the outline of a failure. -/
def outline (depth : Nat) (branch : Option Branch) (e : ParseError) : List (List Char) :=
  (e.nodes depth branch).flatMap Node.lines

section Equations

variable (label : String) (error first second : ParseError) (stopped : Cursor)

theorem heading_of_isPlain (h : e.IsPlain) : e.heading = e.message := by
  cases e with
  | incomplete _ | context _ _ | either _ _ => exact h.elim
  | _ => rfl

theorem outline_of_isPlain (h : e.IsPlain) :
    e.outline depth branch = (Node.mk depth branch e).lines := by
  cases e with
  | incomplete _ | context _ _ | either _ _ => exact h.elim
  | _ => rfl

theorem outline_incomplete : (incomplete stopped).outline depth branch =
    (Node.mk depth branch (incomplete stopped)).lines := List.flatMap_singleton _ _

theorem outline_context : (context label error).outline depth branch =
    (Node.mk depth branch (context label error)).lines ++ error.outline (depth + 1) none := rfl

theorem outline_either : (either first second).outline depth branch =
    (Node.mk depth branch (either first second)).lines ++
      (first.outline (depth + 1) (some .first) ++ second.outline (depth + 1) (some .second)) := by
  rw [outline, nodes, List.flatMap_cons, List.flatMap_append]
  rfl

end Equations

/-- One level deeper, the outline is behind one more margin. -/
theorem outline_succ (e : ParseError) :
    e.outline (depth + 1) branch = (e.outline depth branch).map (Text.margin ++ ·) := by
  induction e using plain_induction generalizing depth branch with
  | plain e plain =>
      rw [outline_of_isPlain _ _ plain, outline_of_isPlain _ _ plain, Node.lines_succ]
  | incomplete stopped => rw [outline_incomplete, outline_incomplete, Node.lines_succ]
  | context label error ih =>
      rw [outline_context, outline_context, ih, List.map_append, Node.lines_succ]
  | either first second ih ih' =>
      rw [outline_either, outline_either, ih, ih', List.map_append, List.map_append,
        Node.lines_succ]

/-! ### Every line shows something -/

/-- The message of a failure begins with a word. -/
theorem IsLined.message (h : e.IsLined) (plain : e.IsPlain) : IsLine e.message.toList where
  unbroken := unbroken_message (by rintro _ rfl; exact plain) h.texts
  shows := by
    cases e with
    | incomplete _ | context _ _ | either _ _ => exact plain.elim
    | character char => exact Shows.toList_append (Shows.toList_append (by decide) char) _
    | token expected => exact Shows.toList_append (by decide) expected.text
    | typed name => exact Shows.toList_append (Shows.toList_append (by decide) name) _
    | _ => decide

/-- So does the heading. -/
theorem IsLined.heading (h : e.IsLined) : IsLine e.heading.toList := by
  induction e using plain_induction with
  | plain e plain =>
      rw [heading_of_isPlain plain]
      exact h.message plain
  | incomplete stopped =>
      show IsLine "Incomplete Parse - Remaining: ".toList
      exact ⟨by decide, by decide⟩
  | context label error _ =>
      have message : Unbroken (context label error).message.toList :=
        unbroken_message nofun h.texts
      exact ⟨.enclosed (by decide) message (by decide),
        Shows.toList_append (Shows.toList_append (by decide) _) _⟩
  | either first second _ _ =>
      show IsLine ("Parsing Failed in Either" ++ ":").toList
      exact ⟨by decide, by decide⟩

theorem IsLined.unread (h : e.IsLined) : ∀ text ∈ e.unread, IsLine text := by
  cases e with
  | incomplete stopped => exact List.forall_mem_singleton.mpr (h.places stopped (.head _))
  | _ => exact nofun

theorem IsLined.lines (h : e.IsLined) :
    ∀ line ∈ (Node.mk depth branch e).lines, IsLine line := by
  have front := Text.unbroken_append.mpr ⟨Node.unbroken_margin depth, Node.unbroken_mark branch⟩
  refine List.forall_mem_cons.mpr ⟨h.heading.append front, List.forall_mem_map.mpr ?_⟩
  exact fun text mem => (h.unread text mem).append (Node.unbroken_margin depth)

/-- Every line of the outline shows something. -/
theorem IsLined.outline (h : e.IsLined) : ∀ line ∈ e.outline depth branch, IsLine line := by
  induction e using plain_induction generalizing depth branch with
  | plain e plain =>
      rw [outline_of_isPlain _ _ plain]
      exact h.lines depth branch
  | incomplete stopped =>
      rw [outline_incomplete]
      exact h.lines depth branch
  | context label error ih =>
      have inner := ih (depth + 1) none h.inner
      rw [outline_context]
      exact List.forall_mem_append.mpr ⟨h.lines depth branch, inner⟩
  | either first second ih ih' =>
      have left := ih (depth + 1) (some .first) h.left
      have right := ih' (depth + 1) (some .second) h.right
      rw [outline_either]
      exact List.forall_mem_append.mpr
        ⟨h.lines depth branch, List.forall_mem_append.mpr ⟨left, right⟩⟩

end ParseError

/-! ## Reports -/

namespace Report

variable (r : Report) (label : String) (error first second : ParseError)

theorem renderText_of_isPlain {e : ParseError} (h : e.IsPlain) : r.renderText e = e.message := by
  cases e with
  | incomplete _ | context _ _ | either _ _ => exact h.elim
  | _ => rfl

theorem toList_renderText_context : (r.renderText (.context label error)).toList =
    (ParseError.context label error).heading.toList ++
      '\n' :: (Text.indent (r.renderText error)).toList := by
  rw [renderText_context, ParseError.heading]
  simp only [String.toList_append, List.append_assoc]
  rfl

/-- The two branches, each behind its mark. -/
def branches : String :=
  "1. " ++ r.renderText first ++ "\n" ++ "2. " ++ r.renderText second

theorem toList_renderText_either : (r.renderText (.either first second)).toList =
    (ParseError.either first second).heading.toList ++
      '\n' :: (Text.indent (r.branches first second)).toList := by
  rw [renderText_either, ParseError.heading, branches]
  simp only [String.toList_append, List.append_assoc]
  rfl

theorem toList_branches : (r.branches first second).toList =
    (Node.mark (some .first) ++ (r.renderText first).toList) ++
      '\n' :: (Node.mark (some .second) ++ (r.renderText second).toList) := by
  rw [branches]
  simp only [String.toList_append, List.append_assoc]
  rfl

theorem toList_renderText_incomplete (stopped : Cursor) :
    ((Report.mk .text none).renderText (.incomplete stopped)).toList =
      (ParseError.incomplete stopped).heading.toList ++ '\n' :: stopped.rest := by
  have line : "Incomplete Parse - Remaining: \n" = "Incomplete Parse - Remaining: " ++ "\n" := by
    decide
  rw [renderText_incomplete, ParseError.heading, line, String.toList_append, String.toList_append,
    List.append_assoc]
  exact congrArg (_ ++ '\n' :: ·) String.toList_ofList

end Report

namespace ParseError

variable {e : ParseError}

theorem IsLined.splitOn_heading (h : e.IsLined) (branch : Option Branch) (below : List Char) :
    (Node.mark branch ++ (e.heading.toList ++ '\n' :: below)).splitOn '\n' =
      (Node.mark branch ++ e.heading.toList) :: below.splitOn '\n' := by
  have line := h.heading.append (Node.unbroken_mark branch)
  rw [← List.append_assoc, List.splitOn_append_cons_self_of_not_mem line.unbroken.not_mem]

/-- Behind the mark of a branch, a report is cut at the line feeds into the lines of the
outline. -/
theorem IsLined.splitOn_renderText (h : e.IsLined) (branch : Option Branch) :
    (Node.mark branch ++ ((Report.mk .text none).renderText e).toList).splitOn '\n' =
      e.outline 0 branch := by
  induction e using plain_induction generalizing branch with
  | plain e plain =>
      have line := (h.message plain).append (Node.unbroken_mark branch)
      rw [outline_of_isPlain _ _ plain, Report.renderText_of_isPlain _ plain,
        List.splitOn_eq_singleton line.unbroken.not_mem, Node.lines_of_isPlain plain]
      rfl
  | incomplete stopped =>
      have unread := h.places stopped (.head _)
      rw [Report.toList_renderText_incomplete, h.splitOn_heading,
        List.splitOn_eq_singleton unread.unbroken.not_mem, outline_incomplete]
      rfl
  | context label error ih =>
      have inner : ((Report.mk .text none).renderText error).toList.splitOn '\n' =
          error.outline 0 none := ih h.inner none
      have shown := h.inner.outline 0 none
      rw [← inner] at shown
      rw [Report.toList_renderText_context, h.splitOn_heading, Text.splitOn_indent shown, inner,
        outline_context, outline_succ]
      rfl
  | either first second ih ih' =>
      have inner : ((Report.mk .text none).branches first second).toList.splitOn '\n' =
          first.outline 0 (some .first) ++ second.outline 0 (some .second) := by
        rw [Report.toList_branches, List.splitOn_append_cons_self, ih h.left, ih' h.right]
      have shown := List.forall_mem_append.mpr
        ⟨h.left.outline 0 (some .first), h.right.outline 0 (some .second)⟩
      rw [← inner] at shown
      rw [Report.toList_renderText_either, h.splitOn_heading, Text.splitOn_indent shown, inner,
        List.map_append, outline_either, outline_succ, outline_succ]
      rfl

/-- A report in the text format is an outline: cut at the line feeds, it gives the lines of each
failure in turn. -/
theorem splitOn_explain (h : e.IsLined) :
    (Report.mk .text none).render e = e.explain ∧
      e.explain.toList.splitOn '\n' = (e.nodes 0 none).flatMap Node.lines :=
  ⟨rfl, h.splitOn_renderText none⟩

/-- Five lines for four failures, as one of them shows unread input. -/
theorem splitOn_explain_list :
    let error : ParseError :=
      .context "list" (.either (.token (.one "+")) (.incomplete (.ofChars "1 x y".toList 1)))
    error.IsLined ∧ error.explain.toList.splitOn '\n' =
      ["- Parsing Error in list:",
        "  Parsing Failed in Either:",
        "    1. Expected Token '+'",
        "    2. Incomplete Parse - Remaining: ",
        "     x y"].map String.toList := by
  intro error
  have lined : error.IsLined :=
    ⟨by decide, List.forall_mem_singleton.mpr ⟨by decide, by decide⟩⟩
  refine ⟨lined, (splitOn_explain lined).2.trans ?_⟩
  decide

end ParseError

end Descent
