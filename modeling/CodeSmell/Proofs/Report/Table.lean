/-
Reading the tables of a Markdown report.

A row is taken apart at the pipes that no backslash stands before, and in a piece a blank is
taken off each end and each backslash with a pipe behind it turned back into the pipe. The
backslash itself is not escaped, so it has to be seen that no text can pass for a delimiter
or be misread. It cannot, for two reasons. Every pipe of a text is written behind a backslash
of its own, which is the one that goes when the pipe comes back; and behind every text stands
a blank, so a backslash at its end stands before no delimiter.

Main statement: the table of findings has a row for each finding, from which the number, the
line, the grade and the texts are read back, with a blank for each line feed; and the table
of grades has a row for each grade that occurs, gravest first, with counts that sum to the
number of findings.
-/
import CodeSmell.Proofs.Number.Integer
import CodeSmell.Report.Markdown
import Mathlib.Algebra.GroupWithZero.Nat
import Mathlib.Data.List.Forall2

set_option autoImplicit false

namespace CodeSmell.Markdown

/-! ## Reading -/

/-- The lines of a text. -/
def splitLines (s : String) : List (List Char) := s.toList.splitOn '\n'

/-- The pieces of a line between the pipes that no backslash stands before; `slash` says that
one stands before the line. -/
def splitRow (slash : Bool) : List Char → List (List Char)
  | [] => [[]]
  | c :: rest =>
    if c = '|' ∧ slash = false then [] :: splitRow false rest
    else (splitRow (c == '\\') rest).modifyHead (c :: ·)

/-- A text with the pipe for each backslash with a pipe behind it. -/
def unescape : List Char → List Char
  | '\\' :: '|' :: rest => '|' :: unescape rest
  | c :: rest => c :: unescape rest
  | [] => []

/-- A piece shows a text between two blanks. -/
def CellShows (text piece : List Char) : Prop :=
  ∃ body, piece = ' ' :: (body ++ [' ']) ∧ unescape body = text

/-- A line has a piece for each text, between two empty ones. -/
def RowShows (texts : List (List Char)) (line : List Char) : Prop :=
  ∃ pieces, splitRow false line = [] :: (pieces ++ [[]]) ∧ List.Forall₂ CellShows texts pieces

/-- The characters of a text, with a blank for each line feed. -/
def onOneLine (s : String) : List Char := s.toList.map fun c => if c = '\n' then ' ' else c

/-! ## Cells -/

/-- The characters of a text in a cell. -/
def cell (s : String) : List Char := s.toList.flatMap escapeChar

theorem toList_escapeCell (s : String) : (escapeCell s).toList = cell s :=
  String.toList_ofList

/-- A pipe is written behind a backslash, a line feed as a blank, and anything else as it is. -/
theorem escapeChar_cases (c : Char) :
    (c = '|' ∧ escapeChar c = ['\\', '|']) ∨ (c = '\n' ∧ escapeChar c = [' '])
      ∨ (c ≠ '|' ∧ c ≠ '\n' ∧ escapeChar c = [c]) := by
  by_cases hpipe : c = '|'
  · exact .inl ⟨hpipe, if_pos hpipe⟩
  by_cases hline : c = '\n'
  · exact .inr (.inl ⟨hline, by rw [escapeChar, if_neg hpipe, if_pos hline]⟩)
  · exact .inr (.inr ⟨hpipe, hline, by rw [escapeChar, if_neg hpipe, if_neg hline]⟩)

/-- No delimiter is found in an escaped character. -/
theorem splitRow_escapeChar (slash : Bool) (c : Char) (rest : List Char) :
    splitRow slash (escapeChar c ++ rest)
      = (splitRow (c == '\\') rest).modifyHead (escapeChar c ++ ·) := by
  rcases escapeChar_cases c with ⟨rfl, hc⟩ | ⟨rfl, hc⟩ | ⟨hpipe, -, hc⟩
  · -- The pipe stands behind the backslash of its escape, whatever was before that.
    rw [hc]
    change List.modifyHead _ (List.modifyHead _ (splitRow false rest)) = _
    rw [List.modifyHead_modifyHead]
    rfl
  · rw [hc]
    rfl
  · rw [hc, List.singleton_append, splitRow, if_neg fun h => hpipe h.1]
    rfl

/-- A text in a cell, with the blank behind it, is one piece with what was before. -/
theorem splitRow_cell (s : String) (slash : Bool) (rest : List Char) :
    splitRow slash (cell s ++ ' ' :: rest)
      = (splitRow false rest).modifyHead (cell s ++ ' ' :: ·) := by
  unfold cell
  induction s.toList generalizing slash with
  | nil => rfl
  | cons c s ih =>
    rw [List.flatMap_cons, List.append_assoc, splitRow_escapeChar, ih, List.modifyHead_modifyHead]
    congr 1
    funext tail
    exact (List.append_assoc _ _ _).symm

/-- An escaped text does not begin with a pipe. -/
theorem head?_flatMap_escapeChar (cs : List Char) : (cs.flatMap escapeChar).head? ≠ some '|' := by
  cases cs with
  | nil => exact nofun
  | cons c cs =>
    rw [List.flatMap_cons]
    rcases escapeChar_cases c with ⟨-, hc⟩ | ⟨-, hc⟩ | ⟨hpipe, -, hc⟩
    · rw [hc]
      simp
    · rw [hc]
      simp
    · rw [hc]
      simpa using hpipe

/-- A character that has no pipe behind it stands for itself. -/
theorem unescape_cons (c : Char) {rest : List Char} (h : rest.head? ≠ some '|') :
    unescape (c :: rest) = c :: unescape rest := by
  rw [unescape]
  rintro more - rfl
  exact h rfl

/-- The text of a cell is read back. -/
theorem unescape_cell (s : String) : unescape (cell s) = onOneLine s := by
  unfold cell onOneLine
  induction s.toList with
  | nil => rfl
  | cons c rest ih =>
    have hhead := head?_flatMap_escapeChar rest
    rw [List.flatMap_cons, List.map_cons, ← ih]
    -- A backslash of the text stays, since no escaped text begins with a bare pipe.
    rcases escapeChar_cases c with ⟨rfl, hc⟩ | ⟨rfl, hc⟩ | ⟨-, hline, hc⟩
    · rw [hc]
      rfl
    · rw [hc]
      exact unescape_cons ' ' hhead
    · rw [hc, if_neg hline]
      exact unescape_cons c hhead

theorem cellShows_cell (s : String) : CellShows (onOneLine s) (' ' :: (cell s ++ [' '])) :=
  ⟨cell s, rfl, unescape_cell s⟩

/-! ## Rows -/

/-- The characters of a row with texts in its cells. -/
def row (texts : List String) : List Char :=
  texts.flatMap (fun s => '|' :: ' ' :: (cell s ++ [' '])) ++ ['|']

theorem splitRow_row (texts : List String) :
    splitRow false (row texts) = [] :: (texts.map (fun s => ' ' :: (cell s ++ [' '])) ++ [[]]) := by
  induction texts with
  | nil => rfl
  | cons s rest ih =>
    have hrow : row (s :: rest) = '|' :: ' ' :: (cell s ++ ' ' :: row rest) := by
      simp [row]
    rw [hrow, splitRow, if_pos ⟨rfl, rfl⟩, splitRow, if_neg (by decide), splitRow_cell, ih]
    simp

/-- From a row its texts are read back. -/
theorem rowShows_row (texts : List String) : RowShows (texts.map onOneLine) (row texts) := by
  refine ⟨_, splitRow_row texts, ?_⟩
  rw [List.forall₂_map_left_iff, List.forall₂_map_right_iff, List.forall₂_same]
  exact fun s _ => cellShows_cell s

theorem newline_not_mem_cell (s : String) : '\n' ∉ cell s := by
  intro h
  obtain ⟨c, -, h⟩ := List.mem_flatMap.mp h
  rcases escapeChar_cases c with ⟨-, hc⟩ | ⟨-, hc⟩ | ⟨-, hline, hc⟩
  · rw [hc] at h
    exact absurd h (by decide)
  · rw [hc] at h
    exact absurd h (by decide)
  · rw [hc] at h
    exact hline (List.mem_singleton.mp h).symm

theorem newline_not_mem_row (texts : List String) : '\n' ∉ row texts := by
  intro h
  rcases List.mem_append.mp h with h | h
  · obtain ⟨s, -, h⟩ := List.mem_flatMap.mp h
    have hcell := newline_not_mem_cell s
    simp [hcell] at h
  · exact absurd h (by decide)

/-! ## Numbers and grades -/

/-- A text is plain if it has no character that is written in another way. -/
def IsPlainText (s : String) : Prop := ∀ c ∈ s.toList, c ≠ '|' ∧ c ≠ '\n'

theorem isPlainText_nat (n : Nat) : IsPlainText (toString n) := by
  intro c hc
  have hdigit : c.isDigit = true := by
    rw [Nat.toString_eq_ofList_toDigits, String.toList_ofList] at hc
    exact isDigit_of_mem_naturalDigits hc
  constructor
  · rintro rfl
    exact absurd hdigit (by decide)
  · rintro rfl
    exact absurd hdigit (by decide)

theorem isPlainText_int (n : Int) : IsPlainText (toString n) := by
  cases n with
  | ofNat n => exact isPlainText_nat n
  | negSucc n =>
    intro c hc
    change c ∈ ("-" ++ toString (n + 1)).toList at hc
    rw [String.toList_append] at hc
    rcases List.mem_append.mp hc with hc | hc
    · obtain rfl := List.mem_singleton.mp hc
      decide
    · exact isPlainText_nat (n + 1) c hc

theorem isPlainText_capitals (s : Severity) : IsPlainText s.capitals := by
  have hall : (s.capitals.toList.all fun c => c != '|' && c != '\n') = true := by
    cases s <;> decide
  intro c hc
  simpa using List.all_eq_true.mp hall c hc

/-- A plain text is written as it is. -/
theorem IsPlainText.cell_eq {s : String} (h : IsPlainText s) : cell s = s.toList := by
  have heach : ∀ c ∈ s.toList, escapeChar c = [c] := by
    intro c hc
    obtain ⟨hpipe, hline⟩ := h c hc
    rw [escapeChar, if_neg hpipe, if_neg hline]
  rw [cell, List.flatMap_congr heach, List.flatMap_singleton']

/-- A plain text stands on one line. -/
theorem IsPlainText.onOneLine_eq {s : String} (h : IsPlainText s) : onOneLine s = s.toList := by
  have heach : ∀ c ∈ s.toList, (if c = '\n' then ' ' else c) = c := fun c hc => if_neg (h c hc).2
  rw [onOneLine, List.map_congr_left heach, List.map_id']

/-- A grade in capitals is its text in capitals. -/
theorem toList_capitals (s : Severity) : s.capitals.toList = s.text.toList.map Char.toUpper := by
  cases s <;> decide

/-! ## The rows of the two tables -/

/-- What stands in front of the cells of a row, between them and behind them. -/
theorem toList_marks :
    "| ".toList = ['|', ' '] ∧ " | ".toList = [' ', '|', ' '] ∧ " ".toList = [' ']
      ∧ " |".toList = [' ', '|'] :=
  ⟨rfl, rfl, rfl, rfl⟩

/-- The row of a finding has its number, its line, its grade and its texts in the cells. -/
theorem toList_findingRow (number : Nat) (f : Finding) :
    (findingRow number f).toList
      = row [toString number, toString f.line, f.severity.capitals, f.name, f.description,
          f.message] := by
  have htext (s : String) : toString s = s := rfl
  simp only [findingRow, row, htext, String.toList_append, toList_escapeCell, toList_marks,
    List.flatMap_cons, List.flatMap_nil, (isPlainText_nat number).cell_eq,
    (isPlainText_int f.line).cell_eq, (isPlainText_capitals f.severity).cell_eq, List.cons_append,
    List.nil_append, List.append_assoc]

/-- From the row of a finding its number, its line, its grade and its texts are read back. -/
theorem rowShows_findingRow (number : Nat) (f : Finding) :
    (splitRow false (findingRow number f).toList).length = 8
      ∧ RowShows [(toString number).toList, (toString f.line).toList,
          f.severity.text.toList.map Char.toUpper, onOneLine f.name, onOneLine f.description,
          onOneLine f.message] (findingRow number f).toList := by
  rw [toList_findingRow, ← (isPlainText_nat number).onOneLine_eq,
    ← (isPlainText_int f.line).onOneLine_eq, ← toList_capitals,
    ← (isPlainText_capitals f.severity).onOneLine_eq]
  refine ⟨?_, rowShows_row _⟩
  rw [splitRow_row]
  rfl

theorem findingRows_eq (number : Nat) (fs : List Finding) :
    findingRows number fs = (fs.zipIdx number).map fun p => findingRow p.2 p.1 := by
  induction fs generalizing number with
  | nil => rfl
  | cons f rest ih => rw [findingRows, ih, List.zipIdx_cons, List.map_cons]

/-- The row of a grade. -/
def gradeRow (g : Severity × Nat) : String := s!"| {g.1.capitals} | {g.2} |"

/-- The row of a grade has it and the number of its findings in the cells. -/
theorem toList_gradeRow (g : Severity × Nat) :
    (gradeRow g).toList = row [g.1.capitals, toString g.2] := by
  have htext (s : String) : toString s = s := rfl
  simp only [gradeRow, row, htext, String.toList_append, toList_marks, List.flatMap_cons,
    List.flatMap_nil, (isPlainText_capitals g.1).cell_eq, (isPlainText_nat g.2).cell_eq,
    List.cons_append, List.nil_append, List.append_assoc]

theorem rowShows_gradeRow (g : Severity × Nat) :
    RowShows [g.1.text.toList.map Char.toUpper, (toString g.2).toList] (gradeRow g).toList := by
  rw [toList_gradeRow, ← toList_capitals, ← (isPlainText_capitals g.1).onOneLine_eq,
    ← (isPlainText_nat g.2).onOneLine_eq]
  exact rowShows_row _

/-! ## Lines -/

/-- Texts that are put together with line feeds have the lines of each of them. -/
theorem splitOn_intercalate {ls : List (List Char)} (hne : ls ≠ []) :
    (['\n'].intercalate ls).splitOn '\n' = ls.flatMap (·.splitOn '\n') := by
  induction ls with
  | nil => exact absurd rfl hne
  | cons l rest ih =>
    cases rest with
    | nil => rw [List.intercalate_singleton, List.flatMap_singleton]
    | cons m more =>
      rw [List.intercalate_cons_cons, List.append_assoc, List.singleton_append,
        List.splitOn_append_cons_self, ih (List.cons_ne_nil m more), List.flatMap_cons (x := l)]

theorem splitLines_render (r : Report) : splitLines (render r) = (lines r).flatMap splitLines := by
  have hne : (lines r).map String.toList ≠ [] := by
    simp [lines]
  rw [splitLines, render, String.toList_intercalate]
  exact (splitOn_intercalate hne).trans (List.flatMap_map _ _ _)

theorem splitLines_eq_singleton {s : String} (h : '\n' ∉ s.toList) : splitLines s = [s.toList] :=
  List.splitOn_eq_singleton h

theorem flatMap_splitLines {ls : List String} (h : ∀ l ∈ ls, '\n' ∉ l.toList) :
    ls.flatMap splitLines = ls.map String.toList := by
  rw [List.flatMap_congr fun l hl => splitLines_eq_singleton (h l hl), List.map_eq_flatMap]

/-! ## Grades -/

/-- The grades that occur, gravest first, each with the number of its findings. -/
def gradeCounts (findings : List Finding) : List (Severity × Nat) :=
  (Severity.all.filter fun s => severityCount findings s ≠ 0).map
    fun s => (s, severityCount findings s)

theorem severityRows_eq (findings : List Finding) :
    severityRows findings = (gradeCounts findings).map gradeRow := by
  rw [severityRows, gradeCounts, List.map_map]
  rfl

theorem grades_gradeCounts (findings : List Finding) :
    (gradeCounts findings).map (·.1)
      = Severity.all.filter fun s => decide (∃ f ∈ findings, f.severity = s) := by
  have hfst : (fun g : Severity × Nat => g.1) ∘ (fun s => (s, severityCount findings s)) = id := rfl
  rw [gradeCounts, List.map_map, hfst, List.map_id]
  refine List.filter_congr fun s _ => decide_eq_decide.mpr ?_
  rw [← Nat.pos_iff_ne_zero, severityCount, List.countP_pos_iff]
  simp only [decide_eq_true_eq]

/-- Grades that do not occur count for nothing. -/
theorem sum_counts_filter (count : Severity → Nat) (grades : List Severity) :
    ((grades.filter fun s => count s ≠ 0).map count).sum = (grades.map count).sum := by
  induction grades with
  | nil => rfl
  | cons s rest ih =>
    by_cases hs : count s = 0
    · rw [List.filter_cons_of_neg (by simpa using hs), ih, List.map_cons, List.sum_cons, hs,
        Nat.zero_add]
    · rw [List.filter_cons_of_pos (by simpa using hs), List.map_cons, List.map_cons,
        List.sum_cons, List.sum_cons, ih]

/-- Every finding has one of the grades. -/
theorem sum_gradeCounts (findings : List Finding) :
    ((gradeCounts findings).map (·.2)).sum = findings.length := by
  have hsnd : (fun g : Severity × Nat => g.2) ∘ (fun s => (s, severityCount findings s))
      = severityCount findings := rfl
  have hall : (Severity.all.map (severityCount findings)).sum = findings.length := by
    clear hsnd
    induction findings with
    | nil => rfl
    | cons f rest ih =>
      rw [List.length_cons, ← ih]
      simp only [Severity.all, severityCount, List.map_cons, List.map_nil, List.sum_cons,
        List.sum_nil, List.countP_cons]
      cases f.severity <;> simp <;> omega
  rw [gradeCounts, List.map_map, hsnd, sum_counts_filter, hall]

/-! ## Tables -/

/-- The lines below the findings. -/
def linesBelow (r : Report) : List (List Char) :=
  (diagnosticLines r.diagnostics
    ++ ["---", s!"*Exported by smell-audit {r.version}*", ""]).flatMap splitLines

/-- Where there are findings, the lines of a report are those of its heading, the lines of the
two tables, and those of what follows. -/
theorem splitLines_render_of_findings {r : Report} (h : r.findings ≠ []) :
    splitLines (render r)
      = (headLines r).flatMap splitLines
        ++ (findingLines r.findings).map String.toList ++ linesBelow r := by
  have hempty : ¬r.findings.isEmpty = true := mt List.isEmpty_iff.mp h
  -- Only the lines of the two tables are known to be single ones; the heading quotes a name.
  have hplain : ∀ l ∈ findingLines r.findings, '\n' ∉ l.toList := by
    rw [findingLines, if_neg hempty, severityRows_eq, findingRows_eq]
    simp only [List.forall_mem_append, List.forall_mem_map, toList_gradeRow, toList_findingRow,
      newline_not_mem_row, not_false_eq_true, implies_true, and_true]
    decide
  rw [splitLines_render, lines, List.append_assoc (headLines r ++ _), List.flatMap_append,
    List.flatMap_append, flatMap_splitLines hplain, linesBelow]

/-- **Tables read back.** Where a report has findings, the lines of its Markdown are those of
the heading, the table of grades, the table of findings, an empty line and what follows. The
table of findings has one line for each finding, in their order and counted from one; such a
line has eight pieces, two empty ones around those that show the number, the line, the grade in
capitals, the name, the description and the message, with a blank for each line feed. The
table of grades has one line for each grade that occurs, gravest first, with the number of
its findings, and these numbers sum to the number of findings. -/
theorem tables_read_back {r : Report} (h : r.findings ≠ []) :
    ∃ gradeRows rows,
      splitLines (render r)
          = (headLines r).flatMap splitLines
            ++ ["## By Severity", "", "| Severity | Count |", "|----------|------:|"].map
              String.toList
            ++ gradeRows
            ++ ["", "## Findings", ""].map String.toList
            ++ ["| # | Line | Severity | Pattern | Description | Suggestion |",
                "|--:|-----:|----------|---------|-------------|------------|"].map String.toList
            ++ rows ++ [[]] ++ linesBelow r
        ∧ rows.length = r.count
        ∧ List.Forall₂
            (fun (p : Finding × Nat) line => (splitRow false line).length = 8
              ∧ RowShows [(toString p.2).toList, (toString p.1.line).toList,
                  p.1.severity.text.toList.map Char.toUpper, onOneLine p.1.name,
                  onOneLine p.1.description, onOneLine p.1.message] line)
            (r.findings.zipIdx 1) rows
        ∧ ∃ counts : List (Severity × Nat),
            counts.map (·.1)
                = [.high, .medium, .low].filter
                  (fun s => decide (∃ f ∈ r.findings, f.severity = s))
              ∧ (∀ g ∈ counts, g.2 = r.findings.countP (·.severity = g.1))
              ∧ (counts.map (·.2)).sum = r.count
              ∧ List.Forall₂
                  (fun (g : Severity × Nat) line => RowShows
                    [g.1.text.toList.map Char.toUpper, (toString g.2).toList] line)
                  counts gradeRows := by
  have hempty : ¬r.findings.isEmpty = true := mt List.isEmpty_iff.mp h
  refine ⟨(severityRows r.findings).map String.toList,
    (findingRows 1 r.findings).map String.toList, ?_, ?_, ?_, gradeCounts r.findings,
    grades_gradeCounts r.findings, ?_, sum_gradeCounts r.findings, ?_⟩
  · rw [splitLines_render_of_findings h, findingLines, if_neg hempty]
    simp only [List.map_append, List.append_assoc]
    rfl
  · rw [List.length_map, findingRows_eq, List.length_map, List.length_zipIdx, Report.count]
  · rw [findingRows_eq, List.map_map, List.forall₂_map_right_iff, List.forall₂_same]
    exact fun p _ => rowShows_findingRow p.2 p.1
  · exact List.forall_mem_map.mpr fun s _ => rfl
  · rw [severityRows_eq, List.map_map, List.forall₂_map_right_iff, List.forall₂_same]
    exact fun g _ => rowShows_gradeRow g

/-- A report whose texts end in a backslash, begin with one before a pipe, and are empty. -/
def oddTexts : Report :=
  { findings := [⟨"any-type", "a|b\\", "\\|\n", -7, "", .medium⟩]
    variant := .tsx
    filename := some "|\n## Findings"
    totalLines := 1
    diagnostics := []
    version := "" }

theorem tables_read_back_oddTexts :
    oddTexts.findings ≠ []
      ∧ ∃ line ∈ splitLines (render oddTexts),
          RowShows ["1".toList, "-7".toList, "MEDIUM".toList, "a|b\\".toList, "\\| ".toList, []]
            line := by
  have hfindings : oddTexts.findings ≠ [] := List.cons_ne_nil _ _
  obtain ⟨_, rows, hlines, -, hrows, -⟩ := tables_read_back hfindings
  obtain ⟨line, _, ⟨-, hline⟩, -, rfl⟩ := List.forall₂_cons_left_iff.mp hrows
  refine ⟨hfindings, line, ?_, hline⟩
  rw [hlines]
  simp

end CodeSmell.Markdown
