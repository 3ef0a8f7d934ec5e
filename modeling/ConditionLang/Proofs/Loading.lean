import ConditionLang.Diagnostic.Report
import ConditionLang.Proofs.Linting

/-!
# Loading a block and reporting on it

`Block.loadLines` ends at the first line at fault, `Report.lineErrors` goes on to the last line. Both read the same lines: a
text loads if and only if no line has an error (`loadLines_eq_ok_iff`), and otherwise the error of loading is the first of the
errors of the lines (`head?_lineErrors_of_loadLines`).

A report sorts errors and warnings together by their lines. The sort is stable and both parts are in the order of their lines
already, so each part stands in the report as it was (`filter_mergeSort_of_pairwise`).
-/

namespace ConditionLang

/-- A stable sort keeps the order of the items with a property when they are sorted already. -/
theorem filter_mergeSort_of_pairwise {α : Type} {le : α → α → Bool} (p : α → Bool)
    (trans : ∀ a b c, le a b → le b c → le a c) (total : ∀ a b, le a b || le b a) {l : List α}
    (h : (l.filter p).Pairwise (le · ·)) : (l.mergeSort le).filter p = l.filter p := by
  have hsub : (l.filter p).Sublist (l.mergeSort le) := List.sublist_mergeSort trans total h List.filter_sublist
  have hsub' : (l.filter p).Sublist ((l.mergeSort le).filter p) := by
    have := hsub.filter p
    rwa [List.filter_filter, List.filter_congr (fun a _ => Bool.and_self (p a))] at this
  -- Both filters keep equally many items, so that the one is the whole of the other.
  exact (hsub'.eq_of_length ((List.mergeSort_perm l le).filter p).length_eq.symm).symm

/-! ## Severities -/

namespace Check

/-- What is wrong with a call is an error. -/
theorem severity_of_mem_callFindings {target : Option Expr} {name : String} {args : List Expr} {f : Finding}
    (h : f ∈ callFindings target name args) : f.severity = .error := by
  unfold callFindings targetFindings countFindings patternFindings at h
  grind [Finding.severity]

/-- What is wrong with the names of a binding is an error. -/
theorem severity_of_mem_nameFindings {names : List String} {f : Finding} (h : f ∈ nameFindings names) :
    f.severity = .error := by
  unfold nameFindings at h
  grind [Finding.severity]

end Check

namespace Expr

mutual

/-- The checker finds errors only. -/
theorem severity_of_mem_findings {f : Finding} : ∀ {e : Expr}, f ∈ e.findings → f.severity = .error
  | .number _, h | .truth _, h | .text _, h | .range _ _, h | .reference _, h => by
    simp only [findings, List.not_mem_nil] at h
  | .sequence items, h => by
    rw [findings] at h
    exact severity_of_mem_findingsOfItems h
  | .dictionary pairs, h => by
    rw [findings] at h
    exact severity_of_mem_findingsOfPairs h
  | .binary _ left right, h => by
    rw [findings, List.mem_append] at h
    exact h.elim severity_of_mem_findings severity_of_mem_findings
  | .negation operand, h => by
    rw [findings] at h
    exact severity_of_mem_findings h
  | .binding value _, h => by
    rw [findings, List.mem_append] at h
    exact h.elim severity_of_mem_findings Check.severity_of_mem_nameFindings
  | .call _ args, h => by
    rw [findings, List.mem_append] at h
    exact h.elim Check.severity_of_mem_callFindings severity_of_mem_findingsOfItems
  | .method target _ args, h => by
    rw [findings, List.mem_append, List.mem_append] at h
    exact h.elim (fun h => h.elim Check.severity_of_mem_callFindings severity_of_mem_findings)
      severity_of_mem_findingsOfItems

theorem severity_of_mem_findingsOfItems {f : Finding} :
    ∀ {items : List Expr}, f ∈ findingsOfItems items → f.severity = .error
  | [], h => by simp only [findingsOfItems, List.not_mem_nil] at h
  | item :: items, h => by
    rw [findingsOfItems, List.mem_append] at h
    exact h.elim severity_of_mem_findings severity_of_mem_findingsOfItems

theorem severity_of_mem_findingsOfPairs {f : Finding} :
    ∀ {pairs : List (String × Expr)}, f ∈ findingsOfPairs pairs → f.severity = .error
  | [], h => by simp only [findingsOfPairs, List.not_mem_nil] at h
  | (_, value) :: pairs, h => by
    rw [findingsOfPairs, List.mem_append] at h
    exact h.elim severity_of_mem_findings severity_of_mem_findingsOfPairs

end

end Expr

/-! ## The order of lines -/

namespace ConditionLine

variable {mode : LexMode} {line : Nat} {raw : List Char} {l : ConditionLine}

/-- A line that reads is made of its condition text. -/
theorem parse?_eq_some_iff :
    parse? mode line raw = .ok (some l) ↔ ∃ body, body? raw = some body ∧
      Expr.parse mode (splitOr body).2 = .ok l.expr ∧ l.isOr = (splitOr body).1 ∧ l.line = line := by
  unfold parse?
  cases body? raw with
  | none => exact iff_of_false nofun fun ⟨_, h, _⟩ => nomatch h
  | some body =>
    dsimp only
    cases hparse : Expr.parse mode (splitOr body).2 with
    | error e =>
      refine iff_of_false (fun h => nomatch h) ?_
      rintro ⟨_, ⟨⟩, h, -⟩
      cases hparse.symm.trans h
    | ok e =>
      constructor
      · intro h
        cases h
        exact ⟨body, rfl, hparse, rfl, rfl⟩
      · rintro ⟨_, ⟨⟩, h, hor, rfl⟩
        cases hparse.symm.trans h
        obtain ⟨expr, isOr, line⟩ := l
        cases hor
        rfl

/-- A condition line that reads keeps the number of its line. -/
theorem line_of_parse? (h : parse? mode line raw = .ok (some l)) : l.line = line := by
  obtain ⟨body, -, -, -, hline⟩ := parse?_eq_some_iff.mp h
  exact hline

end ConditionLine

namespace Report

variable {mode : LexMode}

/-- The lines that read from a line on are that line or later ones. -/
theorem le_line_of_mem_readableLines {line : Nat} {raws : List (List Char)} {c : ConditionLine}
    (h : c ∈ readableLines mode line raws) : line ≤ c.line := by
  induction raws generalizing line with
  | nil => exact absurd h List.not_mem_nil
  | cons raw rest ih =>
    rw [readableLines] at h
    split at h
    · rename_i d hd
      rcases List.mem_cons.mp h with rfl | h
      · exact Nat.le_of_eq (ConditionLine.line_of_parse? hd).symm
      · exact Nat.le_of_succ_le (ih h)
    · exact Nat.le_of_succ_le (ih h)

/-- The lines that read are in the order of their numbers. -/
theorem pairwise_readableLines (line : Nat) (raws : List (List Char)) :
    (readableLines mode line raws).Pairwise (·.line < ·.line) := by
  induction raws generalizing line with
  | nil => exact List.Pairwise.nil
  | cons raw rest ih =>
    rw [readableLines]
    split
    · rename_i c hc
      refine List.pairwise_cons.mpr ⟨fun d hd => ?_, ih _⟩
      rw [ConditionLine.line_of_parse? hc]
      exact le_line_of_mem_readableLines hd
    · exact ih _

/-- The errors of one line of a text. -/
def errorsOfLine [PatternReports] (mode : LexMode) (line : Nat) (raw : List Char) : List Diagnostic :=
  match ConditionLine.parse? mode line raw with
  | .ok none => []
  | .ok (some condition) => condition.expr.findings.map (.ofFinding line)
  | .error e => [⟨line, .error, e.describe⟩]

theorem lineErrors_cons [PatternReports] (line : Nat) (raw : List Char) (rest : List (List Char)) :
    lineErrors mode line (raw :: rest) = errorsOfLine mode line raw ++ lineErrors mode (line + 1) rest := rfl

/-- An error of a line names the line. -/
theorem of_mem_errorsOfLine [PatternReports] {line : Nat} {raw : List Char} {d : Diagnostic}
    (h : d ∈ errorsOfLine mode line raw) : d.line = line ∧ d.severity = .error := by
  unfold errorsOfLine at h
  split at h
  · exact absurd h List.not_mem_nil
  · obtain ⟨f, hf, rfl⟩ := List.mem_map.mp h
    exact ⟨rfl, Expr.severity_of_mem_findings hf⟩
  · rw [List.mem_singleton.mp h]
    exact ⟨rfl, rfl⟩

/-- The errors of lines name these lines. -/
theorem of_mem_lineErrors [PatternReports] {line : Nat} {raws : List (List Char)} {d : Diagnostic}
    (h : d ∈ lineErrors mode line raws) : line ≤ d.line ∧ d.severity = .error := by
  induction raws generalizing line with
  | nil => exact absurd h List.not_mem_nil
  | cons raw rest ih =>
    rw [lineErrors_cons, List.mem_append] at h
    rcases h with h | h
    · obtain ⟨hl, hs⟩ := of_mem_errorsOfLine h
      exact ⟨Nat.le_of_eq hl.symm, hs⟩
    · obtain ⟨hl, hs⟩ := ih h
      exact ⟨Nat.le_of_succ_le hl, hs⟩

/-- The errors of lines are in the order of the lines. -/
theorem pairwise_lineErrors [PatternReports] (line : Nat) (raws : List (List Char)) :
    (lineErrors mode line raws).Pairwise (·.line ≤ ·.line) := by
  induction raws generalizing line with
  | nil => exact List.Pairwise.nil
  | cons raw rest ih =>
    rw [lineErrors_cons, List.pairwise_append]
    refine ⟨List.pairwise_of_forall_mem_list fun d hd d' hd' => ?_, ih _, fun d hd d' hd' => ?_⟩
    · exact Nat.le_of_eq ((of_mem_errorsOfLine hd).1.trans (of_mem_errorsOfLine hd').1.symm)
    · rw [(of_mem_errorsOfLine hd).1]
      exact Nat.le_of_succ_le (of_mem_lineErrors hd').1

/-! ## The parts of a report -/

/-- The warnings of a report about the lines of a text. -/
def warningsOf [PatternReports] (conditions : List ConditionLine) : List Diagnostic :=
  (Block.warnings conditions).map fun (line, f) => ⟨line, .warning, f.describe⟩

/-- A report sorts the errors of the lines and the warnings about them. -/
theorem check_eq [PatternReports] (text : List Char) :
    check mode text =
      (lineErrors mode 1 (Text.lines text) ++ warningsOf (readableLines mode 1 (Text.lines text))).mergeSort
        (fun a b => a.line ≤ b.line) := by
  have hwarnings : (Block.warnings (readableLines mode 1 (Text.lines text))).map
      (fun (line, f) => Diagnostic.ofFinding line f) = warningsOf (readableLines mode 1 (Text.lines text)) :=
    List.map_congr_left fun w hw => congrArg (Diagnostic.mk w.1 · w.2.describe) (Lint.of_mem_linesAfter hw).2
  rw [← hwarnings, check]

/-- The warnings of a report are marked as such. -/
theorem severity_of_mem_warningsOf [PatternReports] {conditions : List ConditionLine} {d : Diagnostic}
    (h : d ∈ warningsOf conditions) : d.severity = .warning := by
  obtain ⟨w, -, rfl⟩ := List.mem_map.mp h
  rfl

theorem le_line_trans (a b c : Diagnostic) (hab : decide (a.line ≤ b.line) = true)
    (hbc : decide (b.line ≤ c.line) = true) : decide (a.line ≤ c.line) = true := by
  rw [decide_eq_true_eq] at hab hbc ⊢
  exact Nat.le_trans hab hbc

theorem le_line_total (a b : Diagnostic) : (decide (a.line ≤ b.line) || decide (b.line ≤ a.line)) = true := by
  rw [Bool.or_eq_true, decide_eq_true_eq, decide_eq_true_eq]
  exact Nat.le_total a.line b.line

/-- A report is in the order of lines. -/
theorem pairwise_check [PatternReports] (text : List Char) : (check mode text).Pairwise (·.line ≤ ·.line) := by
  rw [check_eq]
  exact (List.pairwise_mergeSort le_line_trans le_line_total _).imp of_decide_eq_true

/-- The diagnostics of one severity stand in a report as they do before the sort. -/
theorem filter_check_of_pairwise [PatternReports] {text : List Char} {p : Diagnostic → Bool} {part : List Diagnostic}
    (hpart : (lineErrors mode 1 (Text.lines text) ++ warningsOf (readableLines mode 1 (Text.lines text))).filter p = part)
    (h : part.Pairwise (·.line ≤ ·.line)) : (check mode text).filter p = part := by
  rw [check_eq, ← hpart]
  exact filter_mergeSort_of_pairwise p le_line_trans le_line_total (by simpa [hpart] using h)

/-- The errors of a report are the errors of the lines. -/
theorem filter_error_check [PatternReports] (text : List Char) :
    (check mode text).filter (·.severity = .error) = lineErrors mode 1 (Text.lines text) := by
  refine filter_check_of_pairwise ?_ (pairwise_lineErrors 1 _)
  rw [List.filter_append, List.filter_eq_self.mpr, List.filter_eq_nil_iff.mpr, List.append_nil]
  · intro d hd
    simp [severity_of_mem_warningsOf hd]
  · intro d hd
    simp [(of_mem_lineErrors hd).2]

/-- A report without errors holds the warnings in the order of the linter. -/
theorem check_of_lineErrors_eq_nil [PatternReports] {text : List Char} (h : lineErrors mode 1 (Text.lines text) = []) :
    check mode text = warningsOf (readableLines mode 1 (Text.lines text)) := by
  rw [check_eq, h, List.nil_append]
  refine List.mergeSort_of_pairwise ?_
  have hlines := (@pairwise_readableLines mode 1 (Text.lines text)).imp Nat.le_of_lt
  refine List.pairwise_map.mpr ((Lint.pairwise_linesAfter hlines).imp ?_)
  simp

end Report

/-! ## Loading -/

namespace Block

variable {mode : LexMode}

/-- The lines that load are those that read. -/
theorem readableLines_of_loadLines {line : Nat} {raws : List (List Char)} {lines : List ConditionLine}
    (h : loadLines mode line raws = .ok lines) : Report.readableLines mode line raws = lines := by
  induction raws generalizing line lines with
  | nil =>
    cases h
    rfl
  | cons raw rest ih =>
    obtain ⟨condition, later, hparse, -, hrest, rfl⟩ := loadLines_cons_eq_ok_iff.mp h
    rw [Report.readableLines, hparse]
    cases condition with
    | none => exact ih hrest
    | some c => exact congrArg (c :: ·) (ih hrest)

/-- Lines load if and only if none of them has an error, and then all that read are loaded. -/
theorem loadLines_eq_ok_iff [PatternReports] {line : Nat} {raws : List (List Char)} {lines : List ConditionLine} :
    loadLines mode line raws = .ok lines ↔
      Report.lineErrors mode line raws = [] ∧ Report.readableLines mode line raws = lines := by
  induction raws generalizing line lines with
  | nil => simp [loadLines, Report.lineErrors, Report.readableLines]
  | cons raw rest ih =>
    rw [loadLines_cons_eq_ok_iff, Report.lineErrors_cons, List.append_eq_nil_iff, Report.errorsOfLine,
      Report.readableLines]
    rcases ConditionLine.parse? mode line raw with e | _ | c
    · constructor
      · rintro ⟨_, _, ⟨⟩, -⟩
      · rintro ⟨⟨⟨⟩, -⟩, -⟩
    · constructor
      · rintro ⟨_, later, ⟨⟩, -, hrest, rfl⟩
        exact ⟨⟨rfl, (ih.mp hrest).1⟩, (ih.mp hrest).2⟩
      · rintro ⟨⟨-, herrors⟩, hlines⟩
        have hnone : ∀ c ∈ (none : Option ConditionLine), c.expr.firstFinding? = none := by simp
        exact ⟨none, lines, rfl, hnone, ih.mpr ⟨herrors, hlines⟩, rfl⟩
    · rw [List.map_eq_nil_iff]
      constructor
      · rintro ⟨_, later, ⟨⟩, hc, hrest, rfl⟩
        obtain ⟨herrors, hlines⟩ := ih.mp hrest
        exact ⟨⟨List.head?_eq_none_iff.mp (hc c rfl), herrors⟩, congrArg (c :: ·) hlines⟩
      · rintro ⟨⟨hc, herrors⟩, rfl⟩
        have hfirst : ∀ d ∈ some c, d.expr.firstFinding? = none := by
          rintro d ⟨⟩
          rw [Expr.firstFinding?, hc, List.head?_nil]
        exact ⟨some c, _, rfl, hfirst, ih.mpr ⟨herrors, rfl⟩, rfl⟩

/-- The error of loading is the first error of the lines. -/
theorem head?_lineErrors_of_loadLines [PatternReports] {line : Nat} {raws : List (List Char)} {e : LoadError}
    (h : loadLines mode line raws = .error e) :
    ∃ d, (Report.lineErrors mode line raws).head? = some d ∧ d.line = e.line ∧
      e.describe = s!"line {d.line}: {d.message}" := by
  induction raws generalizing line with
  | nil => cases h
  | cons raw rest ih =>
    rw [loadLines] at h
    rw [Report.lineErrors_cons, Report.errorsOfLine]
    split at h
    · rename_i err hparse
      cases h
      exact ⟨⟨line, .error, err.describe⟩, by rw [hparse]; rfl, rfl, rfl⟩
    · rename_i hparse
      rw [hparse]
      exact ih h
    · rename_i c hparse
      split at h
      · rename_i f hf
        cases h
        obtain ⟨fs, hfs⟩ := List.head?_eq_some_iff.mp hf
        exact ⟨.ofFinding line f, by simp [hparse, hfs], rfl, rfl⟩
      · rename_i hf
        have hnil : c.expr.findings = [] := List.head?_eq_none_iff.mp hf
        simp only [hparse, hnil, List.map_nil, List.nil_append]
        cases hrest : loadLines mode (line + 1) rest with
        | error e' =>
          simp only [hrest, bind, Except.bind, Except.error.injEq] at h
          exact ih (h ▸ hrest)
        | ok later => simp [hrest, bind, Except.bind, pure, Except.pure] at h

end Block

/-- A text loads if and only if the report on it has no error; the report then holds the warnings about the lines that were
loaded, in their order. A text that does not load fails with the first error of the report. -/
theorem Report.check_agrees_with_load [PatternReports] (mode : LexMode) (text : List Char) :
    ((∃ lines, Block.load mode text = .ok lines) ↔ ∀ d ∈ Report.check mode text, d.severity ≠ .error) ∧
    (∀ lines, Block.load mode text = .ok lines →
      Report.check mode text = (Block.warnings lines).map fun (line, f) => ⟨line, .warning, f.describe⟩) ∧
    (∀ e, Block.load mode text = .error e →
      ∃ d, (Report.check mode text).find? (·.severity = .error) = some d ∧ d.line = e.line ∧
        e.describe = s!"line {d.line}: {d.message}") ∧
    (Report.check mode text).Pairwise (·.line ≤ ·.line) := by
  have herrors := @Report.filter_error_check mode _ text
  refine ⟨⟨?_, ?_⟩, ?_, ?_, Report.pairwise_check text⟩
  · rintro ⟨lines, h⟩ d hd hs
    have hmem : d ∈ Report.lineErrors mode 1 (Text.lines text) := by
      rw [← herrors]
      exact List.mem_filter.mpr ⟨hd, by simpa using hs⟩
    rw [(Block.loadLines_eq_ok_iff.mp h).1] at hmem
    exact absurd hmem List.not_mem_nil
  · intro h
    refine ⟨Report.readableLines mode 1 (Text.lines text), Block.loadLines_eq_ok_iff.mpr ⟨?_, rfl⟩⟩
    rw [← herrors, List.filter_eq_nil_iff]
    intro d hd
    simpa using h d hd
  · intro lines h
    obtain ⟨hnil, hlines⟩ := Block.loadLines_eq_ok_iff.mp h
    rw [Report.check_of_lineErrors_eq_nil hnil, hlines]
    rfl
  · intro e h
    rw [← List.head?_filter, herrors]
    exact Block.head?_lineErrors_of_loadLines h

end ConditionLang
