import ConditionLang.Command.Argument
import ConditionLang.Proofs.Composition
import ConditionLang.Proofs.Markers

/-!
# Blocks of expressions that are given one by one

Expressions without line feeds, joined by line feeds, are the lines of their block again (`loadLines_joined`), and each of these
lines has a marker, written or put in front. So a block that loads has one condition for each expression, in order, and the
numbers of the lines count the expressions (`load_block`).

An expression that gets its marker is read behind it as any other line is, with the same word in front for an alternative. So
it becomes a line that must hold, except if the word `or` stands by itself in front of it (`isOr_of_unmarked`).
-/

namespace ConditionLang

/-! ## Ends of texts -/

namespace Text

/-- Trimming the end of a text cuts it. -/
theorem trimEnd_prefix (s : List Char) : trimEnd s <+: s := by
  refine ⟨(s.reverse.takeWhile isBlank).reverse, ?_⟩
  rw [trimEnd, ← List.reverse_append, List.takeWhile_append_dropWhile, List.reverse_reverse]

/-- A character that is no blank stands when the end is trimmed. -/
theorem trimEnd_cons_of_not_isBlank {c : Char} (h : isBlank c = false) (s : List Char) :
    trimEnd (c :: s) = c :: trimEnd s := by
  have hc : ¬isBlank c = true := by rw [h]; exact Bool.false_ne_true
  rw [trimEnd, trimEnd, List.reverse_cons, List.dropWhile_append, List.dropWhile_cons_of_neg hc]
  split
  · rename_i hnil
    rw [List.isEmpty_iff.mp hnil]
    rfl
  · rw [List.reverse_append]
    rfl

/-- A line without line feeds is collected up to its end. -/
theorem linesAfter_append {t : List Char} (h : '\n' ∉ t) (line s : List Char) :
    linesAfter line (t ++ s) = linesAfter (t.reverse ++ line) s := by
  induction t generalizing line with
  | nil => rfl
  | cons c t ih =>
    have hc : c ≠ '\n' := (List.ne_of_not_mem_cons h).symm
    rw [List.cons_append, linesAfter, if_neg hc, ih (List.not_mem_of_not_mem_cons h), List.reverse_cons,
      List.append_assoc, List.singleton_append]

end Text

/-! ## Joined lines -/

/-- A line with a marker is read as a condition or fails. -/
theorem ConditionLine.parse?_ne_none {mode : LexMode} {n : Nat} {raw body : List Char} (h : body? raw = some body) :
    parse? mode n raw ≠ .ok none := by
  intro hparse
  rw [parse?, h] at hparse
  dsimp only at hparse
  cases hexpr : Expr.parse mode (splitOr body).2 with
  | error e =>
    rw [hexpr] at hparse
    cases hparse
  | ok e =>
    rw [hexpr] at hparse
    cases hparse

namespace Block

variable {mode : LexMode} {n : Nat}

/-- The first line of a text is loaded by itself. -/
theorem loadLines_lines_append {t : List Char} (h : '\n' ∉ t) (rest : List Char) :
    loadLines mode n (Text.lines (t ++ '\n' :: rest)) = loadLines mode n (t :: Text.lines rest) := by
  rw [Text.lines, Text.linesAfter_append h, Text.linesAfter, if_pos rfl, List.append_nil, List.reverse_reverse]
  exact loadLines_cons_congr (ConditionLine.parse?_dropReturn t) rfl

/-- A text without line feeds is loaded as one line. -/
theorem loadLines_lines_self {t : List Char} (h : '\n' ∉ t) :
    loadLines mode n (Text.lines t) = loadLines mode n [t] := by
  have hlines := Text.linesAfter_append h [] []
  rw [List.append_nil, List.append_nil] at hlines
  rw [Text.lines, hlines]
  cases t with
  | nil => rfl
  | cons c t => rw [Text.linesAfter, List.isEmpty_reverse, List.isEmpty_cons, if_neg Bool.false_ne_true, List.reverse_reverse]

/-- Lines that are joined by line feeds load as they do one by one. -/
theorem loadLines_joined {texts : List (List Char)} (h : ∀ t ∈ texts, '\n' ∉ t) :
    loadLines mode n (Text.lines (['\n'].intercalate texts)) = loadLines mode n texts := by
  induction texts generalizing n with
  | nil => rfl
  | cons t texts ih =>
    obtain ⟨ht, htexts⟩ := List.forall_mem_cons.mp h
    cases texts with
    | nil =>
      rw [List.intercalate_singleton]
      exact loadLines_lines_self ht
    | cons u texts =>
      rw [List.intercalate_cons_cons, List.append_assoc, List.singleton_append, loadLines_lines_append ht]
      exact loadLines_cons_congr rfl (ih htexts)

/-- Of lines with markers that load, each is a condition. -/
theorem parse?_of_loadLines {raws : List (List Char)} {lines : List ConditionLine}
    (hmarked : ∀ raw ∈ raws, ∃ body, ConditionLine.body? raw = some body) (h : loadLines mode n raws = .ok lines) :
    lines.length = raws.length ∧
      ∀ i raw l, raws[i]? = some raw → lines[i]? = some l → ConditionLine.parse? mode (n + i) raw = .ok (some l) := by
  induction raws generalizing n lines with
  | nil =>
    cases h
    exact ⟨rfl, fun i raw l hraw => nomatch hraw⟩
  | cons raw raws ih =>
    obtain ⟨⟨body, hbody⟩, hmarked⟩ := List.forall_mem_cons.mp hmarked
    obtain ⟨_ | l, later, hparse, -, hrest, rfl⟩ := loadLines_cons_eq_ok_iff.mp h
    · exact absurd hparse (ConditionLine.parse?_ne_none hbody)
    · obtain ⟨hlength, hlater⟩ := ih hmarked hrest
      refine ⟨congrArg (· + 1) hlength, fun i raw' l' hraw hl => ?_⟩
      cases i with
      | zero =>
        cases hraw
        cases hl
        exact hparse
      | succ i =>
        rw [← Nat.add_assoc, Nat.add_right_comm]
        exact hlater i raw' l' hraw hl

end Block

/-! ## The word that makes an alternative -/

namespace ConditionLine

/-- What is cut off a text as its comment starts with `#`. -/
theorem exists_eq_stripComment (quoted : Bool) (s : List Char) :
    ∃ comment, s = stripComment quoted s ++ comment ∧ ∀ c ∈ comment.head?, c = '#' := by
  induction s generalizing quoted with
  | nil => exact ⟨[], rfl, fun _ hc => nomatch hc⟩
  | cons c s ih =>
    rw [stripComment]
    split
    · rename_i hhash
      refine ⟨c :: s, rfl, ?_⟩
      rintro _ ⟨⟩
      exact hhash.1
    · obtain ⟨comment, hs, hcomment⟩ := ih (if c = '"' then !quoted else quoted)
      exact ⟨comment, congrArg (c :: ·) hs, hcomment⟩

/-- No comment and no quotation starts in a text without their marks. -/
theorem stripComment_append_plain {plain : List Char} (h : ∀ c ∈ plain, c ≠ '#' ∧ c ≠ '"') (quoted : Bool) (s : List Char) :
    stripComment quoted (plain ++ s) = plain ++ stripComment quoted s := by
  induction plain with
  | nil => rfl
  | cons c plain ih =>
    obtain ⟨⟨hhash, hquote⟩, hplain⟩ := List.forall_mem_cons.mp h
    rw [List.cons_append, stripComment, if_neg fun h => hhash h.1, if_neg hquote, ih hplain, List.cons_append]

/-- A condition text is an alternative if and only if it starts with the word `or`, before a blank or the end. -/
theorem splitOr_fst_iff {s : List Char} :
    (splitOr s).1 = true ↔ ∃ rest, s = 'o' :: 'r' :: rest ∧ rest.head?.all Text.isBlank = true := by
  unfold splitOr
  split
  · rename_i rest
    by_cases hblank : rest.head?.all Text.isBlank = true
    · rw [if_pos hblank]
      exact iff_of_true rfl ⟨rest, rfl, hblank⟩
    · rw [if_neg hblank]
      refine iff_of_false Bool.false_ne_true ?_
      rintro ⟨_, ⟨⟩, h⟩
      exact hblank h
  · rename_i hword
    exact iff_of_false Bool.false_ne_true fun ⟨rest, h, _⟩ => hword rest h

/-- The text starts, after blanks, with the word `or` by itself: a blank, a comment or the end of the text follows. -/
def SaysOr (text : List Char) : Prop :=
  ∃ rest, Text.trimStart text = 'o' :: 'r' :: rest ∧ ∀ c ∈ rest.head?, Text.isBlank c = true ∨ c = '#'

/-- The word is still there when comment and blanks are cut off. -/
theorem SaysOr.splitOr {text : List Char} (h : SaysOr text) :
    (splitOr (Text.trim (stripComment false text))).1 = true := by
  obtain ⟨rest, htext, hrest⟩ := h
  have hblanks : (text.takeWhile Text.isBlank).all Text.isBlank = true := List.all_takeWhile
  have hsplit : text = (text.takeWhile Text.isBlank ++ ['o', 'r']) ++ rest := by
    rw [List.append_assoc]
    show text = text.takeWhile Text.isBlank ++ 'o' :: 'r' :: rest
    rw [← htext, Text.trimStart, List.takeWhile_append_dropWhile]
  have hplain : ∀ c ∈ text.takeWhile Text.isBlank ++ ['o', 'r'], c ≠ '#' ∧ c ≠ '"' := by
    refine List.forall_mem_append.mpr ⟨fun c hc => ?_, by simp⟩
    have hc := List.all_eq_true.mp hblanks c hc
    constructor
    · rintro rfl
      cases hc
    · rintro rfl
      cases hc
  have htrim : Text.trimStart (stripComment false text) = 'o' :: 'r' :: stripComment false rest := by
    rw [hsplit, stripComment_append_plain hplain, List.append_assoc]
    exact Lexeme.dropWhile_append_of_stops hblanks (by rintro _ ⟨⟩; rfl)
  rw [splitOr_fst_iff, Text.trim, htrim, Text.trimEnd_cons_of_not_isBlank rfl, Text.trimEnd_cons_of_not_isBlank rfl]
  refine ⟨_, rfl, (Option.all_eq_true _ _).mpr fun c hc => ?_⟩
  obtain ⟨tail, htail⟩ := List.head?_eq_some_iff.mp hc
  obtain ⟨blanks, hback⟩ := Text.trimEnd_prefix (stripComment false rest)
  obtain ⟨comment, hcomment, -⟩ := exists_eq_stripComment false rest
  rw [htail, List.cons_append] at hback
  refine (hrest c ?_).resolve_right (hback ▸ hashesQuoted_stripComment rest).head_ne
  rw [hcomment, ← hback]
  rfl

/-- A word that is split off has nothing, blanks or a comment behind it. -/
theorem saysOr_of_splitOr {text : List Char} (h : (ConditionLine.splitOr (Text.trim (stripComment false text))).1 = true) :
    SaysOr text := by
  obtain ⟨rest, hrest, hblank⟩ := splitOr_fst_iff.mp h
  obtain ⟨front, back, hstripped, hfront, hback⟩ := Text.exists_eq_trim (stripComment false text)
  obtain ⟨comment, hcomment, hhash⟩ := exists_eq_stripComment false text
  refine ⟨rest ++ (back ++ comment), ?_, fun c hc => ?_⟩
  · rw [hcomment, hstripped, hrest, List.append_assoc, List.append_assoc]
    exact Lexeme.dropWhile_append_of_stops hfront (by rintro _ ⟨⟩; rfl)
  · rw [List.head?_append, List.head?_append] at hc
    cases rest with
    | cons d rest =>
      cases hc
      exact .inl hblank
    | nil =>
      cases back with
      | cons d back =>
        cases hc
        exact .inl (List.all_eq_true.mp hback _ List.mem_cons_self)
      | nil => exact .inr (hhash c hc)

end ConditionLine

/-! ## Blocks of arguments -/

namespace Argument

open ConditionLine (SaysOr body?_eq_some_iff parse?_eq_some_iff)

variable {expr : String}

/-- An expression without a marker gets one. -/
theorem line_of_unmarked (h : (Text.trimStart expr.toList).head? ≠ some '>') :
    (line expr).toList = '>' :: ' ' :: expr.toList := by
  rw [line, if_neg h, String.toList_append]
  rfl

/-- The line of an expression has a marker. -/
theorem exists_body?_line (expr : String) : ∃ body, ConditionLine.body? (line expr).toList = some body := by
  by_cases h : (Text.trimStart expr.toList).head? = some '>'
  · obtain ⟨rest, hrest⟩ := List.head?_eq_some_iff.mp h
    refine ⟨_, body?_eq_some_iff.mpr ⟨rest, ?_, rfl⟩⟩
    rw [line, if_pos h, hrest]
  · refine ⟨_, body?_eq_some_iff.mpr ⟨' ' :: expr.toList, ?_, rfl⟩⟩
    rw [line_of_unmarked h]
    rfl

/-- The line of an expression without line feeds has none. -/
theorem newline_not_mem_line (h : '\n' ∉ expr.toList) : '\n' ∉ (line expr).toList := by
  by_cases hmarked : (Text.trimStart expr.toList).head? = some '>'
  · rwa [line, if_pos hmarked]
  · rw [line_of_unmarked hmarked]
    simpa using h

/-- A line with the marker put in front is an alternative if and only if the expression says so. -/
theorem isOr_of_unmarked {mode : LexMode} {n : Nat} {l : ConditionLine}
    (hunmarked : (Text.trimStart expr.toList).head? ≠ some '>')
    (h : ConditionLine.parse? mode n (line expr).toList = .ok (some l)) : l.isOr = true ↔ SaysOr expr.toList := by
  obtain ⟨body, hbody, -, hor, -⟩ := parse?_eq_some_iff.mp h
  obtain ⟨rest, hrest, rfl⟩ := body?_eq_some_iff.mp hbody
  rw [line_of_unmarked hunmarked] at hrest
  obtain rfl : ' ' :: expr.toList = rest := (List.cons.inj hrest).2
  have hsays : SaysOr (' ' :: expr.toList) ↔ SaysOr expr.toList := Iff.rfl
  rw [hor, ← hsays]
  exact ⟨ConditionLine.saysOr_of_splitOr, SaysOr.splitOr⟩

/-- A block of expressions that loads has one line for each of them, with its number. A line to which no marker was written is
an alternative if and only if the expression says so by the word `or` in front, and must hold in all other cases. -/
theorem load_block (mode : LexMode) (exprs : List String) (lines : List ConditionLine)
    (hplain : ∀ expr ∈ exprs, '\n' ∉ expr.toList) (h : Block.load mode (block exprs).toList = .ok lines) :
    lines.length = exprs.length ∧
      ∀ i expr l, exprs[i]? = some expr → lines[i]? = some l →
        l.line = i + 1 ∧
        ((Text.trimStart expr.toList).head? ≠ some '>' →
          (l.isOr = true ↔ ConditionLine.SaysOr expr.toList)) := by
  have htexts : (block exprs).toList = ['\n'].intercalate (exprs.map fun expr => (line expr).toList) := by
    rw [block, String.toList_intercalate, List.map_map]
    rfl
  rw [Block.load, htexts, Block.loadLines_joined] at h
  · obtain ⟨hlength, hparse⟩ := Block.parse?_of_loadLines (List.forall_mem_map.mpr fun expr _ => exists_body?_line expr) h
    refine ⟨by rw [hlength, List.length_map], fun i expr l hexpr hl => ?_⟩
    have hline := hparse i (line expr).toList l (by rw [List.getElem?_map, hexpr]; rfl) hl
    refine ⟨?_, fun hunmarked => isOr_of_unmarked hunmarked hline⟩
    rw [ConditionLine.line_of_parse? hline, Nat.add_comm]
  · exact List.forall_mem_map.mpr fun expr hexpr => newline_not_mem_line (hplain expr hexpr)

/-- A comment and a carriage return behind an expression, a marker that was written, and the word in front. -/
theorem load_block_of_three :
    let exprs := ["x # or\r", " > or True", "\tor x"]
    let lines : List ConditionLine := [⟨.reference ⟨"x", []⟩, false, 1⟩, ⟨.truth true, true, 2⟩, ⟨.reference ⟨"x", []⟩, true, 3⟩]
    (∀ expr ∈ exprs, '\n' ∉ expr.toList) ∧ Block.load .lenient (block exprs).toList = .ok lines ∧
      lines.length = exprs.length ∧
      ∀ i expr l, exprs[i]? = some expr → lines[i]? = some l →
        l.line = i + 1 ∧
        ((Text.trimStart expr.toList).head? ≠ some '>' →
          (l.isOr = true ↔ ConditionLine.SaysOr expr.toList)) := by
  intro exprs lines
  have hplain : ∀ expr ∈ ["x # or\r", " > or True", "\tor x"], '\n' ∉ expr.toList := by decide
  have htext : block exprs = "> x # or\r\n > or True\n> \tor x" := by decide
  have hload : Block.load .lenient (block exprs).toList = .ok lines := by
    rw [htext]
    cbv
  exact ⟨hplain, hload, load_block .lenient exprs lines hplain hload⟩

/-- An expression without marker that becomes an alternative. -/
theorem alternative_without_marker :
    let expr := "or True"
    '\n' ∉ expr.toList ∧ (Text.trimStart expr.toList).head? ≠ some '>' ∧
      Block.load .lenient (block [expr]).toList = .ok [⟨.truth true, true, 1⟩] := by
  have htext : block ["or True"] = "> or True" := by decide
  refine ⟨by decide, by decide, ?_⟩
  rw [htext]
  cbv

end Argument

end ConditionLang
