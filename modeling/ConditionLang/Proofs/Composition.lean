import ConditionLang.Condition.Line

/-!
# Blocks of two texts

A text after another one, with a line feed between them, loads like the two by themselves, the lines of the second one moved
down (`load_append_newline`). The line feed may end a line or make an empty one, and it may turn a carriage return at the end
of the first text into the end of a line. Neither matters, because a line means the same with and without a carriage return
at its end (`parse?_append_return`) and an empty line means nothing.
-/

namespace ConditionLang

/-! ## Carriage returns at the end of lines -/

namespace Text

/-- A blank at the end is trimmed. -/
theorem trimEnd_append_of_isBlank {c : Char} (h : isBlank c = true) (s : List Char) : trimEnd (s ++ [c]) = trimEnd s := by
  rw [trimEnd, trimEnd, List.reverse_append, List.reverse_singleton, List.singleton_append,
    List.dropWhile_cons_of_pos h]

/-- A blank at the end of a text stays where it is or is the last of leading blanks. -/
theorem trimStart_append_of_isBlank {c : Char} (h : isBlank c = true) (s : List Char) :
    trimStart (s ++ [c]) = if (trimStart s).isEmpty then [] else trimStart s ++ [c] := by
  rw [trimStart, trimStart, List.dropWhile_append, List.dropWhile_cons_of_pos h, List.dropWhile_nil]

/-- A blank at the end is trimmed, together with the other end too. -/
theorem trim_append_of_isBlank {c : Char} (h : isBlank c = true) (s : List Char) : trim (s ++ [c]) = trim s := by
  rw [trim, trim, trimStart_append_of_isBlank h]
  split
  · rename_i hnil
    rw [List.isEmpty_iff.mp hnil]
  · exact trimEnd_append_of_isBlank h _

end Text

namespace ConditionLine

variable {mode : LexMode} {line : Nat} {raw : List Char}

/-- A character after a text belongs to its comment or stays behind it. -/
theorem stripComment_append {c : Char} (h : c ≠ '#') (quoted : Bool) (s : List Char) :
    stripComment quoted (s ++ [c]) = stripComment quoted s ∨
      stripComment quoted (s ++ [c]) = stripComment quoted s ++ [c] := by
  induction s generalizing quoted with
  | nil =>
    right
    simp [stripComment, h]
  | cons d s ih =>
    simp only [List.cons_append, stripComment]
    split
    · exact .inl rfl
    · exact (ih _).imp (congrArg (d :: ·)) (congrArg (d :: ·))

/-- A carriage return at the end of a line is in the comment or trimmed. -/
theorem trim_stripComment_append_return (s : List Char) :
    Text.trim (stripComment false (s ++ ['\r'])) = Text.trim (stripComment false s) := by
  rcases stripComment_append (by decide : '\r' ≠ '#') false s with h | h
  · rw [h]
  · rw [h, Text.trim_append_of_isBlank (by decide)]

/-- A line has the same condition text with and without a carriage return at its end. -/
theorem body?_append_return (raw : List Char) : body? (raw ++ ['\r']) = body? raw := by
  rw [body?, body?, Text.trimStart_append_of_isBlank (by decide)]
  cases Text.trimStart raw with
  | nil => rfl
  | cons c rest =>
    rw [List.isEmpty_cons, if_neg Bool.false_ne_true, List.cons_append]
    by_cases hc : c = '>'
    · subst hc
      exact congrArg some (trim_stripComment_append_return rest)
    · split
      · rename_i heq
        exact absurd (List.cons.inj heq).1 hc
      · split
        · rename_i heq
          exact absurd (List.cons.inj heq).1 hc
        · rfl

/-- A carriage return at the end of a line changes nothing of its condition. -/
theorem parse?_append_return (raw : List Char) : parse? mode line (raw ++ ['\r']) = parse? mode line raw := by
  rw [parse?, parse?, body?_append_return]

/-- The line end of either kind reads as the same condition. -/
theorem parse?_dropReturn (raw : List Char) : parse? mode line (Text.dropReturn raw) = parse? mode line raw := by
  unfold Text.dropReturn
  split
  · rename_i hlast
    obtain ⟨before, rfl⟩ := List.getLast?_eq_some_iff.mp hlast
    rw [List.dropLast_concat, parse?_append_return]
  · rfl

/-- The same line further down. -/
def moveDown (k : Nat) (l : ConditionLine) : ConditionLine :=
  { l with line := l.line + k }

/-- Conditions on later lines are the same with later numbers. -/
theorem parse?_add (k : Nat) : parse? mode (line + k) raw = (parse? mode line raw).map (Option.map (moveDown k)) := by
  unfold parse?
  cases body? raw with
  | none => rfl
  | some body =>
    dsimp only
    cases Expr.parse mode (splitOr body).2 <;> rfl

end ConditionLine

/-- The same error further down. -/
def LoadError.moveDown (k : Nat) : LoadError → LoadError
  | .unreadable line error => .unreadable (line + k) error
  | .refused line finding => .refused (line + k) finding

namespace Text

/-! ## Lines of two texts -/

/-- The lines of a text that is ended by a line feed stand before those of the text after it. -/
theorem linesAfter_append_newline (line a b : List Char) :
    linesAfter line (a ++ '\n' :: b) = linesAfter line (a ++ ['\n']) ++ lines b := by
  induction a generalizing line with
  | nil => rfl
  | cons c a ih =>
    simp only [List.cons_append, linesAfter]
    split
    · rw [ih, List.cons_append]
    · exact ih _

/-- A text that is ended by a line feed has as many lines as line feeds. -/
theorem length_linesAfter_newline (line a : List Char) :
    (linesAfter line (a ++ ['\n'])).length = 1 + a.count '\n' := by
  induction a generalizing line with
  | nil => rfl
  | cons c a ih =>
    simp only [List.cons_append, linesAfter, List.count_cons, beq_iff_eq]
    split
    · rw [List.length_cons, ih, Nat.add_assoc]
    · exact ih _

end Text

namespace Block

variable {mode : LexMode} {n : Nat}

/-! ## Loading lines -/

/-- Lines load alike if the first reads alike and the others load alike. -/
theorem loadLines_cons_congr {raw raw' : List Char} {rest rest' : List (List Char)}
    (hraw : ConditionLine.parse? mode n raw = ConditionLine.parse? mode n raw')
    (hrest : loadLines mode (n + 1) rest = loadLines mode (n + 1) rest') :
    loadLines mode n (raw :: rest) = loadLines mode n (raw' :: rest') := by
  rw [loadLines, loadLines, hraw, hrest]

/-- A line feed at the end of a text ends its last line or makes an empty one. -/
theorem loadLines_linesAfter_newline (line a : List Char) :
    loadLines mode n (Text.linesAfter line (a ++ ['\n'])) = loadLines mode n (Text.linesAfter line a) := by
  induction a generalizing line n with
  | nil =>
    cases line with
    | nil => rfl
    | cons c line => exact loadLines_cons_congr (ConditionLine.parse?_dropReturn _) rfl
  | cons c a ih =>
    simp only [List.cons_append, Text.linesAfter]
    split
    · exact loadLines_cons_congr rfl (ih [])
    · exact ih _

/-- A carriage return before a line feed belongs to the end of the line. -/
theorem loadLines_linesAfter_return (line x y : List Char) :
    loadLines mode n (Text.linesAfter line (x ++ '\r' :: '\n' :: y)) =
      loadLines mode n (Text.linesAfter line (x ++ '\n' :: y)) := by
  induction x generalizing line n with
  | nil =>
    have hreturn : Text.dropReturn ('\r' :: line).reverse = line.reverse := by simp [Text.dropReturn]
    simp only [List.nil_append, Text.linesAfter, if_neg (by decide : '\r' ≠ '\n'), if_pos, hreturn]
    exact loadLines_cons_congr (ConditionLine.parse?_dropReturn _).symm rfl
  | cons c x ih =>
    simp only [List.cons_append, Text.linesAfter]
    split
    · exact loadLines_cons_congr rfl (ih [])
    · exact ih _

/-- Lines after others load if both do, and otherwise fail like the first of them that do not. -/
theorem loadLines_append (xs ys : List (List Char)) :
    loadLines mode n (xs ++ ys) = do
      let before ← loadLines mode n xs
      let after ← loadLines mode (n + xs.length) ys
      return before ++ after := by
  induction xs generalizing n with
  | nil =>
    rw [List.nil_append, loadLines, List.length_nil, Nat.add_zero]
    cases loadLines mode n ys <;> rfl
  | cons raw xs ih =>
    have hn : n + (raw :: xs).length = n + 1 + xs.length := by
      rw [List.length_cons]
      omega
    rw [List.cons_append, loadLines, loadLines, ih, hn]
    cases ConditionLine.parse? mode n raw with
    | error e => rfl
    | ok c =>
      cases c with
      | none => rfl
      | some c =>
        dsimp only
        cases c.expr.firstFinding? with
        | some finding => rfl
        | none =>
          cases loadLines mode (n + 1) xs with
          | error e => rfl
          | ok before => cases loadLines mode (n + 1 + xs.length) ys <;> rfl

/-- Lines further down load to the same lines further down, or fail with the same error further down. -/
theorem loadLines_add (k : Nat) (raws : List (List Char)) :
    loadLines mode (n + k) raws =
      ((loadLines mode n raws).map (·.map (ConditionLine.moveDown k))).mapError (LoadError.moveDown k) := by
  induction raws generalizing n with
  | nil => rfl
  | cons raw rest ih =>
    rw [loadLines, loadLines, ConditionLine.parse?_add, Nat.add_right_comm, ih]
    cases ConditionLine.parse? mode n raw with
    | error e => rfl
    | ok c =>
      cases c with
      | none => rfl
      | some c =>
        simp only [Except.map, Option.map_some, ConditionLine.moveDown]
        cases c.expr.firstFinding? with
        | some finding => rfl
        | none => cases loadLines mode (n + 1) rest <;> rfl

/-- A text after another one loads as the lines of both, those of the second one moved down by the lines of the first.
Otherwise it fails as the first text does, or else as the second one does, moved down as well. A carriage return before a
line feed makes no difference. -/
theorem load_append_newline (mode : LexMode) (a b : List Char) :
    let k := 1 + a.count '\n'
    (∀ before after, load mode a = .ok before → load mode b = .ok after →
      load mode (a ++ '\n' :: b) = .ok (before ++ after.map (ConditionLine.moveDown k))) ∧
    (∀ e, load mode a = .error e → load mode (a ++ '\n' :: b) = .error e) ∧
    (∀ before e, load mode a = .ok before → load mode b = .error e →
      load mode (a ++ '\n' :: b) = .error (e.moveDown k)) ∧
    load mode (a ++ '\r' :: '\n' :: b) = load mode (a ++ '\n' :: b) := by
  intro k
  have hwhole : load mode (a ++ '\n' :: b) = do
      let before ← load mode a
      let after ← loadLines mode (1 + k) (Text.lines b)
      return before ++ after := by
    rw [load, Text.lines, Text.linesAfter_append_newline, loadLines_append, loadLines_linesAfter_newline,
      Text.length_linesAfter_newline]
    rfl
  rw [loadLines_add] at hwhole
  refine ⟨fun before after ha hb => ?_, fun e ha => ?_, fun before e ha hb => ?_, loadLines_linesAfter_return [] a b⟩
  · rw [hwhole, ha, ← load, hb]
    rfl
  · rw [hwhole, ha]
    rfl
  · rw [hwhole, ha, ← load, hb]
    rfl

end Block

end ConditionLang
