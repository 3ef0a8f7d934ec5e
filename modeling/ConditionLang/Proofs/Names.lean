import ConditionLang.Diagnostic.Check
import ConditionLang.Proofs.Image
import ConditionLang.Proofs.Joining

/-!
# Names that can be bound and read

The checker lets a binding bind the names of variables only, and the lexer and the parser decide which texts read as a
variable. They agree: a name may be bound if and only if it is read, when it is written alone, as the variable of that name
(`bindable_iff_readable`). A name is a single token, and what the parser takes for a variable has the shape of a name and is
not reserved, so that no text with blanks around it, with skipped characters or with anything else beside the name reads as
the variable that the text itself would name.
-/

namespace ConditionLang

namespace Expr

variable {name : String}

/-- The names that may be bound are the variables that can be written. -/
theorem writable_ofName_iff : (ofName name).Writable ↔ isBindable name = true := by
  rw [isBindable, Bool.and_eq_true, Bool.not_eq_true', Bool.eq_false_iff, ne_eq, List.contains_iff_mem]
  exact and_congr_right fun _ => and_iff_left (List.forall_mem_nil _)

/-- A name that may be bound is read as its variable. -/
theorem parse_name (mode : LexMode) (h : isBindable name = true) : parse mode name.toList = .ok (ofName name) := by
  obtain ⟨hshaped, hreserved, -⟩ := writable_ofName_iff.mpr h
  let p : Snippet := ⟨true, .name, name.toList⟩
  have hadmits : Token.Kind.name.Admits name.toList := hshaped
  have htokens : tokenize mode name.toList = .ok [p.token 0] := tokenizes_spell hadmits mode 0
  have htext : (p.token 0).text = name := String.ofList_toList
  have hnot : (p.token 0).isWord "not" = false := by
    have hne : name ≠ "not" := fun hname => hreserved (hname ▸ by decide)
    rw [Token.isWord, htext, beq_false_of_ne hne, Bool.and_false]
  have hends : Snippet.Ends [] := fun _ hp => nomatch hp
  have hpath : Parser.Reads (Parser.path (Snippet.cursor (p.token 0).stop (p.token 0).stop [])) []
      (Snippet.cursor (p.token 0).stop (p.token 0).stop []) := Parser.reads_path.mpr ⟨rfl, rfl⟩
  have hbase := Parser.reads_base_reference (t := p.token 0) rfl (htext ▸ hreserved) hpath
  rw [htext] at hbase
  have hread : Parser.Reads (Parser.level .disjunction (.start [p.token 0])) (ofName name)
      (Snippet.cursor (p.token 0).stop (p.token 0).stop []) := Snippet.reads_disjunction_of_base hends hnot hbase
  exact parse_eq_ok_iff.mpr ⟨_, htokens, (ofTokens_eq_ok_iff (List.cons_ne_nil _ _)).mpr ⟨_, hread, rfl⟩⟩

/-- Nothing is found in names if and only if there are some and all of them may be bound. -/
theorem nameFindings_eq_nil_iff {names : List String} :
    Check.nameFindings names = [] ↔ names ≠ [] ∧ ∀ name ∈ names, isBindable name = true := by
  simp [Check.nameFindings]

/-- In both modes a name may be bound if and only if the text of the name alone is read as the variable of that name. So the
checker has nothing against the names of a binding if and only if there are some and each of them can be read in this way. -/
theorem bindable_iff_readable :
    (∀ mode name, isBindable name = true ↔ parse mode name.toList = .ok (ofName name)) ∧
      ∀ mode value names, (binding value names).findings = value.findings ↔
        names ≠ [] ∧ ∀ name ∈ names, parse mode name.toList = .ok (ofName name) := by
  have hiff : ∀ mode name, isBindable name = true ↔ parse mode name.toList = .ok (ofName name) := fun mode name =>
    ⟨parse_name mode, fun h => writable_ofName_iff.mp (writable_of_parse h)⟩
  refine ⟨hiff, fun mode value names => ?_⟩
  rw [findings, List.append_right_eq_self, nameFindings_eq_nil_iff]
  simp only [hiff mode]

end Expr

end ConditionLang
