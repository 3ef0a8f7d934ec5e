import Mathlib.Data.List.Chain
import Mathlib.Data.List.TakeWhile
import ConditionLang.Proofs.Image

/-!
# Chains of operators

A chain is an operand and any number of links, each an operator and a further operand. Two things are said about a chain
without the parser: how it splits into a tree, again and again at the rightmost operator of the loosest level
(`treeOf_append`), and where the second comparison of a segment between `and` and `or` stands (`secondComparison?_eq_scan`).
-/

namespace ConditionLang

namespace Token

/-- The token is an operand by itself: a number, a quoted text, or a name that is not a connective. -/
def IsAtom (t : Token) : Prop :=
  match t.kind with
  | .number => Lexeme.IsNumeral t.text.toList
  | .quoted => True
  | .name => t.text ∉ connectives
  | .mark | .dotted => False

/-- The expression that such a token spells. -/
def atomExpr (t : Token) : Expr :=
  match t.kind with
  | .number => .number ((Number.read? t.text.toList).getD 0)
  | .quoted => .text t.text
  | _ => if t.text = "True" then .truth true else if t.text = "False" then .truth false else .ofName t.text

end Token

/-- An operand: an atom after any number of `not`. -/
structure Operand where
  negations : List Token
  atom : Token
  isNot : ∀ t ∈ negations, t.isWord "not" = true
  isAtom : atom.IsAtom

namespace Operand

def tokens (o : Operand) : List Token :=
  o.negations ++ [o.atom]

/-- The expression of an operand, negated once by every `not`. -/
def expr (o : Operand) : Expr :=
  o.negations.foldr (fun _ e => .negation e) o.atom.atomExpr

end Operand

/-- An operator, the token that spells it, and the operand after it. -/
structure Link where
  op : Operator
  token : Token
  operand : Operand
  spells : token.spells op = true

namespace Link

def tokens (l : Link) : List Token :=
  l.token :: l.operand.tokens

/-- The rank of the level of the operator; looser levels have greater ranks. -/
def rank (l : Link) : Nat :=
  (Snippet.levelOf l.op).rank

/-- Whether the operator is a comparison. -/
def compares (l : Link) : Bool :=
  l.op.isComparison

/-- Whether the operator is `and` or `or`. -/
def separates (l : Link) : Bool :=
  l.op == .and || l.op == .or

/-! ## The rightmost link of the loosest level -/

/-- The links before the rightmost one of the loosest level, that link, and the links after it. -/
def splitLoosest? : List Link → Option (List Link × Link × List Link)
  | [] => none
  | l :: links =>
    match splitLoosest? links with
    | none => some ([], l, links)
    | some (before, m, after) => if m.rank < l.rank then some ([], l, links) else some (l :: before, m, after)

/-- The split is at a link of these. -/
theorem eq_of_splitLoosest? {links before after : List Link} {m : Link}
    (h : splitLoosest? links = some (before, m, after)) : links = before ++ m :: after := by
  induction links generalizing before m after with
  | nil => cases h
  | cons l links ih =>
    rw [splitLoosest?] at h
    split at h
    · cases h
      rfl
    · rename_i before' m' after' heq
      split at h
      · cases h
        rfl
      · cases h
        rw [ih heq, List.cons_append]

/-- The split is at a link that is looser than all after it and no tighter than those before it. -/
theorem splitLoosest?_append {before after : List Link} {m : Link} (hbefore : ∀ l ∈ before, l.rank ≤ m.rank)
    (hafter : ∀ l ∈ after, l.rank < m.rank) : splitLoosest? (before ++ m :: after) = some (before, m, after) := by
  induction before with
  | nil =>
    rw [List.nil_append, splitLoosest?]
    split
    · rfl
    · rename_i before' m' after' heq
      have hmem : m' ∈ after := eq_of_splitLoosest? heq ▸ List.mem_append_right _ List.mem_cons_self
      rw [if_pos (hafter m' hmem)]
  | cons l before ih =>
    have hl : ¬m.rank < l.rank := Nat.not_lt.mpr (hbefore l List.mem_cons_self)
    rw [List.cons_append, splitLoosest?, ih fun l' hl' => hbefore l' (List.mem_cons_of_mem l hl')]
    simp only [if_neg hl]

/-- The links before and after the rightmost one of the loosest level are all the others. -/
theorem length_of_splitLoosest? {links before after : List Link} {m : Link}
    (h : splitLoosest? links = some (before, m, after)) : before.length + (after.length + 1) = links.length := by
  rw [eq_of_splitLoosest? h, List.length_append, List.length_cons]

/-! ## Comparisons too many -/

/-- Whether a comparison stands in the segment up to and including a link, told whether one stands before the link. Fails at a
second comparison. -/
def scanLink (compared : Bool) (l : Link) : Except Link Bool :=
  if l.separates then .ok false
  else if l.compares then if compared then .error l else .ok true
  else .ok compared

/-- Whether a comparison stands in the last segment of some links, told whether one stands before them in the first. Fails at
the first second comparison of a segment. -/
def scan (compared : Bool) (links : List Link) : Except Link Bool :=
  links.foldlM scanLink compared

/-- Links are scanned one after another. -/
theorem scan_cons (compared : Bool) (l : Link) (links : List Link) :
    scan compared (l :: links) = scanLink compared l >>= fun compared => scan compared links :=
  List.foldlM_cons

/-- Links in two lists are scanned one list after the other. -/
theorem scan_append (compared : Bool) (links links' : List Link) :
    scan compared (links ++ links') = scan compared links >>= fun compared => scan compared links' :=
  List.foldlM_append

/-- The first comparison too many in some segments, before the first of which a comparison stands or none. -/
def firstExcess? (compared : Bool) : List (List Link) → Option Link
  | [] => none
  | segment :: segments =>
    ((segment.filter compares)[if compared then 0 else 1]?).or
      (segments.findSome? fun segment => (segment.filter compares)[1]?)

/-- The first comparison too many is the second one of some segment. -/
theorem firstExcess?_false (segments : List (List Link)) :
    firstExcess? false segments = segments.findSome? fun segment => (segment.filter compares)[1]? := by
  cases segments with
  | nil => rfl
  | cons segment segments =>
    rw [firstExcess?, List.findSome?_cons, if_neg Bool.false_ne_true]
    cases (segment.filter compares)[1]? with
    | none => rfl
    | some l => rfl

/-- The scan fails at the first comparison too many. -/
theorem firstExcess?_splitOnP (compared : Bool) (links : List Link) :
    match scan compared links with
    | .ok _ => firstExcess? compared (links.splitOnP separates) = none
    | .error l => firstExcess? compared (links.splitOnP separates) = some l := by
  induction links generalizing compared with
  | nil => cases compared <;> rfl
  | cons l links ih =>
    obtain ⟨segment, segments, hsegments⟩ := List.exists_cons_of_ne_nil (List.splitOnP_ne_nil separates links)
    rw [List.splitOnP_cons_eq_if_modifyHead, scan_cons, scanLink]
    by_cases hseparates : l.separates = true
    · rw [if_pos hseparates, if_pos hseparates]
      have hrest := ih false
      rw [firstExcess?_false] at hrest
      exact hrest
    · rw [if_neg hseparates, if_neg hseparates, hsegments, List.modifyHead_cons, firstExcess?]
      rw [hsegments] at ih
      by_cases hcompares : l.compares = true
      · rw [if_pos hcompares, List.filter_cons_of_pos hcompares]
        cases compared with
        | true => rfl
        | false => exact ih true
      · rw [if_neg hcompares, List.filter_cons_of_neg hcompares]
        exact ih compared

/-- The link that is one comparison too many is a comparison after a comparison. -/
theorem of_scanLink_eq_error {compared : Bool} {l m : Link} (h : scanLink compared l = .error m) :
    m = l ∧ compared = true ∧ l.compares = true := by
  unfold scanLink at h
  split at h
  · cases h
  · split at h
    · rename_i hcompares
      split at h
      · rename_i hcompared
        cases h
        exact ⟨rfl, hcompared, hcompares⟩
      · cases h
    · cases h

/-- Where the scan fails, a comparison stands before the link in its segment. -/
theorem exists_of_scan_eq_error {compared : Bool} {links : List Link} {m : Link} (h : scan compared links = .error m) :
    ∃ before after, links = before ++ m :: after ∧ scan compared before = .ok true ∧ m.compares = true := by
  induction links generalizing compared with
  | nil => cases h
  | cons l links ih =>
    rw [scan_cons] at h
    cases hl : scanLink compared l with
    | error m' =>
      rw [hl] at h
      cases h
      obtain ⟨rfl, hcompared, hcompares⟩ := of_scanLink_eq_error hl
      exact ⟨[], links, rfl, congrArg Except.ok hcompared, hcompares⟩
    | ok compared' =>
      rw [hl] at h
      obtain ⟨before, after, rfl, hscan, hm⟩ := ih h
      refine ⟨l :: before, after, rfl, ?_, hm⟩
      rw [scan_cons, hl]
      exact hscan

/-! ## Links by rank -/

/-- A link separates segments or is no looser than a comparison. -/
theorem separates_or_rank_le (m : Link) : m.separates = true ∨ m.rank ≤ Expr.Level.comparison.rank := by
  unfold separates rank
  cases m.op <;> decide

/-- The comparisons are the links of their rank. -/
theorem compares_iff_rank (m : Link) : m.compares = true ↔ m.rank = Expr.Level.comparison.rank := by
  unfold compares rank
  cases m.op <;> decide

/-- A comparison has the rank of comparisons. -/
theorem rank_eq_of_compares {m : Link} (h : m.compares = true) : m.rank = Expr.Level.comparison.rank :=
  (compares_iff_rank m).mp h

/-- A link that is no looser than a comparison separates nothing. -/
theorem separates_eq_false_of_rank_le {m : Link} (h : m.rank ≤ Expr.Level.comparison.rank) : m.separates = false := by
  revert h
  unfold separates rank
  cases m.op <;> decide

/-- A scan passes over links that bind tighter than comparisons. -/
theorem scan_of_rank_lt {links : List Link} (h : ∀ m ∈ links, m.rank < Expr.Level.comparison.rank) (compared : Bool) :
    scan compared links = .ok compared := by
  induction links with
  | nil => rfl
  | cons m links ih =>
    have hm := h m List.mem_cons_self
    have hseparates : ¬m.separates = true := by
      rw [separates_eq_false_of_rank_le (Nat.le_of_lt hm)]
      exact Bool.false_ne_true
    rw [scan_cons, scanLink, if_neg hseparates, if_neg fun hcompares => Nat.ne_of_lt hm (rank_eq_of_compares hcompares)]
    exact ih fun l hl => h l (List.mem_cons_of_mem m hl)

/-- After a comparison in the same segment only links that bind tighter are passed over. -/
theorem rank_lt_of_scan {links : List Link} {compared : Bool} (h : ∀ m ∈ links, m.rank ≤ Expr.Level.comparison.rank)
    (hscan : scan true links = .ok compared) : ∀ m ∈ links, m.rank < Expr.Level.comparison.rank := by
  induction links with
  | nil => exact fun m hm => absurd hm List.not_mem_nil
  | cons m links ih =>
    have hm := h m List.mem_cons_self
    rw [scan_cons, scanLink, separates_eq_false_of_rank_le hm, if_neg Bool.false_ne_true] at hscan
    split at hscan
    · cases hscan
    · rename_i hcompares
      have hlt : m.rank < Expr.Level.comparison.rank :=
        Nat.lt_of_le_of_ne hm fun hrank => hcompares ((compares_iff_rank m).mpr hrank)
      intro m' hm'
      rcases List.mem_cons.mp hm' with rfl | hm'
      · exact hlt
      · exact ih (fun l hl => h l (List.mem_cons_of_mem m hl)) hscan m' hm'

/-- Links up to the first one of a rank greater than `r`. -/
theorem exists_split (r : Nat) (links : List Link) :
    ∃ before after, links = before ++ after ∧ (∀ m ∈ before, m.rank ≤ r) ∧ ∀ m ∈ after.head?, r < m.rank := by
  refine ⟨links.takeWhile (·.rank ≤ r), links.dropWhile (·.rank ≤ r), List.takeWhile_append_dropWhile.symm, ?_, ?_⟩
  · intro m hm
    have hle := List.mem_takeWhile_imp hm
    exact of_decide_eq_true hle
  · intro m hm
    have hnot := List.head?_dropWhile_not (fun m : Link => decide (m.rank ≤ r)) links
    rw [Option.mem_def.mp hm] at hnot
    simpa using hnot

end Link

/-- A chain of operators. -/
structure OperatorChain where
  first : Operand
  links : List Link

namespace OperatorChain

open Link

def tokens (chain : OperatorChain) : List Token :=
  chain.first.tokens ++ chain.links.flatMap Link.tokens

/-- The segments between the operators `and` and `or`. -/
def segments (chain : OperatorChain) : List (List Link) :=
  chain.links.splitOnP separates

/-- The second comparison of the first segment that has two. -/
def secondComparison? (chain : OperatorChain) : Option Link :=
  chain.segments.findSome? fun segment => (segment.filter compares)[1]?

/-- The tree of an operand and links, split again and again at the rightmost link of the loosest level. -/
def treeOf (first : Operand) (links : List Link) : Expr :=
  match h : splitLoosest? links with
  | none => first.expr
  | some (before, m, after) =>
    have := length_of_splitLoosest? h
    .binary m.op (treeOf first before) (treeOf m.operand after)
termination_by links.length
decreasing_by all_goals omega

/-- The tree of a chain. -/
def tree (chain : OperatorChain) : Expr :=
  treeOf chain.first chain.links

/-- Without links, the tree is the first operand. -/
theorem treeOf_nil (first : Operand) : treeOf first [] = first.expr := by
  rw [treeOf]
  rfl

/-- The tree is split at the rightmost link of the loosest level. -/
theorem treeOf_append (first : Operand) {before after : List Link} {m : Link} (hbefore : ∀ l ∈ before, l.rank ≤ m.rank)
    (hafter : ∀ l ∈ after, l.rank < m.rank) :
    treeOf first (before ++ m :: after) = .binary m.op (treeOf first before) (treeOf m.operand after) := by
  have hsplit := splitLoosest?_append hbefore hafter
  rw [treeOf]
  split
  · rename_i hnone
    rw [hsplit] at hnone
    cases hnone
  · rename_i before' m' after' hsome
    rw [hsplit] at hsome
    cases hsome
    rfl

/-- No comparison is too many if and only if every segment has at most one. -/
theorem secondComparison?_eq_none_iff (chain : OperatorChain) :
    chain.secondComparison? = none ↔ ∀ segment ∈ chain.segments, segment.countP compares ≤ 1 := by
  rw [secondComparison?, List.findSome?_eq_none_iff]
  refine forall₂_congr fun segment _ => ?_
  rw [List.getElem?_eq_none_iff, List.countP_eq_length_filter]

/-- A chain reads as far as the scan of its links goes. -/
theorem secondComparison?_eq_scan (chain : OperatorChain) :
    match scan false chain.links with
    | .ok _ => chain.secondComparison? = none
    | .error l => chain.secondComparison? = some l := by
  have h := firstExcess?_splitOnP false chain.links
  rw [firstExcess?_false] at h
  exact h

end OperatorChain

end ConditionLang
