import ConditionLang.Proofs.OperatorChain

/-!
# The precedence of operators

The parser reads a chain of operators as the tree that the chain splits into, or fails at the second comparison of a segment
between `and` and `or` (`ofTokens_tokens`). A level reads the links up to its rank, as long as there is no comparison too many
among them (`Complete`): the operands of a level are read one rank below, and what an operator joins them to is, link by
link, the tree that splits at the rightmost operator (`reads_chain_beforeLinks`). So the statement for a level follows from
that for the next tighter one (`readsTree_level`).
-/

namespace ConditionLang

open ConditionLang.Parser

/-! ## Places before links -/

/-- The place before some links. -/
def Cursor.beforeLinks (before : Option Nat) (links : List Link) (limit : Nat) : Cursor :=
  ⟨before, links.flatMap Link.tokens, limit⟩

open Cursor Snippet

variable {before : Option Nat} {limit : Nat} {links : List Link}

/-- Before links, the operator of the first one comes next. -/
theorem exists_of_peek?_beforeLinks {t : Token} (h : (beforeLinks before links limit).peek? = some t) :
    ∃ m ∈ links.head?, t = m.token := by
  cases links with
  | nil => cases h
  | cons m links => exact ⟨m, rfl, (Option.some.inj h).symm⟩

/-- Before links, the operator of the first one is read at its own level. -/
theorem operator?_beforeLinks (l : Expr.Level) (m : Link) :
    operator? l (beforeLinks before (m :: links) limit) = if levelOf m.op = l then some m.op else none :=
  operator?_of_spells rfl m.spells l

/-- Before links, no mark comes next that is no operator. -/
theorem atMark_beforeLinks {m : String} (hm : ∀ op : Operator, op.symbol ≠ m) :
    (beforeLinks before links limit).atMark m = false := by
  cases links with
  | nil => rfl
  | cons l links => exact Token.isMark_eq_false_of_spells l.spells (hm l.op)

/-- Before links, only an operator of the level of the first one follows. -/
theorem not_follows_beforeLinks {l : Expr.Level} (h : ∀ m ∈ links.head?, levelOf m.op ≠ l) :
    ¬Follows l (beforeLinks before links limit) := by
  rintro (hop | ⟨-, hmark⟩)
  · cases links with
    | nil => cases l <;> cases hop
    | cons m links =>
      rw [operator?_beforeLinks, if_neg (h m rfl)] at hop
      cases hop
  · rw [atMark_beforeLinks fun op => by cases op <;> decide] at hmark
    cases hmark

/-! ## Operands -/

/-- Before links, no step is read. -/
theorem reads_path_beforeLinks : Reads (path (beforeLinks before links limit)) [] (beforeLinks before links limit) := by
  rw [reads_path]
  cases links with
  | nil => exact ⟨rfl, rfl⟩
  | cons m links =>
    have hbracket : m.token.isMark "[" = false :=
      Token.isMark_eq_false_of_spells m.spells (by cases m.op <;> decide)
    have hdotted := Token.kind_ne_dotted_of_spells m.spells
    show if m.token.isMark "[" = true then _ else _
    rw [if_neg (by rw [hbracket]; exact Bool.false_ne_true), if_neg fun h => hdotted h.1]
    exact ⟨rfl, rfl⟩

/-- Before links, no call is read. -/
theorem reads_methods_beforeLinks (e : Expr) :
    Reads (methods e (beforeLinks before links limit)) e (beforeLinks before links limit) := by
  refine reads_methods_of_kind_ne (fun t ht => ?_) e
  obtain ⟨m, -, rfl⟩ := exists_of_peek?_beforeLinks ht
  exact Token.kind_ne_dotted_of_spells m.spells

/-- No range starts at a token if the next token does not start where it ends. -/
theorem rangeEnd?_eq_none {t : Token} {c : Cursor} (h : ∀ u ∈ c.peek?, u.start ≠ t.stop) : rangeEnd? t c = none := by
  unfold rangeEnd?
  split
  · rename_i dots last rest hc
    have hpeek : dots ∈ c.peek? := by
      rw [Cursor.peek?, hc]
      rfl
    exact if_neg fun hrange => h dots hpeek hrange.2.1
  · rfl

/-- The links start apart from the token before them. -/
theorem reads_base_atom {t : Token} (ht : t.IsAtom) (hspaced : ∀ m ∈ links.head?, t.stop < m.token.start) :
    Reads (base t (beforeLinks before links limit)) t.atomExpr (beforeLinks before links limit) := by
  have hend : rangeEnd? t (beforeLinks before links limit) = none := by
    refine rangeEnd?_eq_none fun u hu => ?_
    obtain ⟨m, hm, rfl⟩ := exists_of_peek?_beforeLinks hu
    exact (hspaced m hm).ne'
  unfold Token.IsAtom at ht
  unfold Token.atomExpr
  cases hkind : t.kind with
  | number =>
    rw [hkind] at ht
    obtain ⟨x, hx, -⟩ := Number.exists_read?_of_isNumeral ht
    rw [hx]
    exact reads_base_number hkind hend hx
  | quoted =>
    rw [reads_base, hkind]
    exact ⟨rfl, rfl⟩
  | name =>
    rw [hkind] at ht
    rw [reads_base, hkind]
    dsimp only
    split
    · exact ⟨rfl, rfl⟩
    · split
      · exact ⟨rfl, rfl⟩
      · exact ⟨ht, [], reads_path_beforeLinks, rfl⟩
  | mark | dotted =>
    rw [hkind] at ht
    exact ht.elim

/-- No operand is the word `not`. -/
theorem Token.IsAtom.isWord_not {t : Token} (ht : t.IsAtom) : t.isWord "not" = false := by
  unfold Token.IsAtom at ht
  rw [Token.isWord, Bool.and_eq_false_iff]
  cases hkind : t.kind with
  | name =>
    right
    rw [hkind] at ht
    exact beq_false_of_ne fun htext => ht (htext ▸ by decide)
  | _ => exact .inl rfl

/-- An operand is read up to the links after it. -/
theorem reads_unary_operand (o : Operand) (hspaced : ∀ m ∈ links.head?, o.atom.stop < m.token.start) :
    Reads (unary ⟨before, o.tokens ++ links.flatMap Link.tokens, limit⟩) o.expr
      (beforeLinks (some o.atom.stop) links limit) := by
  obtain ⟨negations, atom, isNot, isAtom⟩ := o
  unfold Operand.tokens Operand.expr
  induction negations generalizing before with
  | nil =>
    have hnot : ¬(atom.isWord "not" = true) := by
      rw [isAtom.isWord_not]
      exact Bool.false_ne_true
    rw [reads_unary]
    refine (if_neg hnot).mpr (reads_primary.mpr ⟨atom, rfl, atom.atomExpr, _, reads_base_atom isAtom hspaced, ?_⟩)
    exact reads_methods_beforeLinks _
  | cons t negations ih =>
    have ht := isNot t List.mem_cons_self
    rw [reads_unary]
    refine (if_pos ht).mpr ⟨_, ih (fun u hu => isNot u (List.mem_cons_of_mem t hu)) hspaced, rfl⟩

/-! ## What a level reads -/

open Link OperatorChain

/-- A level is determined by its rank. -/
theorem Expr.Level.rank_injective {l l' : Expr.Level} (h : l.rank = l'.rank) : l = l' := by
  cases l <;> cases l' <;> first | rfl | exact absurd h (by decide)

/-- The next tighter level has the next lower rank. -/
theorem Expr.Level.rank_eq_of_tighter {l m : Expr.Level} (h : l.tighter? = some m) : l.rank = m.rank + 1 := by
  cases l <;> cases h <;> rfl

/-- Every operator starts after the end of the operand before it. -/
def Spaced (first : Operand) : List Link → Prop
  | [] => True
  | m :: links => first.atom.stop < m.token.start ∧ Spaced m.operand links

/-- The first link stands apart from the first operand. -/
theorem Spaced.head {first : Operand} (h : Spaced first links) : ∀ m ∈ links.head?, first.atom.stop < m.token.start := by
  intro m hm
  cases links with
  | nil => cases hm
  | cons l links =>
    cases hm
    exact h.1

/-- The links after a link stand apart from its operand. -/
theorem Spaced.operand {first : Operand} {done : List Link} {m : Link} (h : Spaced first (done ++ m :: links)) :
    Spaced m.operand links := by
  induction done generalizing first with
  | nil => exact h.2
  | cons l done ih => exact ih h.2

/-- The links `used` have ranks of at most `r` and no comparison too many, `compared` telling whether one stands before them
in their segment, and the links after them end what is read at that rank. -/
structure Complete (compared : Bool) (r : Nat) (used rest : List Link) : Prop where
  rank_le : ∀ m ∈ used, m.rank ≤ r
  ends : ∃ compared', scan compared used = .ok compared' ∧
    ∀ m ∈ rest.head?, r < m.rank ∨ m.compares = true ∧ compared' = true

namespace Complete

variable {compared : Bool} {r : Nat} {used todo rest : List Link}

/-- Below the rank of comparisons, links are complete if only looser ones follow. -/
theorem of_rank_lt (hr : r < Expr.Level.comparison.rank) (hused : ∀ m ∈ used, m.rank ≤ r)
    (hrest : ∀ m ∈ rest.head?, r < m.rank) : Complete compared r used rest :=
  ⟨hused, compared, scan_of_rank_lt (fun m hm => Nat.lt_of_le_of_lt (hused m hm) hr) compared,
    fun m hm => .inl (hrest m hm)⟩

/-- What ends the reading at a rank is looser than all that binds tighter than comparisons. -/
theorem rank_lt (h : Complete compared (r + 1) used rest) (hr : r < Expr.Level.comparison.rank) :
    ∀ m ∈ rest.head?, r < m.rank := by
  obtain ⟨-, compared', -, hends⟩ := h
  intro m hm
  rcases hends m hm with hrank | ⟨hcompares, -⟩
  · exact Nat.lt_of_succ_lt hrank
  · rw [rank_eq_of_compares hcompares]
    exact hr

/-- The links up to the first of the rank, and those from there on. -/
theorem split (h : Complete compared (r + 1) (used ++ todo) rest) (hused : ∀ m ∈ used, m.rank ≤ r)
    (htodo : ∀ m ∈ todo.head?, r < m.rank) :
    Complete compared r used (todo ++ rest) ∧ ∃ compared', Complete compared' (r + 1) todo rest := by
  obtain ⟨hle, compared', hscan, hends⟩ := h
  rw [scan_append] at hscan
  cases hfront : scan compared used with
  | error m =>
    rw [hfront] at hscan
    cases hscan
  | ok between =>
    rw [hfront] at hscan
    refine ⟨⟨hused, between, hfront, ?_⟩, between, fun m hm => hle m (List.mem_append_right used hm), compared', hscan,
      hends⟩
    cases todo with
    | nil =>
      cases hscan
      exact fun m hm => (hends m hm).imp_left Nat.lt_of_succ_lt
    | cons l todo => exact fun m hm => .inl (htodo m hm)

/-- After an operator that is not a comparison its right operand is complete by itself: either it starts a segment, or all
in it binds tighter than comparisons. -/
theorem right_operand {m : Link} (h : Complete compared (r + 1) (m :: (used ++ todo)) rest) (hcompares : ¬m.compares = true)
    (hrank : m.rank = r + 1) (hused : ∀ m ∈ used, m.rank ≤ r) (htodo : ∀ m ∈ todo.head?, r < m.rank) :
    Complete false r used (todo ++ rest) ∧ ∃ compared', Complete compared' (r + 1) todo rest := by
  have htail : ∀ {compared'}, scan compared (m :: (used ++ todo)) = scan compared' (used ++ todo) →
      Complete compared' (r + 1) (used ++ todo) rest := fun heq =>
    ⟨fun l hl => h.rank_le l (List.mem_cons_of_mem m hl), heq ▸ h.ends⟩
  by_cases hseparates : m.separates = true
  · exact (htail (by rw [scan_cons, scanLink, if_pos hseparates]; rfl)).split hused htodo
  · have hr : r + 1 < Expr.Level.comparison.rank := by
      have hle := (separates_or_rank_le m).resolve_left hseparates
      rw [← hrank]
      exact Nat.lt_of_le_of_ne hle fun heq => hcompares ((compares_iff_rank m).mpr heq)
    have hsplit := (htail (by rw [scan_cons, scanLink, if_neg hseparates, if_neg hcompares]; rfl)).split hused htodo
    refine ⟨of_rank_lt (Nat.lt_of_succ_lt hr) hused fun m' hm' => ?_, hsplit.2⟩
    cases todo with
    | nil => exact h.rank_lt (Nat.lt_of_succ_lt hr) m' hm'
    | cons l todo => exact htodo m' hm'

end Complete

/-- A parsing function reads an operand and the links of ranks up to `r` after it, as the tree that they split into. -/
def ReadsTree (r : Nat) (read : (c : Cursor) → Except Failure (Parsed c.size Expr)) : Prop :=
  ∀ first used rest before limit, Spaced first (used ++ rest) → Complete false r used rest →
    ∃ stop, Reads (read ⟨before, first.tokens ++ (used ++ rest).flatMap Link.tokens, limit⟩) (treeOf first used)
      (beforeLinks stop rest limit)

/-- Without operators, an operand is read. -/
theorem readsTree_unary : ReadsTree 0 unary := by
  intro first used rest before limit hspaced hcomplete
  cases used with
  | nil =>
    rw [treeOf_nil]
    exact ⟨_, reads_unary_operand first hspaced.head⟩
  | cons m used =>
    have hrank : m.rank ≤ 0 := hcomplete.rank_le m List.mem_cons_self
    have hpos : 0 < m.rank := by
      unfold Link.rank
      cases m.op <;> decide
    omega

/-- A chain goes on with an operator of its level. -/
theorem reads_chain_link {m : Link} {l : Expr.Level} {left right e : Expr} {mid next : Cursor} (hlevel : levelOf m.op = l)
    (hright : Reads (operand l ⟨some m.token.stop, m.operand.tokens ++ links.flatMap Link.tokens, limit⟩) right mid)
    (hmore : if l.chains then Reads (chain l (.binary m.op left right) mid) e next
      else e = .binary m.op left right ∧ next = mid) :
    Reads (chain l left (beforeLinks before (m :: links) limit)) e next := by
  have hbinding : ¬(l = .binding ∧ (beforeLinks before (m :: links) limit).atMark ">>" = true) := by
    rw [atMark_beforeLinks fun op => by cases op <;> decide]
    exact fun h => Bool.false_ne_true h.2
  rw [reads_chain, if_neg hbinding, operator?_beforeLinks, if_pos hlevel]
  exact ⟨right, mid, hright, hmore⟩

/-- Operators of a level that chains, and what their right operands read, are joined to the tree read so far. -/
theorem reads_chain_beforeLinks {l : Expr.Level} {r : Nat} (hl : l ≠ .comparison) (hr : l.rank = r + 1)
    (hoperand : ReadsTree r (operand l)) (first : Operand) (done todo rest : List Link)
    (hspaced : Spaced first (done ++ (todo ++ rest))) (hdone : ∀ m ∈ done, m.rank ≤ r + 1) {compared : Bool}
    (htodo : Complete compared (r + 1) todo rest) (hhead : ∀ m ∈ todo.head?, r < m.rank) (before : Option Nat)
    (limit : Nat) :
    ∃ stop, Reads (chain l (treeOf first done) (beforeLinks before (todo ++ rest) limit)) (treeOf first (done ++ todo))
      (beforeLinks stop rest limit) := by
  have hcompares : ∀ m : Link, m.rank = r + 1 → ¬m.compares = true := fun m hm hcompares =>
    hl (Expr.Level.rank_injective (hr.trans (hm.symm.trans (rank_eq_of_compares hcompares))))
  cases todo with
  | nil =>
    obtain ⟨-, compared', -, hends⟩ := htodo
    rw [List.append_nil, List.nil_append]
    refine ⟨before, reads_chain_of_not_follows (not_follows_beforeLinks fun m hm hlevel => ?_)⟩
    have hrank : m.rank = r + 1 := (congrArg Expr.Level.rank hlevel).trans hr
    rcases hends m hm with hlt | ⟨hm, -⟩
    · exact absurd hrank (Nat.ne_of_gt hlt)
    · exact hcompares m hrank hm
  | cons m post =>
    have hm : m.rank = r + 1 := Nat.le_antisymm (htodo.rank_le m List.mem_cons_self) (hhead m rfl)
    have hlevel : levelOf m.op = l := Expr.Level.rank_injective (hm.trans hr.symm)
    obtain ⟨used, more, rfl, hused, hmore⟩ := exists_split r post
    obtain ⟨hcomplete, compared', hmore'⟩ := htodo.right_operand (hcompares m hm) hm hused hmore
    rw [List.cons_append, List.append_assoc] at hspaced ⊢
    obtain ⟨mid, hright⟩ := hoperand m.operand used (more ++ rest) (some m.token.stop) limit hspaced.operand hcomplete
    -- The tree of all that is read by then splits at `m`: what was done is no looser, what was read after it is tighter.
    have htree : treeOf first (done ++ m :: used) = .binary m.op (treeOf first done) (treeOf m.operand used) :=
      treeOf_append first (fun m' hm' => hm ▸ hdone m' hm') fun m' hm' => hm ▸ Nat.lt_succ_of_le (hused m' hm')
    have hdone' : ∀ m' ∈ done ++ m :: used, m'.rank ≤ r + 1 := by
      intro m' hm'
      rcases List.mem_append.mp hm' with hm' | hm'
      · exact hdone m' hm'
      · rcases List.mem_cons.mp hm' with rfl | hm'
        · exact Nat.le_of_eq hm
        · exact Nat.le_succ_of_le (hused m' hm')
    have hassoc : ∀ links, (done ++ m :: used) ++ links = done ++ m :: (used ++ links) := fun links => by
      rw [List.append_assoc, List.cons_append]
    obtain ⟨stop, hchain⟩ := reads_chain_beforeLinks hl hr hoperand first (done ++ m :: used) more rest
      (by rw [hassoc]; exact hspaced) hdone' hmore' hmore mid limit
    rw [htree, hassoc] at hchain
    refine ⟨stop, ?_⟩
    have hchains : l.chains = true := bne_iff_ne.mpr hl
    refine reads_chain_link hlevel hright ?_
    rw [if_pos hchains]
    exact hchain
termination_by todo.length
decreasing_by
  subst_vars
  rw [List.length_cons, List.length_append]
  omega

/-- A comparison and what its right operand reads are joined to what was read before, and that ends the level. -/
theorem reads_chain_comparison (hoperand : ReadsTree 3 (operand .comparison)) (first : Operand) (done todo rest : List Link)
    (hspaced : Spaced first (done ++ (todo ++ rest))) (hdone : ∀ m ∈ done, m.rank ≤ 3)
    (htodo : Complete false 4 todo rest) (hhead : ∀ m ∈ todo.head?, 3 < m.rank) (before : Option Nat) (limit : Nat) :
    ∃ stop, Reads (chain .comparison (treeOf first done) (beforeLinks before (todo ++ rest) limit))
      (treeOf first (done ++ todo)) (beforeLinks stop rest limit) := by
  obtain ⟨hle, compared', hscan, hends⟩ := htodo
  cases todo with
  | nil =>
    cases hscan
    rw [List.append_nil, List.nil_append]
    refine ⟨before, reads_chain_of_not_follows (not_follows_beforeLinks fun m hm hlevel => ?_)⟩
    have hrank : m.rank = 4 := congrArg Expr.Level.rank hlevel
    rcases hends m hm with hlt | ⟨-, hcompared⟩
    · exact absurd hrank (Nat.ne_of_gt hlt)
    · cases hcompared
  | cons m post =>
    have hm : m.rank = 4 := Nat.le_antisymm (hle m List.mem_cons_self) (hhead m rfl)
    have hlevel : levelOf m.op = .comparison := Expr.Level.rank_injective hm
    have hpost : ∀ m' ∈ post, m'.rank ≤ 4 := fun m' hm' => hle m' (List.mem_cons_of_mem m hm')
    rw [scan_cons, scanLink, separates_eq_false_of_rank_le (Nat.le_of_eq hm), if_neg Bool.false_ne_true,
      if_pos ((compares_iff_rank m).mpr hm), if_neg Bool.false_ne_true] at hscan
    have hused : ∀ m' ∈ post, m'.rank < 4 := rank_lt_of_scan hpost hscan
    have hcomplete : Complete false 3 post rest := by
      refine .of_rank_lt (by decide) (fun m' hm' => Nat.le_of_lt_succ (hused m' hm')) fun m' hm' => ?_
      rcases hends m' hm' with hlt | ⟨hcompares, -⟩
      · exact Nat.lt_of_succ_lt hlt
      · rw [rank_eq_of_compares hcompares]
        decide
    rw [List.cons_append] at hspaced ⊢
    obtain ⟨stop, hright⟩ := hoperand m.operand post rest (some m.token.stop) limit hspaced.operand hcomplete
    have htree : treeOf first (done ++ m :: post) = .binary m.op (treeOf first done) (treeOf m.operand post) :=
      treeOf_append first (fun m' hm' => hm ▸ Nat.le_succ_of_le (hdone m' hm')) fun m' hm' => hm ▸ hused m' hm'
    exact ⟨stop, reads_chain_link hlevel hright ⟨htree, rfl⟩⟩

/-- A level reads what its rank allows if its operands do. -/
theorem readsTree_level_of_operand {l : Expr.Level} {r : Nat} (hr : l.rank = r + 1) (hoperand : ReadsTree r (operand l)) :
    ReadsTree l.rank (level l) := by
  intro first used rest before limit hspaced hcomplete
  rw [hr] at hcomplete
  obtain ⟨done, todo, rfl, hdone, htodo⟩ := exists_split r used
  obtain ⟨hfront, compared, hmore⟩ := hcomplete.split hdone htodo
  rw [List.append_assoc] at hspaced ⊢
  obtain ⟨mid, hleft⟩ := hoperand first done (todo ++ rest) before limit hspaced hfront
  -- Comparisons stand apart, because they do not chain.
  have hchain : ∃ stop, Reads (chain l (treeOf first done) (beforeLinks mid (todo ++ rest) limit))
      (treeOf first (done ++ todo)) (beforeLinks stop rest limit) := by
    by_cases hl : l = .comparison
    · subst hl
      obtain rfl : r = 3 := (Nat.succ.inj hr).symm
      have hbelow : scan false done = .ok false := scan_of_rank_lt (fun m hm => Nat.lt_succ_of_le (hdone m hm)) false
      obtain ⟨hle, compared', hscan, hends⟩ := hcomplete
      rw [scan_append, hbelow] at hscan
      exact reads_chain_comparison hoperand first done todo rest hspaced hdone ⟨hmore.rank_le, compared', hscan, hends⟩
        htodo mid limit
    · exact reads_chain_beforeLinks hl hr hoperand first done todo rest hspaced
        (fun m hm => Nat.le_succ_of_le (hdone m hm)) hmore htodo mid limit
  obtain ⟨stop, hchain⟩ := hchain
  exact ⟨stop, reads_level.mpr ⟨_, _, hleft, hchain⟩⟩

/-- Each level reads the tree of the links up to its rank. -/
theorem readsTree_level (l : Expr.Level) : ReadsTree l.rank (level l) := by
  cases htighter : l.tighter? with
  | some m =>
    have hrank := Expr.Level.rank_eq_of_tighter htighter
    have hoperand : operand l = level m := by
      funext c
      rw [operand_eq, htighter]
    refine readsTree_level_of_operand hrank ?_
    rw [hoperand]
    exact readsTree_level m
  | none =>
    have hrank : l.rank = 0 + 1 := by
      cases l <;> first | rfl | cases htighter
    have hoperand : operand l = unary := by
      funext c
      rw [operand_eq, htighter]
    refine readsTree_level_of_operand hrank ?_
    rw [hoperand]
    exact readsTree_unary
termination_by l.rank

/-! ## Whole chains -/

/-- Tokens with gaps between them are links that stand apart. -/
theorem spaced_of_isChain {first : Operand}
    (h : (first.tokens ++ links.flatMap Link.tokens).IsChain fun t u => t.stop < u.start) : Spaced first links := by
  induction links generalizing first with
  | nil => trivial
  | cons m links ih =>
    rw [Operand.tokens, List.append_assoc, List.isChain_append] at h
    have hatom : (first.atom :: m.token :: (m.operand.tokens ++ links.flatMap Link.tokens)).IsChain
        fun t u => t.stop < u.start := h.2.1
    obtain ⟨hstart, hrest⟩ := List.isChain_cons_cons.mp hatom
    exact ⟨hstart, ih hrest.tail⟩

namespace OperatorChain

/-- The tokens of a chain are read up to the link after those that the whole level reads. -/
theorem ofTokens_of_complete (first : Operand) (used rest : List Link) (hspaced : Spaced first (used ++ rest))
    (hcomplete : Complete false 7 used rest) :
    Expr.ofTokens (first.tokens ++ (used ++ rest).flatMap Link.tokens) =
      match rest.head? with
      | none => .ok (treeOf first used)
      | some m => .error ⟨.unexpectedToken m.token.text, m.token.start⟩ := by
  have hne : ¬(first.tokens ++ (used ++ rest).flatMap Link.tokens).isEmpty = true := by
    rw [List.isEmpty_iff, Operand.tokens, List.append_assoc]
    exact List.append_ne_nil_of_right_ne_nil _ (List.cons_ne_nil _ _)
  obtain ⟨stop, fewer, hread⟩ := readsTree_level .disjunction first used rest none
    (Cursor.start (first.tokens ++ (used ++ rest).flatMap Link.tokens)).limit hspaced hcomplete
  replace hread : level .disjunction (Cursor.start (first.tokens ++ (used ++ rest).flatMap Link.tokens)) =
    .ok ⟨treeOf first used, _, fewer⟩ := hread
  rw [Expr.ofTokens, if_neg hne, hread]
  cases rest with
  | nil => rfl
  | cons m rest => rfl

/-- What the scan of the links tells, the parser does: it reads the tree of the chain, or stops at the comparison at which the
scan stops. -/
theorem ofTokens_eq_scan (chain : OperatorChain) (hspaced : Spaced chain.first chain.links) :
    Expr.ofTokens chain.tokens =
      match scan false chain.links with
      | .ok _ => .ok chain.tree
      | .error l => .error ⟨.unexpectedToken l.token.text, l.token.start⟩ := by
  obtain ⟨first, links⟩ := chain
  have hle : ∀ m ∈ links, m.rank ≤ 7 := by
    intro m _
    unfold Link.rank
    cases m.op <;> decide
  cases hscan : scan false links with
  | ok compared =>
    have hcomplete : Complete false 7 links [] := ⟨hle, compared, hscan, fun m hm => nomatch hm⟩
    have h := ofTokens_of_complete first links [] (by rwa [List.append_nil]) hcomplete
    rw [List.append_nil] at h
    exact h
  | error l =>
    obtain ⟨used, rest, rfl, hused, hl⟩ := exists_of_scan_eq_error hscan
    have hcomplete : Complete false 7 used (l :: rest) := by
      refine ⟨fun m hm => hle m (List.mem_append_left _ hm), true, hused, fun m hm => ?_⟩
      cases hm
      exact .inr ⟨hl, rfl⟩
    exact ofTokens_of_complete first used (l :: rest) hspaced hcomplete

/-- A chain of which no two tokens touch reads if and only if no segment between `and` and `or` has two comparisons. It reads
as the tree that it splits into, or it fails at the second comparison of the first segment that has two. -/
theorem ofTokens_tokens (chain : OperatorChain) (hapart : chain.tokens.IsChain fun t u => t.stop < u.start) :
    ((∃ e, Expr.ofTokens chain.tokens = .ok e) ↔ ∀ segment ∈ chain.segments, segment.countP compares ≤ 1) ∧
      ((∀ segment ∈ chain.segments, segment.countP compares ≤ 1) → Expr.ofTokens chain.tokens = .ok chain.tree) ∧
      ((¬∀ segment ∈ chain.segments, segment.countP compares ≤ 1) → ∃ l, chain.secondComparison? = some l ∧
        Expr.ofTokens chain.tokens = .error ⟨.unexpectedToken l.token.text, l.token.start⟩) := by
  have htokens := ofTokens_eq_scan chain (spaced_of_isChain hapart)
  have hsecond := chain.secondComparison?_eq_scan
  rw [← secondComparison?_eq_none_iff]
  cases hscan : scan false chain.links with
  | ok compared =>
    rw [hscan] at htokens hsecond
    exact ⟨iff_of_true ⟨_, htokens⟩ hsecond, fun _ => htokens, fun hnot => absurd hsecond hnot⟩
  | error l =>
    rw [hscan] at htokens hsecond
    have hsome : chain.secondComparison? = some l := hsecond
    have hnot : ¬chain.secondComparison? = none := by
      rw [hsome]
      exact Option.some_ne_none l
    refine ⟨iff_of_false ?_ hnot, fun hnone => absurd hnone hnot, fun _ => ⟨l, hsome, htokens⟩⟩
    rintro ⟨e, he⟩
    rw [htokens] at he
    cases he

/-- The chain `a - b - c * d and not e`. -/
theorem ofTokens_tokens_of_names :
    let name : String → Nat → Token := fun text start => ⟨.name, text, start, start + text.utf8ByteSize⟩
    let mark : String → Nat → Token := fun text start => ⟨.mark, text, start, start + text.utf8ByteSize⟩
    let chain : OperatorChain := ⟨⟨[], name "a" 0, by simp, (by decide : "a" ∉ Token.connectives)⟩, [
      ⟨.sub, mark "-" 2, ⟨[], name "b" 4, by simp, (by decide : "b" ∉ Token.connectives)⟩, by decide⟩,
      ⟨.sub, mark "-" 6, ⟨[], name "c" 8, by simp, (by decide : "c" ∉ Token.connectives)⟩, by decide⟩,
      ⟨.mul, mark "*" 10, ⟨[], name "d" 12, by simp, (by decide : "d" ∉ Token.connectives)⟩, by decide⟩,
      ⟨.and, name "and" 14, ⟨[name "not" 18], name "e" 22, by simp [name, Token.isWord],
        (by decide : "e" ∉ Token.connectives)⟩, by decide⟩]⟩
    (chain.tokens.IsChain fun t u => t.stop < u.start) ∧
      Expr.ofTokens chain.tokens = .ok (.binary .and
        (.binary .sub (.binary .sub (.ofName "a") (.ofName "b")) (.binary .mul (.ofName "c") (.ofName "d")))
        (.negation (.ofName "e"))) := by
  intro name mark chain
  have hapart : chain.tokens.IsChain fun t u => t.stop < u.start := by decide
  have hsegments : ∀ segment ∈ chain.segments, segment.countP compares ≤ 1 := by decide
  have htree : chain.tree = .binary .and
      (.binary .sub (.binary .sub (.ofName "a") (.ofName "b")) (.binary .mul (.ofName "c") (.ofName "d")))
      (.negation (.ofName "e")) := by
    cbv
  exact ⟨hapart, htree ▸ (ofTokens_tokens chain hapart).2.1 hsegments⟩

end OperatorChain

end ConditionLang
