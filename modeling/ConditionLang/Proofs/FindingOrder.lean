import Mathlib.Data.List.Basic
import Mathlib.Data.Nat.Basic
import Mathlib.Order.Basic
import ConditionLang.Proofs.Coverage
import ConditionLang.Proofs.Phrases

/-!
# The order of findings

The checker lists what is wrong with a call before what is wrong with its target, which stands before the name of the call. So
findings come in the order of the tokens that name what they are about if and only if no finding is about a call whose target
has findings too, and the first finding is about the leftmost of these tokens if and only if it is not about such a call
(`findings_in_order_iff`).

Both equivalences hold of findings about one part after those about another, if all tokens of the one stand to the left of those
of the other (`InOrderIffClear.append`). Only a call is listed before a part that stands to the left of its name
(`InOrderIffClear.append_of_lt`).
-/

namespace ConditionLang

/-! ## Findings in order -/

/-- The expression that a call is made on. -/
def Expr.target? : Expr → Option Expr
  | .method target _ _ => some target
  | _ => none

namespace Located

/-- If the finding is about a call on a target, nothing is wrong with the target. -/
def IsClear (f : Located) : Prop :=
  ∀ target ∈ f.part.target?, target.findings = []

/-- Findings are in the order of their tokens if and only if all are clear, and the first has the leftmost token if and only if
it is clear. -/
structure InOrderIffClear (found : List Located) : Prop where
  all : (found.Pairwise fun f g => f.token.start ≤ g.token.start) ↔ ∀ f ∈ found, f.IsClear
  first : ∀ first ∈ found.head?, (∀ f ∈ found, first.token.start ≤ f.token.start) ↔ first.IsClear

variable {found found' : List Located}

theorem InOrderIffClear.nil : InOrderIffClear [] :=
  ⟨iff_of_true .nil (List.forall_mem_nil _), fun _ h => nomatch h⟩

/-- Findings that are in order and all clear are in order exactly as they are clear. -/
theorem InOrderIffClear.of_clear (hsorted : found.Pairwise fun f g => f.token.start ≤ g.token.start)
    (hclear : ∀ f ∈ found, f.IsClear) : InOrderIffClear found := by
  refine ⟨iff_of_true hsorted hclear, fun first hfirst => ?_⟩
  obtain ⟨rest, rfl⟩ := List.head?_eq_some_iff.mp hfirst
  refine iff_of_true (List.forall_mem_cons.mpr ⟨Nat.le_refl _, ?_⟩) (hclear first List.mem_cons_self)
  exact (List.pairwise_cons.mp hsorted).1

/-- Of two lists, the first with its tokens on the left. -/
theorem InOrderIffClear.append (h : InOrderIffClear found) (h' : InOrderIffClear found')
    (hle : ∀ f ∈ found, ∀ g ∈ found', f.token.start ≤ g.token.start) : InOrderIffClear (found ++ found') := by
  refine ⟨?_, fun first hfirst => ?_⟩
  · rw [List.pairwise_append, h.all, h'.all, List.forall_mem_append]
    exact and_congr_right fun _ => and_iff_left hle
  · cases found with
    | nil => exact h'.first first hfirst
    | cons f found =>
      obtain rfl : f = first := Option.some.inj hfirst
      rw [List.forall_mem_append, h.first f rfl]
      exact and_iff_left (hle f List.mem_cons_self)

/-- Of two lists, where those of the first are about one token to the right of the others, and are clear only if there are no
others. -/
theorem InOrderIffClear.append_of_lt (token : Token) (h : InOrderIffClear found') (htoken : ∀ f ∈ found, f.token = token)
    (hlt : ∀ g ∈ found', g.token.start < token.start) (hclear : ∀ f ∈ found, f.IsClear ↔ found' = []) :
    InOrderIffClear (found ++ found') := by
  cases found' with
  | nil =>
    rw [List.append_nil]
    refine .of_clear (List.pairwise_of_forall_mem_list fun f hf g hg => ?_) fun f hf => (hclear f hf).mpr rfl
    rw [htoken f hf, htoken g hg]
  | cons g found' =>
    cases found with
    | nil => exact h
    | cons f found =>
      have hnot : ¬f.token.start ≤ g.token.start := by
        rw [htoken f List.mem_cons_self]
        exact Nat.not_le_of_lt (hlt g List.mem_cons_self)
      have hunclear : ¬f.IsClear := fun hf => List.cons_ne_nil _ _ ((hclear f List.mem_cons_self).mp hf)
      refine ⟨iff_of_false ?_ ?_, ?_⟩
      · intro hsorted
        exact hnot ((List.pairwise_append.mp hsorted).2.2 f List.mem_cons_self g List.mem_cons_self)
      · exact fun hall => hunclear (hall f List.mem_cons_self)
      · rintro _ ⟨⟩
        refine iff_of_false (fun hall => hnot (hall g ?_)) hunclear
        exact List.mem_append_right _ List.mem_cons_self

/-! ## What is found at calls and names -/

/-- The findings located at a call are those of the call. -/
theorem map_finding_ofCall (t : Token) (part : Expr) (findings : List Finding) :
    (ofCall t part findings).map (·.finding) = findings := by
  rw [ofCall, List.map_map]
  exact List.map_id findings

/-- What is located at a call is about it. -/
theorem of_mem_ofCall {t : Token} {part : Expr} {findings : List Finding} {f : Located} (h : f ∈ ofCall t part findings) :
    f.token = t ∧ f.part = part := by
  obtain ⟨_, -, rfl⟩ := List.mem_map.mp h
  exact ⟨rfl, rfl⟩

/-- Findings about one call are in order, and clear if it is made on no target. -/
theorem inOrderIffClear_ofCall {t : Token} {part : Expr} {findings : List Finding} (hpart : part.target? = none) :
    InOrderIffClear (ofCall t part findings) := by
  refine .of_clear (List.pairwise_of_forall_mem_list fun f hf g hg => ?_) fun f hf target htarget => ?_
  · rw [(of_mem_ofCall hf).1, (of_mem_ofCall hg).1]
  · rw [(of_mem_ofCall hf).2, hpart] at htarget
    cases htarget

theorem map_finding_ofNames {names : List Token} (hne : names ≠ []) (part : Expr) :
    (ofNames names part).map (·.finding) = Check.nameFindings (names.map (·.text)) := by
  simp [ofNames, Check.nameFindings, hne, List.filter_map, Function.comp_def]

theorem of_mem_ofNames {names : List Token} {part : Expr} {f : Located} (h : f ∈ ofNames names part) :
    f.token ∈ names ∧ f.part = part := by
  obtain ⟨t, ht, rfl⟩ := List.mem_map.mp h
  exact ⟨(List.mem_filter.mp ht).1, rfl⟩

/-- Findings about names are in order, and clear if nothing is called on the expression. -/
theorem inOrderIffClear_ofNames {names : List Token} {part : Expr} (hpart : part.target? = none)
    (hnames : names.Pairwise (·.start < ·.start)) : InOrderIffClear (ofNames names part) := by
  refine .of_clear (List.pairwise_map.mpr ((hnames.filter _).imp Nat.le_of_lt)) fun f hf target htarget => ?_
  rw [(of_mem_ofNames hf).2, hpart] at htarget
  cases htarget

end Located

/-- The tokens before and after a token, in the order of where they start. -/
theorem Token.pairwise_append_cons {t : Token} {ts ts' : List Token} (h : (ts ++ t :: ts').Pairwise (·.start < ·.start)) :
    ts.Pairwise (·.start < ·.start) ∧ ts'.Pairwise (·.start < ·.start) ∧ (∀ u ∈ ts, u.start < t.start) ∧
      (∀ v ∈ ts', t.start < v.start) ∧ ∀ u ∈ ts, ∀ v ∈ ts', u.start < v.start := by
  obtain ⟨hts, hts', hlt⟩ := List.pairwise_append.mp h
  obtain ⟨hafter, hts'⟩ := List.pairwise_cons.mp hts'
  exact ⟨hts, hts', fun u hu => hlt u hu t List.mem_cons_self, hafter, fun u hu v hv => hlt u hu v (List.mem_cons_of_mem t hv)⟩

namespace Token.Listed

variable {names ts : List Token}

/-- Names in a list of tokens are at least one. -/
theorem ne_nil (h : Listed names ts) : names ≠ [] := by
  cases h <;> exact List.cons_ne_nil _ _

/-- Names in a list of tokens stand there in their order. -/
theorem sublist (h : Listed names ts) : names.Sublist ts := by
  induction h with
  | last => exact List.Sublist.refl _
  | cons _ _ _ ih => exact (ih.cons _).cons_cons _

end Token.Listed

/-! ## Findings about phrases -/

namespace Expr

theorem findingsOfItems_concat (items : List Expr) (e : Expr) :
    findingsOfItems (items ++ [e]) = findingsOfItems items ++ e.findings := by
  induction items with
  | nil => simp [findingsOfItems]
  | cons item items ih => simp [findingsOfItems, ih]

theorem findingsOfPairs_concat (pairs : List (String × Expr)) (key : String) (e : Expr) :
    findingsOfPairs (pairs ++ [(key, e)]) = findingsOfPairs pairs ++ e.findings := by
  induction pairs with
  | nil => simp [findingsOfPairs]
  | cons pair pairs ih => simp [findingsOfPairs, ih]

end Expr

namespace Parser.Entries

variable {entries : Entries} (e : Expr)

/-- What is found in an item that is added comes after what is found before. -/
theorem findings_addItem (h : entries.takesItem = true) :
    (entries.addItem e).toExpr.findings = entries.toExpr.findings ++ e.findings := by
  cases entries with
  | items es => simp [addItem, toExpr, Expr.findings, Expr.findingsOfItems_concat]
  | pairs ps =>
    have hnil : ps = [] := List.isEmpty_iff.mp h
    simp [hnil, addItem, toExpr, Expr.findings, Expr.findingsOfItems, Expr.findingsOfPairs]

/-- What is found in a pair that is added comes after what is found before. -/
theorem findings_addPair (h : entries.takesPair = true) (key : String) :
    (entries.addPair key e).toExpr.findings = entries.toExpr.findings ++ e.findings := by
  cases entries with
  | items es =>
    have hnil : es = [] := List.isEmpty_iff.mp h
    simp [hnil, addPair, toExpr, Expr.findings, Expr.findingsOfItems, Expr.findingsOfPairs]
  | pairs ps => simp [addPair, toExpr, Expr.findings, Expr.findingsOfPairs_concat]

end Parser.Entries

namespace Phrase

/-- All that is wrong with a phrase. -/
def findings : Phrase → List Finding
  | .expr e => e.findings
  | .arguments args => Expr.findingsOfItems args
  | .entries table => table.toExpr.findings

variable {p : Phrase} {ts : List Token} {found : List Located}

/-- The findings, without their places, are those of the checker. -/
theorem SpelledBy.map_finding (h : p.SpelledBy ts found) : found.map (·.finding) = p.findings := by
  induction h with
  | number | range | text | truth | reference => simp [findings, Expr.findings]
  | noArguments => simp [findings, Expr.findingsOfItems]
  | noEntries => simp [findings, Parser.Entries.toExpr, Expr.findings, Expr.findingsOfItems]
  | parenthesized _ _ _ ih => exact ih
  | table _ _ _ ih => exact ih
  | negation _ _ ih => simp only [ih, findings, Expr.findings]
  | binary _ _ _ ih ih' => simp only [List.map_append, ih, ih', findings, Expr.findings]
  | binding _ _ hnames ih =>
    simp only [List.map_append, ih, Located.map_finding_ofNames hnames.ne_nil, findings, Expr.findings]
  | call _ _ ih => simp only [List.map_append, Located.map_finding_ofCall, ih, findings, Expr.findings]
  | method _ _ _ ih ih' => simp only [List.map_append, Located.map_finding_ofCall, ih, ih', findings, Expr.findings]
  | argument _ _ ih ih' => simp only [List.map_append, ih, ih', findings, Expr.findingsOfItems]
  | item htakes _ _ _ ih ih' => simp only [List.map_append, ih, ih', findings, Parser.Entries.findings_addItem _ htakes]
  | pair htakes _ _ _ _ _ ih ih' =>
    simp only [List.map_append, ih, ih', findings, Parser.Entries.findings_addPair _ htakes]

/-- The tokens that findings are at are among those that spell the phrase. -/
theorem SpelledBy.token_mem (h : p.SpelledBy ts found) : ∀ f ∈ found, f.token ∈ ts := by
  induction h with
  | number | range | text | truth | reference | noArguments | noEntries => exact List.forall_mem_nil _
  | parenthesized _ _ _ ih => grind
  | table _ _ _ ih => grind
  | negation _ _ ih => grind
  | binary _ _ _ ih ih' => grind
  | binding _ _ hnames ih => grind [Located.of_mem_ofNames, hnames.sublist.subset]
  | call _ _ ih => grind [Located.of_mem_ofCall]
  | method _ _ _ ih ih' => grind [Located.of_mem_ofCall]
  | argument _ _ ih ih' => grind
  | item _ _ _ _ ih ih' => grind
  | pair _ _ _ _ _ _ ih ih' => grind

/-- A phrase has no findings if and only if none are located in it. -/
theorem SpelledBy.findings_eq_nil_iff (h : p.SpelledBy ts found) : p.findings = [] ↔ found = [] := by
  rw [← h.map_finding, List.map_eq_nil_iff]

/-- Findings about phrases whose tokens stand one after the other. -/
theorem SpelledBy.inOrderIffClear_append {q : Phrase} {ts' : List Token} {found' : List Located} (h : p.SpelledBy ts found)
    (h' : q.SpelledBy ts' found') (hlt : ∀ t ∈ ts, ∀ u ∈ ts', t.start < u.start) (horder : Located.InOrderIffClear found)
    (horder' : Located.InOrderIffClear found') : Located.InOrderIffClear (found ++ found') :=
  horder.append horder' fun f hf g hg => (hlt f.token (h.token_mem f hf) g.token (h'.token_mem g hg)).le

/-- Findings about a method call and its target, whose tokens stand before the name of the call. -/
theorem SpelledBy.inOrderIffClear_method {t : Token} {target : Expr} (h : (expr target).SpelledBy ts found)
    (hlt : ∀ u ∈ ts, u.start < t.start) (horder : Located.InOrderIffClear found) (name : String) (args : List Expr)
    (findings : List Finding) :
    Located.InOrderIffClear (Located.ofCall t (.method target name args) findings ++ found) := by
  refine horder.append_of_lt t (fun f hf => (Located.of_mem_ofCall hf).1) (fun g hg => hlt g.token (h.token_mem g hg)) ?_
  intro f hf
  rw [Located.IsClear, (Located.of_mem_ofCall hf).2, ← h.findings_eq_nil_iff]
  exact ⟨fun hclear => hclear target rfl, fun hnil _ htarget => Option.some.inj htarget ▸ hnil⟩

/-- By induction on how the tokens spell the phrase: the findings about its parts are in the order of the parts, but for a
method call and its target. -/
theorem SpelledBy.inOrderIffClear (h : p.SpelledBy ts found) (hts : ts.Pairwise (·.start < ·.start)) :
    Located.InOrderIffClear found := by
  induction h with
  | number | range | text | truth | reference | noArguments | noEntries => exact .nil
  | parenthesized _ _ _ ih => exact ih (List.pairwise_append.mp hts.of_cons).1
  | table _ _ _ ih => exact ih (List.pairwise_append.mp hts.of_cons).1
  | negation _ _ ih => exact ih hts.of_cons
  | binary _ hleft hright ih ih' =>
    obtain ⟨hts, hts', -, -, hlt⟩ := Token.pairwise_append_cons hts
    exact hleft.inOrderIffClear_append hright hlt (ih hts) (ih' hts')
  | binding _ hvalue hnames ih =>
    obtain ⟨hts, hts', -, -, hlt⟩ := Token.pairwise_append_cons hts
    have hnamed := hts'.sublist hnames.sublist
    refine (ih hts).append (Located.inOrderIffClear_ofNames rfl hnamed) fun f hf g hg => ?_
    have hg := hnames.sublist.subset (Located.of_mem_ofNames hg).1
    exact (hlt f.token (hvalue.token_mem f hf) g.token hg).le
  | call _ hargs ih =>
    obtain ⟨hlt, hts⟩ := List.pairwise_cons.mp hts
    refine (Located.inOrderIffClear_ofCall rfl).append (ih hts) fun f hf g hg => ?_
    rw [(Located.of_mem_ofCall hf).1]
    exact (hlt g.token (hargs.token_mem g hg)).le
  | method _ htarget hargs ih ih' =>
    obtain ⟨hts, hts', hbefore, hafter, hlt⟩ := Token.pairwise_append_cons hts
    refine (htarget.inOrderIffClear_method hbefore (ih hts) _ _ _).append (ih' hts') fun f hf g hg => ?_
    have hg := hargs.token_mem g hg
    rcases List.mem_append.mp hf with hf | hf
    · rw [(Located.of_mem_ofCall hf).1]
      exact (hafter g.token hg).le
    · exact (hlt f.token (htarget.token_mem f hf) g.token hg).le
  | argument harg hargs ih ih' =>
    obtain ⟨hts, hts', hlt⟩ := List.pairwise_append.mp hts
    exact harg.inOrderIffClear_append hargs hlt (ih hts) (ih' hts')
  | item _ hentries hitem _ ih ih' =>
    obtain ⟨hts, hts', hlt⟩ := List.pairwise_append.mp hts
    have hitems := fun t ht u hu => hlt t ht u (List.mem_append_left _ hu)
    exact hentries.inOrderIffClear_append hitem hitems (ih hts) (ih' (List.pairwise_append.mp hts').1)
  | pair _ hentries _ _ hvalue _ ih ih' =>
    obtain ⟨hts, hts', hlt⟩ := List.pairwise_append.mp hts
    have hvalues := fun t ht u hu => hlt t ht u (List.mem_cons_of_mem _ (List.mem_cons_of_mem _ (List.mem_append_left _ hu)))
    exact hentries.inOrderIffClear_append hvalue hvalues (ih hts) (ih' (List.pairwise_append.mp hts'.of_cons.of_cons).1)

end Phrase

/-! ## The findings about a text -/

/-- The tokens of a text start one after another. -/
theorem pairwise_start_tokens {mode : LexMode} {text : List Char} {tokens : List Token}
    (h : tokenize mode text = .ok tokens) : tokens.Pairwise (·.start < ·.start) :=
  (pairwise_tokens h).imp_of_mem fun ht _ hle => Nat.lt_of_lt_of_le (slice_of_mem_tokens h ht).1 hle

namespace Expr

/-- However the tokens of a text spell its expression: findings are listed in the order of the tokens that name what they are
about if and only if no finding is about a call whose target has findings too, and the first of them has the leftmost token if and
only if it is not about such a call. -/
theorem findings_in_order_iff {mode : LexMode} {text : List Char} {e : Expr} (h : parse mode text = .ok e) :
    ∃ tokens, tokenize mode text = .ok tokens ∧
      (if tokens = [] then e.findings = [] else (Phrase.expr e).Spelled tokens) ∧
      ∀ found, (Phrase.expr e).SpelledBy tokens found →
        found.map (·.finding) = e.findings ∧
        ((found.Pairwise fun f g => f.token.start ≤ g.token.start) ↔ ∀ f ∈ found, f.IsClear) ∧
        ∀ first ∈ found.head?, e.firstFinding? = some first.finding ∧
          ((∀ f ∈ found, first.token.start ≤ f.token.start) ↔ first.IsClear) := by
  obtain ⟨tokens, htokens, hspelled⟩ := spelled_of_parse h
  refine ⟨tokens, htokens, ?_, fun found hfound => ?_⟩
  · by_cases hnil : tokens = []
    · rw [if_pos hnil] at hspelled ⊢
      rw [hspelled, findings]
    · rw [if_neg hnil] at hspelled ⊢
      exact hspelled
  · have horder := hfound.inOrderIffClear (pairwise_start_tokens htokens)
    have hfindings : found.map (·.finding) = e.findings := hfound.map_finding
    refine ⟨hfindings, horder.all, fun first hfirst => ⟨?_, horder.first first hfirst⟩⟩
    rw [firstFinding?, ← hfindings, List.head?_map, hfirst]
    rfl

theorem findings_in_order_iff_of_names :
    let e : Expr := .binding (.method (.method (.text "a") "upper" []) "lenn" [.call "nope" []]) ["x", "not"]
    parse .lenient "\"a\".upper.lenn (.nope) >> x, not".toList = .ok e ∧
      ∃ tokens, tokenize .lenient "\"a\".upper.lenn (.nope) >> x, not".toList = .ok tokens ∧
        (if tokens = [] then e.findings = [] else (Phrase.expr e).Spelled tokens) ∧
        ∀ found, (Phrase.expr e).SpelledBy tokens found →
          found.map (·.finding) = e.findings ∧
          ((found.Pairwise fun f g => f.token.start ≤ g.token.start) ↔ ∀ f ∈ found, f.IsClear) ∧
          ∀ first ∈ found.head?, e.firstFinding? = some first.finding ∧
            ((∀ f ∈ found, first.token.start ≤ f.token.start) ↔ first.IsClear) := by
  have hlexemes : lexemes 0 "\"a\".upper.lenn (.nope) >> x, not".toList =
      [(0, .token .quoted ['a']), (3, .token .dotted ['u', 'p', 'p', 'e', 'r']), (9, .token .dotted ['l', 'e', 'n', 'n']),
        (15, .token .mark ['(']), (16, .token .dotted ['n', 'o', 'p', 'e']), (21, .token .mark [')']),
        (23, .token .mark ['>', '>']), (26, .token .name ['x']), (27, .token .mark [',']),
        (29, .token .name ['n', 'o', 't'])] := by decide +kernel
  have htokens : tokenize .lenient "\"a\".upper.lenn (.nope) >> x, not".toList =
      .ok [⟨.quoted, "a", 0, 3⟩, ⟨.dotted, "upper", 3, 9⟩, ⟨.dotted, "lenn", 9, 14⟩, ⟨.mark, "(", 15, 16⟩,
        ⟨.dotted, "nope", 16, 21⟩, ⟨.mark, ")", 21, 22⟩, ⟨.mark, ">>", 23, 25⟩, ⟨.name, "x", 26, 27⟩,
        ⟨.mark, ",", 27, 28⟩, ⟨.name, "not", 29, 32⟩] := by
    rw [tokenize, hlexemes]
    rfl
  have h : parse .lenient "\"a\".upper.lenn (.nope) >> x, not".toList =
      .ok (.binding (.method (.method (.text "a") "upper" []) "lenn" [.call "nope" []]) ["x", "not"]) := by
    rw [parse, htokens]
    cbv
  exact ⟨h, findings_in_order_iff h⟩

/-- The name of a call on a target with a finding stands to the right of the target, but its finding is listed first. -/
theorem findings_out_of_order :
    let uper : Token := ⟨.dotted, "uper", 3, 8⟩
    let lenn : Token := ⟨.dotted, "lenn", 8, 13⟩
    let target : Expr := .method (.text "a") "uper" []
    let e : Expr := .method target "lenn" []
    let found : List Located :=
      [⟨lenn, e, .unknownFunction "lenn" (Suggestion.closest? "lenn")⟩,
       ⟨uper, target, .unknownFunction "uper" (Suggestion.closest? "uper")⟩]
    parse .lenient "\"a\".uper.lenn".toList = .ok e ∧
      tokenize .lenient "\"a\".uper.lenn".toList = .ok [⟨.quoted, "a", 0, 3⟩, uper, lenn] ∧
      (Phrase.expr e).SpelledBy [⟨.quoted, "a", 0, 3⟩, uper, lenn] found ∧ found.map (·.finding) = e.findings ∧
      e.firstFinding? = some (.unknownFunction "lenn" (Suggestion.closest? "lenn")) ∧
      ¬found.Pairwise fun f g => f.token.start ≤ g.token.start := by
  intro uper lenn target e found
  have hlexemes : lexemes 0 "\"a\".uper.lenn".toList =
      [(0, .token .quoted ['a']), (3, .token .dotted ['u', 'p', 'e', 'r']), (8, .token .dotted ['l', 'e', 'n', 'n'])] := by
    decide +kernel
  have htokens : tokenize .lenient "\"a\".uper.lenn".toList =
      .ok [⟨.quoted, "a", 0, 3⟩, ⟨.dotted, "uper", 3, 8⟩, ⟨.dotted, "lenn", 8, 13⟩] := by
    rw [tokenize, hlexemes]
    rfl
  have hparse : parse .lenient "\"a\".uper.lenn".toList = .ok (.method (.method (.text "a") "uper" []) "lenn" []) := by
    rw [parse, htokens]
    cbv
  have hquoted : (Phrase.expr (.text "a")).SpelledBy [⟨.quoted, "a", 0, 3⟩] [] := .text (t := ⟨.quoted, "a", 0, 3⟩) rfl
  have htarget := hquoted.method (t := uper) rfl .noArguments
  have hspelled : (Phrase.expr e).SpelledBy [⟨.quoted, "a", 0, 3⟩, uper, lenn] found :=
    htarget.method (t := lenn) rfl .noArguments
  have hfindings : found.map (·.finding) = e.findings := hspelled.map_finding
  refine ⟨hparse, htokens, hspelled, hfindings, ?_, by decide⟩
  rw [firstFinding?, ← hfindings]
  rfl

end Expr

end ConditionLang
