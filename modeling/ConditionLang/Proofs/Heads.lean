import ConditionLang.Proofs.Leaves

/-!
# Heads of canonical texts

Bindings and method calls are written without parentheses after the expression they apply to, so a canonical text is that of
an expression of another kind, its head, and of the suffixes attached to it (`canonicalChars_eq`). The first character of a
head tells between the kinds that it can be of, up to numbers and ranges, truth values and variables, operators and negations,
and if the parts of a head are known from their texts so is the head.
-/

namespace ConditionLang

/-- An expression that is built from plain tokens. -/
def Expr.Plain (e : Expr) : Prop :=
  e.BuiltFrom Token.Plain

/-! ## Heads and suffixes -/

/-- What is written after the expression it applies to: the names of a binding, or a method and its arguments. -/
inductive Suffix where
  | bind (names : List String)
  | call (name : String) (args : List Expr)

namespace Suffix

/-- The expression that a suffix makes of another one. -/
def attach (target : Expr) : Suffix → Expr
  | .bind names => .binding target names
  | .call name args => .method target name args

/-- The canonical text of a suffix. -/
def canonical : Suffix → List Char
  | .bind names => " >> [".toList ++ (joinWith [' '] (names.map String.toList) ++ [']'])
  | .call name args => (Expr.call name args).canonicalChars

/-- A suffix that is built from plain tokens. -/
def Plain : Suffix → Prop
  | .bind names => ∀ name ∈ names, Token.isNameShaped name.toList = true
  | .call name args => (Expr.call name args).Plain

/-- After a suffix, what comes before has ended. -/
theorem Plain.halts {suffix : Suffix} (h : suffix.Plain) (r : List Char) : Halts (suffix.canonical ++ r) := by
  cases suffix with
  | bind names => exact .mark (by decide)
  | call name args =>
    cases h with
    | call hname =>
      rw [canonical, Expr.canonicalChars, List.append_assoc, List.append_assoc]
      exact .call hname.admits_of_plain

/-- A suffix does not follow a whole expression. -/
theorem not_closes (suffix : Suffix) (r : List Char) : ¬Closes (suffix.canonical ++ r) := by
  intro hcloses
  generalize htext : suffix.canonical ++ r = s at hcloses
  cases suffix with
  | bind names =>
    cases hcloses with
    | nil => cases htext
    | mark h => exact absurd ((List.cons.inj htext).1 ▸ h) (by decide)
    | operator op s => cases op <;> cases htext
  | call name args =>
    cases hcloses with
    | nil => cases htext
    | mark h => exact absurd ((List.cons.inj htext).1 ▸ h) (by decide)
    | operator op s => cases (List.cons.inj htext).1

end Suffix

namespace Expr

/-- The kinds of text that a head can start with. -/
inductive Opening where
  | digits | word | quote | bracket | brace | paren | dot
  deriving DecidableEq

/-- What a character opens. -/
def Opening.of? (c : Char) : Option Opening :=
  if c.isDigit then some .digits
  else if Token.isNameStart c then some .word
  else match c with
    | '"' => some .quote
    | '[' => some .bracket
    | '\x7b' => some .brace
    | '(' => some .paren
    | '.' => some .dot
    | _ => none

/-- The first character of a name opens a word. -/
theorem Opening.of?_of_isNameStart {c : Char} (h : Token.isNameStart c = true) : Opening.of? c = some .word := by
  unfold Opening.of?
  rw [Token.isDigit_of_isNameStart h, if_neg Bool.false_ne_true, if_pos h]

/-- How the text of an expression opens, if the expression is a head. -/
def opening? : Expr → Option Opening
  | .number _ | .range _ _ => some .digits
  | .truth _ | .reference _ => some .word
  | .text _ => some .quote
  | .sequence _ => some .bracket
  | .dictionary _ => some .brace
  | .binary _ _ _ | .negation _ => some .paren
  | .call _ _ => some .dot
  | .binding _ _ | .method _ _ _ => none

/-- The expression that all suffixes are attached to. -/
def head : Expr → Expr
  | .binding value _ => value.head
  | .method target _ _ => target.head
  | e => e

/-- The suffixes of an expression, the first one written first. -/
def suffixes : Expr → List Suffix
  | .binding value names => value.suffixes ++ [.bind names]
  | .method target name args => target.suffixes ++ [.call name args]
  | _ => []

/-- What is true of heads, and of what bindings and methods make of an expression if it is true of that, is true of all. -/
theorem head_induction {motive : Expr → Prop}
    (head : ∀ e : Expr, e.head = e → e.suffixes = [] → e.opening?.isSome = true → motive e)
    (binding : ∀ value names, motive value → motive (.binding value names))
    (method : ∀ target name args, motive target → motive (.method target name args)) (e : Expr) : motive e := by
  fun_induction Expr.head e with
  | case1 value names ih => exact binding value names ih
  | case2 target name args ih => exact method target name args ih
  | case3 e hbinding hmethod =>
    cases e with
    | binding value names => exact (hbinding value names rfl).elim
    | method target name args => exact (hmethod target name args rfl).elim
    | _ => exact head _ rfl rfl rfl

/-- An expression is its head with its suffixes attached. -/
theorem foldl_attach_suffixes (e : Expr) : e.suffixes.foldl Suffix.attach e.head = e := by
  induction e using head_induction with
  | head e hhead hsuffixes => rw [hhead, hsuffixes, List.foldl_nil]
  | binding value names ih => rw [suffixes, List.foldl_append, head, ih]; rfl
  | method target name args ih => rw [suffixes, List.foldl_append, head, ih]; rfl

/-- The canonical text of an expression is that of its head and then those of its suffixes. -/
theorem canonicalChars_eq (e : Expr) :
    e.canonicalChars = e.head.canonicalChars ++ e.suffixes.flatMap Suffix.canonical := by
  induction e using head_induction with
  | head e hhead hsuffixes => rw [hhead, hsuffixes, List.flatMap_nil, List.append_nil]
  | binding value names ih =>
    rw [canonicalChars, ih, head, suffixes, List.flatMap_append, List.flatMap_singleton, Suffix.canonical]
    simp only [List.append_assoc]
  | method target name args ih =>
    rw [canonicalChars, ih, head, suffixes, List.flatMap_append, List.flatMap_singleton, Suffix.canonical, canonicalChars]
    simp only [List.append_assoc, List.cons_append]

/-- A plain expression that is not made by attaching a suffix. -/
def IsHead (e : Expr) : Prop :=
  e.Plain ∧ e.opening?.isSome = true

/-- The head of a plain expression is a plain head. -/
theorem Plain.isHead_head {e : Expr} (h : e.Plain) : e.head.IsHead := by
  induction e using head_induction with
  | head e hhead _ hopens => exact hhead.symm ▸ ⟨h, hopens⟩
  | binding value names ih =>
    cases h with
    | binding hvalue => exact ih hvalue
  | method target name args ih =>
    cases h with
    | method htarget => exact ih htarget

theorem Plain.suffixes {e : Expr} (h : e.Plain) : ∀ suffix ∈ e.suffixes, suffix.Plain := by
  induction e using head_induction with
  | head e _ hsuffixes => exact hsuffixes ▸ List.forall_mem_nil _
  | binding value names ih =>
    cases h with
    | binding hvalue _ hnames =>
      exact List.forall_mem_append.mpr ⟨ih hvalue,
        List.forall_mem_singleton.mpr fun name hmem => (hnames name hmem).admits_of_plain⟩
  | method target name args ih =>
    cases h with
    | method htarget hname hargs =>
      exact List.forall_mem_append.mpr ⟨ih htarget, List.forall_mem_singleton.mpr (.call hname hargs)⟩

/-- Before suffixes and a closing mark, what comes before has ended. -/
theorem halts_suffixes {suffixes : List Suffix} (h : ∀ suffix ∈ suffixes, suffix.Plain) {r : List Char} (hr : Closes r) :
    Halts (suffixes.flatMap Suffix.canonical ++ r) := by
  cases suffixes with
  | nil => exact hr.halts
  | cons suffix suffixes =>
    rw [List.flatMap_cons, List.append_assoc]
    exact (h suffix List.mem_cons_self).halts _

/-! ## How a head opens -/

/-- The first character of a head tells how it opens. -/
theorem IsHead.exists_cons {e : Expr} (h : e.IsHead) :
    ∃ c rest, e.canonicalChars = c :: rest ∧ Opening.of? c = e.opening? := by
  have hdigits : ∀ (x : Float) (s : List Char), Token.Denotes Token.Plain x →
      ∃ c rest, (Number.text x).toList ++ s = c :: rest ∧ Opening.of? c = some .digits := by
    intro x s hx
    obtain ⟨c, rest, htext, hc⟩ := (Number.read?_text hx.unsigned_finite.1 hx.unsigned_finite.2).1.exists_cons
    exact ⟨c, rest ++ s, by rw [htext, List.cons_append], if_pos hc⟩
  obtain ⟨hplain, hhead⟩ := h
  cases hplain with
  | number h =>
    obtain ⟨c, rest, htext, hc⟩ := hdigits _ [] h
    exact ⟨c, rest, (List.append_nil _).symm.trans htext, hc⟩
  | range hfirst hlast =>
    rw [canonicalChars, List.append_assoc]
    exact hdigits _ _ hfirst
  | truth value =>
    cases value with
    | true => exact ⟨'T', _, rfl, by decide⟩
    | false => exact ⟨'F', _, rfl, by decide⟩
  | reference hname hreserved hpath =>
    have hshaped := hname.admits_of_plain
    obtain ⟨c, rest, htext, hc, -⟩ := Lexeme.isNameStart_of_isNameShaped hshaped
    rw [canonicalChars, Reference.canonical, htext]
    exact ⟨c, _, rfl, Opening.of?_of_isNameStart hc⟩
  | text h => exact ⟨'"', _, rfl, rfl⟩
  | sequence h => exact ⟨'[', _, rfl, rfl⟩
  | @dictionary pairs hne hkeys hvalues =>
    cases pairs with
    | nil => exact absurd rfl hne
    | cons pair pairs => exact ⟨'\x7b', _, rfl, rfl⟩
  | binary hleft hright => exact ⟨'(', _, rfl, rfl⟩
  | negation h => exact ⟨'(', _, rfl, rfl⟩
  | call hname hargs => exact ⟨'.', _, rfl, rfl⟩
  | binding | method => cases hhead

/-- Heads of one text open alike. -/
theorem opening?_eq {e e' : Expr} (h : e.IsHead) (h' : e'.IsHead) {r s : List Char}
    (htext : e.canonicalChars ++ r = e'.canonicalChars ++ s) : e.opening? = e'.opening? := by
  obtain ⟨c, rest, hcons, hopening⟩ := h.exists_cons
  obtain ⟨c', rest', hcons', hopening'⟩ := h'.exists_cons
  rw [hcons, hcons', List.cons_append, List.cons_append] at htext
  rw [← hopening, ← hopening', (List.cons.inj htext).1]

/-- No expression starts with a mark that closes one. -/
theorem Plain.head?_ne {e : Expr} (h : e.Plain) {close : Char} (hclose : Opening.of? close = none) (r : List Char) :
    (e.canonicalChars ++ r).head? ≠ some close := by
  obtain ⟨c, rest, hcons, hopening⟩ := h.isHead_head.exists_cons
  have hhead := h.isHead_head.2
  rw [canonicalChars_eq, hcons]
  rintro ⟨⟩
  rw [← hopening, hclose] at hhead
  cases hhead

/-! ## Lists of expressions and of names -/

/-- Wherever an expression may stand, the text of `e` is that of no other plain expression. -/
def Legible (e : Expr) : Prop :=
  Determined canonicalChars Closes Plain e

theorem canonicalItems_eq_map (items : List Expr) : canonicalItems items = items.map canonicalChars := by
  induction items with
  | nil => rfl
  | cons item items ih => rw [canonicalItems, ih, List.map_cons]

/-- The canonical text of a key and its value. -/
def pairChars (pair : String × Expr) : List Char :=
  pair.1.toList ++ (" = ".toList ++ pair.2.canonicalChars)

theorem canonicalPairs_eq_map (pairs : List (String × Expr)) : canonicalPairs pairs = pairs.map pairChars := by
  induction pairs with
  | nil => rfl
  | cons pair pairs ih => rw [canonicalPairs, ih, List.map_cons, pairChars, List.append_assoc]

/-- Plain items can be read off their canonical text before the closing mark. -/
theorem determined_items {close : Char} (hclose : close ∈ [')', ']', '\x7d']) {items : List Expr}
    (hplain : ∀ item ∈ items, item.Plain) (hlegible : ∀ item ∈ items, item.Legible) :
    Determined (fun items => joinWith [',', ' '] (canonicalItems items)) (fun r => r.head? = some close)
      (fun items => ∀ item ∈ items, item.Plain) items := by
  have hopens : [')', ']', '\x7d'].all (fun c => Opening.of? c == none && c != ',') = true := by decide
  have hmark := List.all_eq_true.mp hopens close hclose
  rw [Bool.and_eq_true, beq_iff_eq, bne_iff_ne] at hmark
  simp only [canonicalItems_eq_map]
  exact Determined.joinWith hplain hlegible (fun r => .mark List.mem_cons_self) (fun r => closes_of_head? hclose)
    (fun item r hitem => hitem.head?_ne hmark.1 r) (fun r h => hmark.2 (Option.some.inj h).symm)

/-- The key and the value of a pair can be read off its canonical text. -/
theorem determined_pair {pair : String × Expr} (hkey : Token.isNameShaped pair.1.toList = true) (hvalue : pair.2.Legible) :
    Determined pairChars Closes (fun pair => Token.isNameShaped pair.1.toList = true ∧ pair.2.Plain) pair := by
  obtain ⟨key, value⟩ := pair
  rintro ⟨key', value'⟩ r s h' hr hs htext
  simp only [pairChars, List.append_assoc] at htext
  have hequals : ∀ t, Token.Kind.name.Stops [] (" = ".toList ++ t) := fun t => stops_name_cons rfl _
  obtain ⟨rfl, hrest⟩ := determined_name hkey key' _ _ h'.1 (hequals _) (hequals _) htext
  obtain ⟨rfl, rfl⟩ := hvalue value' r s h'.2 hr hs (List.append_cancel_left hrest)
  exact ⟨rfl, rfl⟩

theorem determined_pairs {pairs : List (String × Expr)} (hkeys : ∀ pair ∈ pairs, Token.isNameShaped pair.1.toList = true)
    (hplain : ∀ pair ∈ pairs, pair.2.Plain) (hlegible : ∀ pair ∈ pairs, pair.2.Legible) :
    Determined (fun pairs => joinWith [',', ' '] (canonicalPairs pairs)) (fun r => r.head? = some '\x7d')
      (fun pairs => ∀ pair ∈ pairs, Token.isNameShaped pair.1.toList = true ∧ pair.2.Plain) pairs := by
  simp only [canonicalPairs_eq_map]
  refine Determined.joinWith (fun pair hmem => ⟨hkeys pair hmem, hplain pair hmem⟩)
    (fun pair hmem => determined_pair (hkeys pair hmem) (hlegible pair hmem)) (fun r => .mark List.mem_cons_self)
    (fun r => closes_of_head? (by decide)) (fun pair r hpair => ?_) (fun r h => absurd h (by simp))
  rw [pairChars, List.append_assoc]
  exact head?_ne_of_isNameShaped hpair.1 rfl _

/-- Names can be read off their canonical text before the closing bracket. -/
theorem determined_names {names : List String} (h : ∀ name ∈ names, Token.isNameShaped name.toList = true) :
    Determined (fun names : List String => joinWith [' '] (names.map String.toList)) (fun r => r.head? = some ']')
      (fun names => ∀ name ∈ names, Token.isNameShaped name.toList = true) names := by
  refine Determined.joinWith h (fun name hmem => determined_name (h name hmem)) (fun r => stops_name_cons rfl r)
    (fun r hr => ?_) (fun name r hname => head?_ne_of_isNameShaped hname rfl r) (fun r h => absurd h (by simp))
  obtain ⟨s, rfl⟩ := List.head?_eq_some_iff.mp hr
  exact stops_name_cons rfl s

/-! ## Heads, by the way they open -/

section

variable {F : List Char → Prop}

/-- A head needs to be told only from those that open alike. -/
theorem determined_of_opening {e : Expr} (hhead : e.IsHead)
    (h : ∀ e' r s, e'.Plain → e.opening? = e'.opening? → F r → F s →
      e.canonicalChars ++ r = e'.canonicalChars ++ s → e = e' ∧ r = s) : Determined canonicalChars F IsHead e :=
  fun e' r s hhead' hr hs htext => h e' r s hhead'.1 (opening?_eq hhead hhead' htext) hr hs htext

theorem determined_call {name : String} {args : List Expr} (hplain : (call name args).Plain)
    (hlegible : ∀ arg ∈ args, arg.Legible) : Determined canonicalChars F IsHead (.call name args) := by
  refine determined_of_opening ⟨hplain, rfl⟩ fun e r s hplain' hopening hr hs htext => ?_
  cases hplain with
  | call hname hargs =>
    cases hplain' with
    | call hname' hargs' =>
      simp only [canonicalChars, List.cons_append, List.append_assoc, List.cons.injEq, true_and] at htext
      obtain ⟨rfl, hrest⟩ := determined_name hname.admits_of_plain _ _ _ hname'.admits_of_plain
        (stops_name_cons rfl _) (stops_name_cons rfl _) htext
      obtain ⟨rfl, hend⟩ := determined_items (by decide) hargs hlegible _ _ _ hargs' rfl rfl (List.cons.inj hrest).2
      exact ⟨rfl, (List.cons.inj hend).2⟩
    | _ => cases hopening

/-- A text can be read off its quotation. -/
theorem determined_text {value : String} (hplain : (text value).Plain) :
    Determined canonicalChars F IsHead (.text value) := by
  refine determined_of_opening ⟨hplain, rfl⟩ fun e r s hplain' hopening hr hs htext => ?_
  cases hplain with
  | text h =>
    cases hplain' with
    | text h' =>
      obtain ⟨rfl, rfl⟩ := determined_quoted h.admits_of_plain _ r s
        h'.admits_of_plain trivial trivial (List.cons.inj htext).2
      exact ⟨rfl, rfl⟩
    | _ => cases hopening

theorem determined_sequence {items : List Expr} (hplain : (sequence items).Plain)
    (hlegible : ∀ item ∈ items, item.Legible) : Determined canonicalChars F IsHead (.sequence items) := by
  refine determined_of_opening ⟨hplain, rfl⟩ fun e r s hplain' hopening hr hs htext => ?_
  cases hplain with
  | sequence hitems =>
    cases hplain' with
    | sequence hitems' =>
      simp only [canonicalChars, List.cons_append, List.append_assoc, List.cons.injEq, true_and] at htext
      obtain ⟨rfl, hend⟩ := determined_items (by decide) hitems hlegible _ _ _ hitems' rfl rfl htext
      exact ⟨rfl, (List.cons.inj hend).2⟩
    | _ => cases hopening

/-- A map that is not empty is written between braces. -/
theorem canonicalChars_dictionary {pairs : List (String × Expr)} (hne : pairs ≠ []) :
    (dictionary pairs).canonicalChars = '\x7b' :: (joinWith [',', ' '] (canonicalPairs pairs) ++ ['\x7d']) := by
  cases pairs with
  | nil => exact absurd rfl hne
  | cons pair pairs => rfl

/-- The pairs of a map can be read off its canonical text. -/
theorem determined_dictionary {pairs : List (String × Expr)} (hplain : (dictionary pairs).Plain)
    (hlegible : ∀ pair ∈ pairs, pair.2.Legible) : Determined canonicalChars F IsHead (.dictionary pairs) := by
  refine determined_of_opening ⟨hplain, rfl⟩ fun e r s hplain' hopening hr hs htext => ?_
  cases hplain with
  | dictionary hne hkeys hvalues =>
    cases hplain' with
    | dictionary hne' hkeys' hvalues' =>
      rw [canonicalChars_dictionary hne, canonicalChars_dictionary hne'] at htext
      simp only [List.cons_append, List.append_assoc, List.cons.injEq, true_and] at htext
      obtain ⟨rfl, hend⟩ := determined_pairs (fun pair hmem => (hkeys pair hmem).admits_of_plain)
        hvalues hlegible _ _ _
        (fun pair hmem => ⟨(hkeys' pair hmem).admits_of_plain, hvalues' pair hmem⟩) rfl rfl htext
      exact ⟨rfl, (List.cons.inj hend).2⟩
    | _ => cases hopening

end

/-! Numbers and ranges open with digits. -/

/-- A number stops before the two dots of a range. -/
theorem stops_dots (s : List Char) : Token.Kind.number.Stops [] ('.' :: '.' :: s) := by
  refine ⟨?_, fun rest hrest c hc => ?_⟩
  · rintro c ⟨⟩
    rfl
  · cases hrest
    cases hc
    rfl

/-- The dots of a range cannot follow a number. -/
theorem number_ne_range {x first last : Float} (hx : Token.Denotes Token.Plain x) (hfirst : Token.Denotes Token.Plain first)
    {r : List Char} (hr : Halts r) (s : List Char) :
    (number x).canonicalChars ++ r ≠ (range first last).canonicalChars ++ s := by
  intro htext
  simp only [canonicalChars, List.append_assoc] at htext
  obtain ⟨-, hrest⟩ := determined_number hx first _ _ hfirst hr.stops_number (stops_dots _) htext
  exact hr.ne_dots _ hrest

/-- A number can be read off its canonical text. -/
theorem determined_number_head {x : Float} (hplain : (number x).Plain) :
    Determined canonicalChars Halts IsHead (.number x) := by
  refine determined_of_opening ⟨hplain, rfl⟩ fun e r s hplain' hopening hr hs htext => ?_
  cases hplain with
  | number hx =>
    cases hplain' with
    | number hx' =>
      obtain ⟨rfl, rfl⟩ := determined_number hx _ r s hx' hr.stops_number hs.stops_number htext
      exact ⟨rfl, rfl⟩
    | range hfirst' hlast' => exact absurd htext (number_ne_range hx hfirst' hr s)
    | _ => cases hopening

theorem determined_range {first last : Float} (hplain : (range first last).Plain) :
    Determined canonicalChars Halts IsHead (.range first last) := by
  refine determined_of_opening ⟨hplain, rfl⟩ fun e r s hplain' hopening hr hs htext => ?_
  cases hplain with
  | range hfirst hlast =>
    cases hplain' with
    | number hx' => exact absurd htext.symm (number_ne_range hx' hfirst hs r)
    | range hfirst' hlast' =>
      simp only [canonicalChars, List.append_assoc] at htext
      obtain ⟨rfl, hrest⟩ := determined_number hfirst _ _ _ hfirst' (stops_dots _) (stops_dots _) htext
      obtain ⟨rfl, rfl⟩ := determined_number hlast _ r s hlast' hr.stops_number hs.stops_number
        (List.cons.inj (List.cons.inj hrest).2).2
      exact ⟨rfl, rfl⟩
    | _ => cases hopening

/-! Truth values and variables open with a word. -/

/-- The word and the steps that a head is written with, if it opens with a word. -/
def word? : Expr → Option Reference
  | .truth value => some ⟨if value then "True" else "False", []⟩
  | .reference ref => some ref
  | _ => none

/-- A truth value is written as the reference of its word would be. -/
theorem canonicalChars_truth (value : Bool) :
    (truth value).canonicalChars = (⟨if value then "True" else "False", []⟩ : Reference).canonical :=
  (List.append_nil _).symm

/-- A plain expression that is a word is written as a plain reference. -/
theorem Plain.canonicalChars_word {e : Expr} (h : e.Plain) {ref : Reference} (hword : e.word? = some ref) :
    e.canonicalChars = ref.canonical ∧ ref.Plain := by
  cases h with
  | truth value =>
    cases hword
    refine ⟨canonicalChars_truth value, ?_, List.forall_mem_nil _⟩
    cases value <;> decide
  | reference hname hreserved hpath =>
    cases hword
    have hsteps := fun access hmem => (hpath access hmem).writable fun _ => Token.Plain.shaped
    exact ⟨rfl, hname.admits_of_plain, hsteps⟩
  | _ => cases hword

/-- An expression that opens as a word is a word. -/
theorem exists_word {e : Expr} (h : e.opening? = some .word) : ∃ ref, e.word? = some ref := by
  cases e with
  | truth | reference => exact ⟨_, rfl⟩
  | _ => cases h

/-- The words of the truth values are reserved. -/
theorem truth_word_mem (value : Bool) : (if value then "True" else "False") ∈ reservedWords := by
  cases value <;> decide

/-- A word that is reserved names no variable, so different heads have different words. -/
theorem Plain.eq_of_word {e e' : Expr} (h : e.Plain) (h' : e'.Plain) {ref : Reference} (hword : e.word? = some ref)
    (hword' : e'.word? = some ref) : e = e' := by
  cases h with
  | truth value =>
    cases hword
    cases h' with
    | truth value' => cases value <;> cases value' <;> first | rfl | exact absurd hword' (by simp [word?])
    | reference hname hreserved hpath =>
      cases hword'
      exact absurd (truth_word_mem value) hreserved
    | _ => cases hword'
  | reference hname hreserved hpath =>
    cases hword
    cases h' with
    | truth value' =>
      cases hword'
      exact absurd (truth_word_mem value') hreserved
    | reference => cases hword'; rfl
    | _ => cases hword'
  | _ => cases hword

/-- A word can be read off its canonical text. -/
theorem determined_word {e : Expr} (hplain : e.Plain) (hopens : e.opening? = some .word) :
    Determined canonicalChars Halts IsHead e := by
  refine determined_of_opening ⟨hplain, hopens ▸ rfl⟩ fun e' r s hplain' hopening hr hs htext => ?_
  obtain ⟨ref, hword⟩ := exists_word hopens
  obtain ⟨ref', hword'⟩ := exists_word (hopening ▸ hopens)
  obtain ⟨heq, href⟩ := hplain.canonicalChars_word hword
  obtain ⟨heq', href'⟩ := hplain'.canonicalChars_word hword'
  rw [heq, heq'] at htext
  obtain ⟨rfl, rfl⟩ := determined_reference href ref' r s href' hr hs htext
  exact ⟨hplain.eq_of_word hplain' hword hword', rfl⟩

/-! Operators and negations open with a parenthesis. -/

/-- No plain expression is the word `not`. -/
theorem Plain.word?_ne_not {e : Expr} (h : e.Plain) : e.word? ≠ some ⟨"not", []⟩ := by
  intro hword
  cases h with
  | truth value => cases value <;> exact absurd hword (by simp [word?])
  | reference hname hreserved hpath =>
    cases hword
    exact hreserved (by decide)
  | _ => cases hword

/-- The word `not` is no operand. -/
theorem Plain.ne_not {e : Expr} (h : e.Plain) {r : List Char} (hr : Closes r) (s : List Char) :
    e.canonicalChars ++ r ≠ "not ".toList ++ s := by
  intro htext
  rw [canonicalChars_eq, List.append_assoc] at htext
  obtain ⟨c, rest, hcons, hopening⟩ := h.isHead_head.exists_cons
  -- The first character makes the head a word, and the words of heads are not reserved.
  have hopens : e.head.opening? = some .word := by
    rw [← hopening]
    rw [hcons] at htext
    rw [(List.cons.inj htext).1]
    decide
  obtain ⟨ref, hword⟩ := exists_word hopens
  obtain ⟨heq, href⟩ := h.isHead_head.1.canonicalChars_word hword
  rw [heq] at htext
  obtain ⟨rfl, -⟩ := determined_reference href ⟨"not", []⟩ _ (' ' :: s) ⟨by decide, List.forall_mem_nil _⟩
    (halts_suffixes h.suffixes hr) (.mark (by decide)) htext
  exact h.isHead_head.1.word?_ne_not hword

section

variable {F : List Char → Prop}

/-- No operation in parentheses is written like a negation. -/
theorem binary_ne_negation {op : Operator} {left right operand : Expr} (hleft : left.Plain) (r s : List Char) :
    (binary op left right).canonicalChars ++ r ≠ (negation operand).canonicalChars ++ s := by
  intro htext
  simp only [canonicalChars, List.append_assoc, List.cons_append] at htext
  exact hleft.ne_not (.operator op _) _ (List.cons.inj htext).2

/-- The operator and the operands of an operation can be read off its canonical text. -/
theorem determined_binary {op : Operator} {left right : Expr} (hplain : (binary op left right).Plain)
    (hleft : left.Legible) (hright : right.Legible) : Determined canonicalChars F IsHead (.binary op left right) := by
  refine determined_of_opening ⟨hplain, rfl⟩ fun e r s hplain' hopening hr hs htext => ?_
  cases hplain' with
  | @binary op' left' right' hleft' hright' =>
    simp only [canonicalChars, List.cons_append, List.append_assoc, List.cons.injEq, true_and] at htext
    obtain ⟨rfl, hrest⟩ := hleft left' _ _ hleft' (.operator op _) (.operator op' _) htext
    obtain ⟨rfl, hlast⟩ := determined_symbol op op' (right.canonicalChars ++ ')' :: r)
      (right'.canonicalChars ++ ')' :: s) trivial trivial trivial (by simpa using hrest)
    obtain ⟨rfl, hend⟩ := hright right' _ _ hright' (.mark (by decide)) (.mark (by decide)) hlast
    exact ⟨rfl, (List.cons.inj hend).2⟩
  | negation h =>
    cases hplain with
    | binary hleft => exact absurd htext (binary_ne_negation hleft r s)
  | _ => cases hopening

theorem determined_negation {operand : Expr} (hplain : (negation operand).Plain) (hoperand : operand.Legible) :
    Determined canonicalChars F IsHead (.negation operand) := by
  refine determined_of_opening ⟨hplain, rfl⟩ fun e r s hplain' hopening hr hs htext => ?_
  cases hplain' with
  | binary hleft' => exact absurd htext.symm (binary_ne_negation hleft' s r)
  | negation h' =>
    simp only [canonicalChars, List.append_assoc] at htext
    obtain ⟨rfl, hrest⟩ := hoperand _ _ _ h' (.mark (by decide)) (.mark (by decide)) (List.append_cancel_left htext)
    exact ⟨rfl, (List.cons.inj hrest).2⟩
  | _ => cases hopening

end

end Expr

end ConditionLang
