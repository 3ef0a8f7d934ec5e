import ConditionLang.Proofs.Spelling
import ConditionLang.Proofs.Writable

/-!
# Texts of expressions

A text for every expression, as snippets. Every operand, item and argument stands in parentheses, so that an expression is
always followed by a closing parenthesis or by the end of the text. The snippets of a writable expression fit
(`fits_snippets`): the text is cut into their tokens.
-/

namespace ConditionLang

/-- Operators are written differently. -/
theorem Operator.symbol_injective {op op' : Operator} (h : op.symbol = op'.symbol) : op = op' := by
  cases op <;> cases op' <;> first | rfl | exact absurd h (by decide)

namespace Snippet

/-! ## Kinds of snippets -/

/-- A mark. -/
def mark (m : String) : Snippet :=
  ⟨false, .mark, m.toList⟩

/-- A name or a word. -/
def name (s : String) : Snippet :=
  ⟨false, .name, s.toList⟩

/-- A text in quotation marks. -/
def quoted (s : String) : Snippet :=
  ⟨false, .quoted, s.toList⟩

/-- A name after a dot. -/
def dotted (joined : Bool) (s : String) : Snippet :=
  ⟨joined, .dotted, s.toList⟩

/-- The literal of a number. -/
def literal (joined : Bool) (x : Float) : Snippet :=
  ⟨joined, .number, Number.literal x⟩

/-- An operator. -/
def operator : Operator → Snippet
  | .and => name "and"
  | .or => name "or"
  | op => mark op.symbol

/-- The steps of a reference. -/
def path : List Access → List Snippet → List Snippet
  | [], rest => rest
  | .property key :: steps, rest => dotted true key :: path steps rest
  | .index key :: steps, rest => mark "[" :: quoted key :: mark "]" :: path steps rest

/-- Names separated by commas. -/
def names : List String → List Snippet → List Snippet
  | [], rest => rest
  | [s], rest => name s :: rest
  | s :: more, rest => name s :: mark "," :: names more rest

end Snippet

namespace Expr

open Snippet

mutual

/-- The snippets of an expression, followed by others. -/
def snippets : Expr → List Snippet → List Snippet
  | .number value, rest => literal false value :: rest
  | .truth value, rest => name (if value then "True" else "False") :: rest
  | .text value, rest => quoted value :: rest
  | .sequence items, rest => mark "\x7b" :: itemSnippets items (mark "\x7d" :: rest)
  | .dictionary pairs, rest => mark "\x7b" :: pairSnippets pairs (mark "\x7d" :: rest)
  | .range first last, rest => literal false first :: ⟨true, .mark, ['.', '.']⟩ :: literal true last :: rest
  | .reference ref, rest => name ref.name :: path ref.path rest
  | .binary op left right, rest =>
    mark "(" :: left.snippets (mark ")" :: operator op :: mark "(" :: right.snippets (mark ")" :: rest))
  | .negation operand, rest => name "not" :: mark "(" :: operand.snippets (mark ")" :: rest)
  | .binding value bound, rest => mark "(" :: value.snippets (mark ")" :: mark ">>" :: names bound rest)
  | .call function args, rest => dotted false function :: argumentSnippets args rest
  | .method target function args, rest =>
    mark "(" :: target.snippets (mark ")" :: dotted true function :: argumentSnippets args rest)

/-- The snippets of arguments. -/
def argumentSnippets : List Expr → List Snippet → List Snippet
  | [], rest => rest
  | arg :: args, rest => mark "(" :: arg.snippets (mark ")" :: argumentSnippets args rest)

/-- The snippets of the items of a table. -/
def itemSnippets : List Expr → List Snippet → List Snippet
  | [], rest => rest
  | item :: items, rest => mark "(" :: item.snippets (mark ")" :: mark "," :: itemSnippets items rest)

/-- The snippets of the pairs of a table. -/
def pairSnippets : List (String × Expr) → List Snippet → List Snippet
  | [], rest => rest
  | (key, value) :: pairs, rest =>
    name key :: mark "=" :: mark "(" :: value.snippets (mark ")" :: mark "," :: pairSnippets pairs rest)

end

/-- A text that spells an expression. -/
def spelling (e : Expr) : List Char :=
  write (e.snippets [])

end Expr

/-! ## The snippets fit -/

namespace Snippet

variable {rest : List Snippet}

/-- Steps before what breaks a name off break it off too. -/
theorem breaks_path (hrest : Breaks rest) (steps : List Access) : Breaks (path steps rest) := by
  cases steps with
  | nil => exact hrest
  | cons access steps =>
    cases access with
    | property key => exact breaks_dotted
    | index key => exact (loose_cons rfl).breaks

/-- Writable steps fit before what breaks a name off. -/
theorem fits_path (hrest : Breaks rest) (hfits : Fits rest) {steps : List Access}
    (h : ∀ access ∈ steps, access.Writable) : Fits (path steps rest) := by
  induction steps with
  | nil => exact hfits
  | cons access steps ih =>
    have hbreaks := breaks_path hrest steps
    have hsteps := ih fun access hmem => h access (List.mem_cons_of_mem _ hmem)
    have haccess := h access List.mem_cons_self
    cases access with
    | property key => exact fits_dotted haccess.1 hbreaks hsteps
    | index key =>
      refine fits_mark (by decide) (loose_cons rfl).breaks (fits_quoted haccess ?_)
      exact fits_mark (by decide) hbreaks hsteps

/-- Names with commas between them fit before what breaks a name off. -/
theorem fits_names (hrest : Breaks rest) (hfits : Fits rest) {bound : List String}
    (h : ∀ s ∈ bound, Token.isNameShaped s.toList = true) : Fits (names bound rest) := by
  induction bound with
  | nil => exact hfits
  | cons s more ih =>
    have hs := h s List.mem_cons_self
    have hmore := ih fun s hmem => h s (List.mem_cons_of_mem _ hmem)
    cases more with
    | nil => exact fits_name hs hrest hfits
    | cons s' more =>
      have hbreaks : Breaks (names (s' :: more) rest) := by
        cases more with
        | nil => exact (loose_cons rfl).breaks
        | cons _ _ => exact (loose_cons rfl).breaks
      exact fits_name hs (loose_cons rfl).breaks (fits_mark (by decide) hbreaks hmore)

/-- An operator fits before what starts with a blank. -/
theorem fits_operator (op : Operator) (hrest : Loose rest) (hfits : Fits rest) : Fits (operator op :: rest) := by
  cases op with
  | and | or => exact fits_name (by decide) hrest.breaks hfits
  | add | sub | mul | div | mod | gt | lt => exact fits_mark (by decide) hrest.breaks hfits
  | floorDiv | eq | ne | ge | le | concat => exact fits_doubleMark (by decide) hfits

theorem joined_operator (op : Operator) : (operator op).joined = false := by
  cases op <;> rfl

end Snippet

namespace Expr

open Snippet

variable {rest : List Snippet}

/-- An expression is written after a blank. -/
theorem loose_snippets (e : Expr) (rest : List Snippet) : Loose (e.snippets rest) := by
  cases e <;> (rw [snippets]; exact loose_cons rfl)

theorem loose_argumentSnippets (args : List Expr) (hrest : Loose rest) : Loose (argumentSnippets args rest) := by
  cases args with
  | nil => exact hrest
  | cons arg args => exact loose_cons rfl

theorem loose_itemSnippets (items : List Expr) (hrest : Loose rest) : Loose (itemSnippets items rest) := by
  cases items with
  | nil => exact hrest
  | cons item items => exact loose_cons rfl

theorem loose_pairSnippets (pairs : List (String × Expr)) (hrest : Loose rest) : Loose (pairSnippets pairs rest) := by
  cases pairs with
  | nil => exact hrest
  | cons pair pairs => exact loose_cons rfl

/-- An expression in parentheses. -/
theorem fits_parentheses {e : Expr} (h : ∀ rest, Loose rest → Fits rest → Fits (e.snippets rest)) (hrest : Breaks rest)
    (hfits : Fits rest) : Fits (mark "(" :: e.snippets (mark ")" :: rest)) :=
  fits_mark (by decide) (loose_snippets e _).breaks (h _ (loose_cons rfl) (fits_mark (by decide) hrest hfits))

mutual

/-- The snippets of a writable expression fit before any that are separated from them. -/
theorem fits_snippets (e : Expr) (h : e.Writable) (rest : List Snippet) (hrest : Loose rest) (hfits : Fits rest) :
    Fits (e.snippets rest) := by
  cases e with
  | number value => exact fits_number (Number.isNumeral_literal value) hrest hfits
  | truth value =>
    cases value with
    | true => exact fits_name (by decide) hrest.breaks hfits
    | false => exact fits_name (by decide) hrest.breaks hfits
  | text value => exact fits_quoted h hfits
  | range first last => exact fits_range (Number.isNumeral_literal first) (Number.isNumeral_literal last) hrest hfits
  | reference ref => exact fits_name h.1 (breaks_path hrest.breaks _) (fits_path hrest.breaks hfits h.2.2)
  | sequence items =>
    have hclose : Fits (mark "\x7d" :: rest) := fits_mark (by decide) hrest.breaks hfits
    refine fits_mark (by decide) (loose_itemSnippets items (loose_cons rfl)).breaks ?_
    exact fits_itemSnippets items h _ (loose_cons rfl) hclose
  | dictionary pairs =>
    have hclose : Fits (mark "\x7d" :: rest) := fits_mark (by decide) hrest.breaks hfits
    refine fits_mark (by decide) (loose_pairSnippets pairs (loose_cons rfl)).breaks ?_
    exact fits_pairSnippets pairs h.2 _ (loose_cons rfl) hclose
  | binary op left right =>
    have hright := fits_parentheses (fits_snippets right h.2) hrest.breaks hfits
    have hop := fits_operator op (loose_cons rfl) hright
    exact fits_parentheses (fits_snippets left h.1) (loose_cons (joined_operator op)).breaks hop
  | negation operand =>
    exact fits_name (by decide) (loose_cons rfl).breaks (fits_parentheses (fits_snippets operand h) hrest.breaks hfits)
  | binding value bound =>
    have hmark : Fits (mark ">>" :: names bound rest) :=
      fits_doubleMark (by decide) (fits_names hrest.breaks hfits h.2.2)
    exact fits_parentheses (fits_snippets value h.1) (loose_cons rfl).breaks hmark
  | call function args =>
    exact fits_dotted h.1 (loose_argumentSnippets args hrest).breaks (fits_argumentSnippets args h.2 _ hrest hfits)
  | method target function args =>
    have hargs := fits_argumentSnippets args h.2.2 _ hrest hfits
    have hdotted : Fits (dotted true function :: argumentSnippets args rest) :=
      fits_dotted h.2.1 (loose_argumentSnippets args hrest).breaks hargs
    exact fits_parentheses (fits_snippets target h.1) breaks_dotted hdotted

/-- Writable arguments fit. -/
theorem fits_argumentSnippets (args : List Expr) (h : WritableItems args) (rest : List Snippet) (hrest : Loose rest)
    (hfits : Fits rest) : Fits (argumentSnippets args rest) := by
  cases args with
  | nil => exact hfits
  | cons arg args =>
    have hargs := fits_argumentSnippets args h.2 _ hrest hfits
    exact fits_parentheses (fits_snippets arg h.1) (loose_argumentSnippets args hrest).breaks hargs

/-- Writable items fit. -/
theorem fits_itemSnippets (items : List Expr) (h : WritableItems items) (rest : List Snippet) (hrest : Loose rest)
    (hfits : Fits rest) : Fits (itemSnippets items rest) := by
  cases items with
  | nil => exact hfits
  | cons item items =>
    have hitems := fits_itemSnippets items h.2 _ hrest hfits
    have hcomma : Fits (mark "," :: itemSnippets items rest) :=
      fits_mark (by decide) (loose_itemSnippets items hrest).breaks hitems
    exact fits_parentheses (fits_snippets item h.1) (loose_cons rfl).breaks hcomma

/-- Writable pairs fit. -/
theorem fits_pairSnippets (pairs : List (String × Expr)) (h : WritablePairs pairs) (rest : List Snippet)
    (hrest : Loose rest) (hfits : Fits rest) : Fits (pairSnippets pairs rest) := by
  cases pairs with
  | nil => exact hfits
  | cons pair pairs =>
    obtain ⟨key, value⟩ := pair
    have hpairs := fits_pairSnippets pairs h.2.2 _ hrest hfits
    have hcomma : Fits (mark "," :: pairSnippets pairs rest) :=
      fits_mark (by decide) (loose_pairSnippets pairs hrest).breaks hpairs
    have hvalue := fits_parentheses (fits_snippets value h.2.1) (loose_cons rfl).breaks hcomma
    exact fits_name h.1 (loose_cons rfl).breaks (fits_mark (by decide) (loose_cons rfl).breaks hvalue)

end

end Expr

end ConditionLang
