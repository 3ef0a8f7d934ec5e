import ConditionLang.Proofs.Numerals
import ConditionLang.Proofs.Provenance

/-!
# Expressions that can be written

`Expr.Writable` says which trees have a spelling at all. Whatever the parser reads is writable (`writable_of_parse`): it is built
from tokens that have the shapes of their kinds, and the shape of a token is what `Writable` asks of the leaf it becomes.
-/

namespace ConditionLang

/-- A step that can be written: a property is a name but not that of a built-in, a key in brackets has no quotation mark. -/
def Access.Writable : Access → Prop
  | .property key => Token.isNameShaped key.toList = true ∧ isBuiltin key = false
  | .index key => '"' ∉ key.toList

namespace Expr

mutual

/-- An expression that can be written. -/
def Writable : Expr → Prop
  | .number value => Number.IsUnsigned value
  | .truth _ => True
  | .text value => '"' ∉ value.toList
  | .sequence items => WritableItems items
  | .dictionary pairs => pairs ≠ [] ∧ WritablePairs pairs
  | .range first last => Number.IsUnsigned first ∧ Number.IsUnsigned last
  | .reference ref =>
    Token.isNameShaped ref.name.toList = true ∧ ref.name ∉ reservedWords ∧ ∀ access ∈ ref.path, access.Writable
  | .binary _ left right => left.Writable ∧ right.Writable
  | .negation operand => operand.Writable
  | .binding value names => value.Writable ∧ names ≠ [] ∧ ∀ name ∈ names, Token.isNameShaped name.toList = true
  | .call name args => Token.isNameShaped name.toList = true ∧ WritableItems args
  | .method target name args => target.Writable ∧ Token.isNameShaped name.toList = true ∧ WritableItems args

/-- Items or arguments that can be written. -/
def WritableItems : List Expr → Prop
  | [] => True
  | item :: items => item.Writable ∧ WritableItems items

/-- Pairs whose keys are names and whose values can be written. -/
def WritablePairs : List (String × Expr) → Prop
  | [] => True
  | (key, value) :: pairs => Token.isNameShaped key.toList = true ∧ value.Writable ∧ WritablePairs pairs

end

/-- Items are writable if each of them is. -/
theorem writableItems_of_forall {items : List Expr} (h : ∀ item ∈ items, item.Writable) : WritableItems items := by
  induction items with
  | nil => trivial
  | cons item items ih => exact ⟨h item List.mem_cons_self, ih fun item hmem => h item (List.mem_cons_of_mem _ hmem)⟩

/-- Pairs are writable if their keys are names and their values are writable. -/
theorem writablePairs_of_forall {pairs : List (String × Expr)}
    (hkeys : ∀ pair ∈ pairs, Token.isNameShaped pair.1.toList = true) (hvalues : ∀ pair ∈ pairs, pair.2.Writable) :
    WritablePairs pairs := by
  induction pairs with
  | nil => trivial
  | cons pair pairs ih =>
    rw [List.forall_mem_cons] at hkeys hvalues
    exact ⟨hkeys.1, hvalues.1, ih hkeys.2 hvalues.2⟩

end Expr

/-! ## What tokens of given shapes spell -/

section

variable {S : Token → Prop} (hS : ∀ t, S t → t.Shaped)
include hS

/-- What a token of its shape spells has that shape. -/
theorem Token.Spells.admits {kind : Token.Kind} {text : String} (h : Token.Spells S kind text) :
    kind.Admits text.toList := by
  obtain ⟨t, ht, rfl, rfl⟩ := h
  exact hS t ht

/-- What a token of its shape denotes has no sign. -/
theorem Token.Denotes.isUnsigned {x : Float} (h : Token.Denotes S x) : Number.IsUnsigned x := by
  obtain ⟨t, ht, hkind, hx⟩ := h
  have hshaped : t.kind.Admits t.text.toList := hS t ht
  rw [hkind] at hshaped
  exact Number.isUnsigned_of_read hshaped hx

/-- A step built from tokens of their shapes is writable. -/
theorem Access.BuiltFrom.writable {access : Access} (h : access.BuiltFrom S) : access.Writable := by
  cases access with
  | property key => exact ⟨h.1.admits hS, h.2⟩
  | index key =>
    rcases h with hquoted | hnumber
    · exact hquoted.admits hS
    · intro hmem
      have hnumeral : Lexeme.IsNumeral key.toList := hnumber.admits hS
      rcases hnumeral.isDigit_or_eq hmem with hdigit | hdot
      · exact absurd hdigit (by decide)
      · exact absurd hdot (by decide)

/-- An expression built from tokens of their shapes is writable. -/
theorem Expr.BuiltFrom.writable {e : Expr} (h : e.BuiltFrom S) : e.Writable := by
  induction h with
  | number h => exact h.isUnsigned hS
  | truth => trivial
  | text h => exact h.admits hS
  | sequence _ ih => exact writableItems_of_forall ih
  | dictionary hne hkeys _ ih => exact ⟨hne, writablePairs_of_forall (fun pair hmem => (hkeys pair hmem).admits hS) ih⟩
  | range hfirst hlast => exact ⟨hfirst.isUnsigned hS, hlast.isUnsigned hS⟩
  | reference hname hreserved hpath =>
    exact ⟨hname.admits hS, hreserved, fun access hmem => (hpath access hmem).writable hS⟩
  | binary _ _ ihleft ihright => exact ⟨ihleft, ihright⟩
  | negation _ ih => exact ih
  | binding _ hne hnames ih => exact ⟨ih, hne, fun name hmem => (hnames name hmem).admits hS⟩
  | call hname _ ih => exact ⟨hname.admits hS, writableItems_of_forall ih⟩
  | method _ hname _ ihtarget ihargs => exact ⟨ihtarget, hname.admits hS, writableItems_of_forall ihargs⟩

end

/-- Whatever a text spells can be written. -/
theorem Expr.writable_of_parse {mode : LexMode} {text : List Char} {e : Expr} (h : parse mode text = .ok e) :
    e.Writable :=
  (builtFrom_of_parse (fun _ => shaped_of_tokenize) h).writable fun _ => id

end ConditionLang
