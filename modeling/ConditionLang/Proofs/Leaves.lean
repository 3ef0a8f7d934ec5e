import ConditionLang.Proofs.Decimals
import ConditionLang.Proofs.Determined
import ConditionLang.Proofs.Writing

/-!
# Canonical texts of leaves

Names, quoted texts, symbols of operators and numbers end where their characters do, so their canonical texts are determined
before what can follow them. `Closes` says what may follow a whole expression and `Halts` what may follow an expression that
a binding or a method can still be attached to. The text of a variable is determined as well: a step that is followed by a
parenthesis is none. Numbers must be finite, because the text of infinity is a word.
-/

namespace ConditionLang

/-! ## Tokens of finite numbers -/

/-- The number that the token spells, if it is one, is finite. -/
def Token.IsFinite (t : Token) : Prop :=
  t.kind = .number → ∀ x, Number.read? t.text.toList = some x → x.isInf = false

instance (t : Token) : Decidable t.IsFinite :=
  decidable_of_iff (t.kind = .number → (Number.read? t.text.toList).all (!·.isInf) = true) <| imp_congr_right fun _ => by
    simp only [Option.all_eq_true, Bool.not_eq_true']

/-- The token has the shape of its kind and spells no infinite number. -/
def Token.Plain (t : Token) : Prop :=
  t.Shaped ∧ t.IsFinite

/-- A plain token has the shape of its kind. -/
theorem Token.Plain.shaped {t : Token} (h : t.Plain) : t.Shaped :=
  h.1

/-- What a plain token spells has the shape of its kind. -/
theorem Token.Spells.admits_of_plain {kind : Token.Kind} {text : String} (h : Token.Spells Token.Plain kind text) :
    kind.Admits text.toList :=
  h.admits fun _ => Token.Plain.shaped

/-- What a plain token denotes is a finite number without a sign. -/
theorem Token.Denotes.unsigned_finite {x : Float} (h : Token.Denotes Token.Plain x) :
    Number.IsUnsigned x ∧ x.isInf = false := by
  refine ⟨h.isUnsigned fun _ => Token.Plain.shaped, ?_⟩
  obtain ⟨t, ht, hkind, hx⟩ := h
  exact ht.2 hkind x hx

/-! ## Texts of leaves -/

/-- A text without the character that closes it. -/
theorem determined_append_singleton {α : Type} {text : α → List Char} {P : α → Prop} (close : Char)
    (hclose : ∀ a, P a → close ∉ text a) (hinj : ∀ a b, text a = text b → a = b) {a : α} (ha : P a) :
    Determined (fun a => text a ++ [close]) (fun _ => True) P a := by
  refine determined_of_cut (fun s => s.takeWhile (· != close) ++ [close]) (fun a r ha _ => ?_)
    (fun a b _ _ h => hinj a b (List.append_cancel_right h)) ha
  have hbody : (text a).all (· != close) = true :=
    List.all_eq_true.mpr fun c hc => bne_iff_ne.mpr fun heq => hclose a ha (heq ▸ hc)
  rw [List.append_assoc, Lexeme.takeWhile_append_of_stops hbody]
  rintro c ⟨⟩
  exact bne_self_eq_false close

/-- A text without quotation marks can be read off up to the closing mark. -/
theorem determined_quoted {value : String} (h : '"' ∉ value.toList) :
    Determined (fun s : String => s.toList ++ ['"']) (fun _ => True) (fun s => '"' ∉ s.toList) value :=
  determined_append_singleton '"' (fun _ => id) (fun _ _ => String.toList_injective) h

/-- The symbol of an operator ends at the blank after it. -/
theorem determined_symbol (op : Operator) :
    Determined (fun op : Operator => op.symbol.toList ++ [' ']) (fun _ => True) (fun _ => True) op := by
  refine determined_append_singleton ' ' (fun a _ => ?_) (fun a b h => ?_) trivial
  · cases a <;> decide
  · exact Operator.symbol_injective (String.toList_injective h)

/-- A name can be read off up to where it stops. -/
theorem determined_name {name : String} (h : Token.isNameShaped name.toList = true) :
    Determined String.toList (Token.Kind.name.Stops []) (fun s => Token.isNameShaped s.toList = true) name := by
  refine determined_of_cut (List.takeWhile Token.isNamePart) (fun s r hs hr => ?_)
    (fun _ _ _ _ => String.toList_injective) h
  obtain ⟨_, _, -, -, hall⟩ := Lexeme.isNameStart_of_isNameShaped hs
  exact Lexeme.takeWhile_append_of_stops hall hr

/-- A name stops before a character that is no part of a name. -/
theorem stops_name_cons {c : Char} (h : Token.isNamePart c = false) (s : List Char) :
    Token.Kind.name.Stops [] (c :: s) :=
  fun _ hc => Option.some.inj hc ▸ h

/-- A name does not start with a mark that starts no name. -/
theorem head?_ne_of_isNameShaped {name : String} (h : Token.isNameShaped name.toList = true) {close : Char}
    (hclose : Token.isNameStart close = false) (r : List Char) : (name.toList ++ r).head? ≠ some close := by
  obtain ⟨c, rest, htext, hc, -⟩ := Lexeme.isNameStart_of_isNameShaped h
  rw [htext]
  rintro ⟨⟩
  exact absurd hc (Bool.eq_false_iff.mp hclose)

/-- The text of a finite number ends where its digits do. -/
theorem determined_number {x : Float} (h : Token.Denotes Token.Plain x) :
    Determined (fun x => (Number.text x).toList) (Token.Kind.number.Stops []) (Token.Denotes Token.Plain) x := by
  have htext : ∀ y, Token.Denotes Token.Plain y →
      Lexeme.IsNumeral (Number.text y).toList ∧ Number.read? (Number.text y).toList = some y :=
    fun y hy => Number.read?_text hy.unsigned_finite.1 hy.unsigned_finite.2
  refine determined_of_cut Lexeme.numeral (fun y r hy hr => ?_) (fun y z hy hz heq => ?_) h
  · obtain ⟨whole, fraction, -, hwhole, hfraction, heq⟩ := (htext y hy).1
    simp only [heq]
    exact Lexeme.numeral_append hwhole hfraction hr
  · have hread := (htext y hy).2
    rw [heq, (htext z hz).2] at hread
    exact (Option.some.inj hread).symm

/-! ## What may follow -/

/-- What may follow the canonical text of an expression inside another one. -/
inductive Closes : List Char → Prop
  | nil : Closes []
  | mark {c : Char} {s : List Char} (h : c ∈ [',', ')', ']', '\x7d']) : Closes (c :: s)
  | operator (op : Operator) (s : List Char) : Closes (' ' :: (op.symbol.toList ++ ' ' :: s))

/-- What may follow a head: what may follow the whole expression, and suffixes. -/
inductive Halts : List Char → Prop
  | nil : Halts []
  | mark {c : Char} {s : List Char} (h : c ∈ [',', ')', ']', '\x7d', ' ']) : Halts (c :: s)
  | call {name : String} {s : List Char} (h : Token.isNameShaped name.toList = true) : Halts ('.' :: (name.toList ++ '(' :: s))

/-- Before a closing mark, an expression has ended. -/
theorem Closes.halts {r : List Char} (h : Closes r) : Halts r := by
  cases h with
  | nil => exact .nil
  | mark h => exact .mark (List.mem_append_left [' '] h)
  | operator op s => exact .mark (by decide)

/-- Where an expression has ended, a name stops. -/
theorem Halts.stops_name {r : List Char} (h : Halts r) : Token.Kind.name.Stops [] r := by
  have hmarks : [',', ')', ']', '\x7d', ' '].all (!Token.isNamePart ·) = true := by decide
  rintro c hc
  cases h with
  | nil => cases hc
  | mark h => exact Option.some.inj hc ▸ (Bool.not_eq_true' _).mp (List.all_eq_true.mp hmarks _ h)
  | call h => exact Option.some.inj hc ▸ rfl

/-- Where an expression has ended, a number stops. -/
theorem Halts.stops_number {r : List Char} (h : Halts r) : Token.Kind.number.Stops [] r := by
  have hmarks : [',', ')', ']', '\x7d', ' '].all (fun c => !c.isDigit && c != '.') = true := by decide
  cases h with
  | nil => exact ⟨fun _ hc => (nomatch hc), fun _ hs => (nomatch hs)⟩
  | mark h =>
    have hmark := List.all_eq_true.mp hmarks _ h
    rw [Bool.and_eq_true, Bool.not_eq_true', bne_iff_ne] at hmark
    exact ⟨fun c hc => Option.some.inj hc ▸ hmark.1, fun s hs => absurd (List.cons.inj hs).1 hmark.2⟩
  | call h =>
    obtain ⟨c, s, hname, hstart, -⟩ := Lexeme.isNameStart_of_isNameShaped h
    refine ⟨fun d hd => Option.some.inj hd ▸ rfl, fun rest hrest d hd => ?_⟩
    rw [← (List.cons.inj hrest).2, hname] at hd
    exact Option.some.inj hd ▸ Token.isDigit_of_isNameStart hstart

/-- Two dots do not follow a head. -/
theorem Halts.ne_dots {r : List Char} (h : Halts r) (s : List Char) : r ≠ '.' :: '.' :: s := by
  rintro rfl
  generalize hr : '.' :: '.' :: s = r at h
  cases h with
  | nil => cases hr
  | mark h =>
    obtain ⟨rfl, -⟩ := List.cons.inj hr
    exact absurd h (by decide)
  | call h =>
    obtain ⟨c, s', hname, hstart, -⟩ := Lexeme.isNameStart_of_isNameShaped h
    rw [hname] at hr
    obtain ⟨rfl, -⟩ := List.cons.inj (List.cons.inj hr).2
    cases hstart

/-- A text that starts with a closing mark closes. -/
theorem closes_of_head? {close : Char} (hclose : close ∈ [')', ']', '\x7d']) {r : List Char} (h : r.head? = some close) :
    Closes r := by
  obtain ⟨s, rfl⟩ := List.head?_eq_some_iff.mp h
  exact .mark (List.mem_cons_of_mem ',' hclose)

/-! ## References -/

/-- What may follow a step: no call, which would make the step a method. -/
def EndsStep (r : List Char) : Prop :=
  ∀ c ∈ r.head?, Token.isNamePart c = false ∧ c ≠ '('

/-- A variable whose names and steps have the shapes that tokens give them. -/
def Reference.Plain (ref : Reference) : Prop :=
  Token.isNameShaped ref.name.toList = true ∧ ∀ access ∈ ref.path, access.Writable

/-- A step can be read off its canonical text. -/
theorem determined_access {access : Access} (h : access.Writable) :
    Determined Access.canonical EndsStep Access.Writable access := by
  intro access' r s h' hr hs htext
  cases access with
  | property key =>
    cases access' with
    | property key' =>
      obtain ⟨rfl, rfl⟩ := determined_name h.1 key' r s h'.1 (fun c hc => (hr c hc).1)
        (fun c hc => (hs c hc).1) (List.cons.inj htext).2
      exact ⟨rfl, rfl⟩
    | index key' => cases (List.cons.inj htext).1
  | index key =>
    cases access' with
    | property key' => cases (List.cons.inj htext).1
    | index key' =>
      simp only [Access.canonical, List.cons_append, List.append_assoc, List.nil_append, List.cons.injEq, true_and]
        at htext
      obtain ⟨rfl, hrest⟩ := determined_quoted h key' (']' :: r) (']' :: s) h' trivial trivial
        (by simpa using htext)
      exact ⟨rfl, (List.cons.inj hrest).2⟩

/-- Before a further step, a step has ended. -/
theorem endsStep_access (access : Access) (r : List Char) : EndsStep (access.canonical ++ r) := by
  cases access with
  | property key => exact fun c hc => Option.some.inj hc ▸ ⟨by decide, by decide⟩
  | index key => exact fun c hc => Option.some.inj hc ▸ ⟨by decide, by decide⟩

/-- Where an expression has ended, a step has ended. -/
theorem Halts.endsStep {r : List Char} (h : Halts r) : EndsStep r := by
  refine fun c hc => ⟨h.stops_name c hc, ?_⟩
  rintro rfl
  cases h with
  | nil => cases hc
  | mark h => exact absurd (Option.some.inj hc ▸ h) (by decide)
  | call h => cases hc

/-- A further step does not follow a head. -/
theorem not_halts_access {access : Access} (h : access.Writable) {r : List Char} (hr : EndsStep r) :
    ¬Halts (access.canonical ++ r) := by
  intro hhalts
  generalize htext : access.canonical ++ r = s at hhalts
  cases access with
  | index key =>
    cases hhalts with
    | nil => cases htext
    | mark h => exact absurd ((List.cons.inj htext).1 ▸ h) (by decide)
    | call h => cases (List.cons.inj htext).1
  | property key =>
    cases hhalts with
    | nil => cases htext
    | mark h => exact absurd ((List.cons.inj htext).1 ▸ h) (by decide)
    | call hname =>
      obtain ⟨-, rfl⟩ := determined_name h.1 _ r _ hname
        (fun c hc => (hr c hc).1) (stops_name_cons rfl _) (List.cons.inj htext).2
      exact (hr '(' rfl).2 rfl

/-- The name and the steps of a reference can be read off its canonical text. -/
theorem determined_reference {ref : Reference} (h : ref.Plain) :
    Determined Reference.canonical Halts Reference.Plain ref := by
  have hpath : ∀ path : List Access, ∀ r, Halts r → Token.Kind.name.Stops [] (path.flatMap Access.canonical ++ r) := by
    intro path r hr
    cases path with
    | nil => exact hr.stops_name
    | cons access path =>
      rw [List.flatMap_cons, List.append_assoc]
      exact fun c hc => (endsStep_access access _ c hc).1
  intro ref' r s h' hr hs htext
  obtain ⟨name, path⟩ := ref
  obtain ⟨name', path'⟩ := ref'
  rw [Reference.canonical, Reference.canonical, List.append_assoc, List.append_assoc] at htext
  obtain ⟨rfl, hrest⟩ := determined_name h.1 name' _ _ h'.1
    (hpath path r hr) (hpath path' s hs) htext
  have hsteps := Determined.flatMap h.2 (fun access hmem => determined_access (h.2 access hmem))
    (fun access r _ _ => endsStep_access access r) (fun _ hr => Halts.endsStep hr) (fun _ _ h hr => not_halts_access h hr)
  obtain ⟨rfl, rfl⟩ := hsteps path' r s h'.2 hr hs hrest
  exact ⟨rfl, rfl⟩

end ConditionLang
