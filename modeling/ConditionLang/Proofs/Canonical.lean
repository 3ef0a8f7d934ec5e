import ConditionLang.Proofs.Heads

/-!
# Canonical text determines the expression

By induction over the expression, its head and its suffixes are known from their texts (`Plain.discernible`). No suffix can
follow a whole expression, so the list of suffixes ends where the expression does, and two expressions with one canonical text
have one head and the same suffixes (`eq_of_canonical_eq`).
-/

namespace ConditionLang

/-- No number literal of a text is too large to be finite. -/
def FiniteLiterals (mode : LexMode) (text : List Char) : Prop :=
  ∀ tokens, tokenize mode text = .ok tokens → ∀ t ∈ tokens, t.IsFinite

namespace Expr

/-- The names after `>>` can be read off the canonical text. -/
theorem determined_bind {names : List String} (h : ∀ name ∈ names, Token.isNameShaped name.toList = true) :
    Determined Suffix.canonical (fun _ => True) Suffix.Plain (.bind names) := by
  intro suffix r s h' _ _ htext
  cases suffix with
  | bind names' =>
    simp only [Suffix.canonical, List.append_assoc] at htext
    obtain ⟨rfl, hend⟩ := determined_names h names' _ _ h' rfl rfl (List.append_cancel_left htext)
    exact ⟨rfl, (List.cons.inj hend).2⟩
  | call name args => cases (List.cons.inj htext).1

/-- The function and the arguments of a call on a target can be read off the canonical text. -/
theorem determined_method {name : String} {args : List Expr} (hplain : (call name args).Plain)
    (hlegible : ∀ arg ∈ args, arg.Legible) :
    Determined Suffix.canonical (fun _ => True) Suffix.Plain (.call name args) := by
  intro suffix r s h' hr hs htext
  cases suffix with
  | bind names => cases (List.cons.inj htext).1
  | call name' args' =>
    obtain ⟨heq, rfl⟩ := determined_call (F := fun _ => True) hplain hlegible _ r s ⟨h', rfl⟩ hr hs htext
    cases heq
    exact ⟨rfl, rfl⟩

/-- The head and the suffixes of an expression are known from their texts. -/
structure Discernible (e : Expr) : Prop where
  head : Determined canonicalChars Halts IsHead e.head
  suffixes : ∀ suffix ∈ e.suffixes, Determined Suffix.canonical (fun _ => True) Suffix.Plain suffix

/-- An expression is known from its text if its head and its suffixes are. -/
theorem Discernible.legible {e : Expr} (h : e.Discernible) (hplain : e.Plain) : e.Legible := by
  intro e' r s hplain' hr hs htext
  rw [canonicalChars_eq e, canonicalChars_eq e', List.append_assoc, List.append_assoc] at htext
  obtain ⟨hheads, hrest⟩ := h.head _ _ _ hplain'.isHead_head (halts_suffixes hplain.suffixes hr)
    (halts_suffixes hplain'.suffixes hs) htext
  -- The suffixes end where the expressions do, since none can follow a whole expression.
  have hsuffixes := Determined.flatMap hplain.suffixes h.suffixes (fun _ _ _ _ => trivial) (fun _ _ => trivial)
    (fun suffix r _ _ => suffix.not_closes r)
  obtain ⟨hlists, rfl⟩ := hsuffixes _ r s hplain'.suffixes hr hs hrest
  rw [← foldl_attach_suffixes e, ← foldl_attach_suffixes e', hheads, hlists]
  exact ⟨rfl, rfl⟩

/-- A head whose text determines it is told from every other expression by its text. -/
theorem Discernible.of_isHead {e : Expr} (h : Determined canonicalChars Halts IsHead e) (hhead : e.head = e)
    (hsuffixes : e.suffixes = []) : e.Discernible :=
  ⟨hhead.symm ▸ h, hsuffixes ▸ List.forall_mem_nil _⟩

/-- The head and the suffixes of every plain expression are known from their texts. -/
theorem Plain.discernible {e : Expr} (h : e.Plain) : e.Discernible := by
  have hlists : ∀ {es : List Expr}, (∀ e ∈ es, e.Plain) → (∀ e ∈ es, e.Discernible) → ∀ e ∈ es, e.Legible :=
    fun hplain hdiscernible e hmem => (hdiscernible e hmem).legible (hplain e hmem)
  induction h with
  | number h => exact .of_isHead (determined_number_head (.number h)) rfl rfl
  | truth value => exact .of_isHead (determined_word (.truth value) rfl) rfl rfl
  | text h => exact .of_isHead (determined_text (.text h)) rfl rfl
  | sequence h ih => exact .of_isHead (determined_sequence (.sequence h) (hlists h ih)) rfl rfl
  | dictionary hne hkeys hvalues ih =>
    exact .of_isHead (determined_dictionary (.dictionary hne hkeys hvalues)
      fun pair hmem => (ih pair hmem).legible (hvalues pair hmem)) rfl rfl
  | range hfirst hlast => exact .of_isHead (determined_range (.range hfirst hlast)) rfl rfl
  | reference hname hreserved hpath =>
    exact .of_isHead (determined_word (.reference hname hreserved hpath) rfl) rfl rfl
  | binary hleft hright ihleft ihright =>
    exact .of_isHead (determined_binary (.binary hleft hright) (ihleft.legible hleft) (ihright.legible hright)) rfl rfl
  | negation h ih => exact .of_isHead (determined_negation (.negation h) (ih.legible h)) rfl rfl
  | call hname hargs ih => exact .of_isHead (determined_call (.call hname hargs) (hlists hargs ih)) rfl rfl
  | binding hvalue hne hnames ih =>
    have hbind := determined_bind fun name hmem => (hnames name hmem).admits_of_plain
    exact ⟨ih.head, List.forall_mem_append.mpr ⟨ih.suffixes, List.forall_mem_singleton.mpr hbind⟩⟩
  | method htarget hname hargs ihtarget ihargs =>
    have hmethod := determined_method (.call hname hargs) (hlists hargs ihargs)
    exact ⟨ihtarget.head, List.forall_mem_append.mpr ⟨ihtarget.suffixes, List.forall_mem_singleton.mpr hmethod⟩⟩

/-- What is parsed from finite literals is plain. -/
theorem plain_of_parse {mode : LexMode} {text : List Char} (hfinite : FiniteLiterals mode text) {e : Expr}
    (h : parse mode text = .ok e) : e.Plain :=
  builtFrom_of_parse (fun tokens htokens t ht => ⟨shaped_of_tokenize htokens t ht, hfinite tokens htokens t ht⟩) h

/-- Expressions that are read from texts without infinite numbers are equal if their canonical texts are. -/
theorem eq_of_canonical_eq {mode mode' : LexMode} {text text' : List Char} {e e' : Expr}
    (hfinite : FiniteLiterals mode text) (hfinite' : FiniteLiterals mode' text') (h : parse mode text = .ok e)
    (h' : parse mode' text' = .ok e') (hcanonical : e.canonical = e'.canonical) : e = e' := by
  have hplain := plain_of_parse hfinite h
  have hplain' := plain_of_parse hfinite' h'
  have htext : e.canonicalChars ++ [] = e'.canonicalChars ++ [] :=
    congrArg (· ++ []) (String.ofList_injective hcanonical)
  exact (hplain.discernible.legible hplain e' [] [] hplain' .nil .nil htext).1

/-- A key in brackets may be spelled as a number or as a text. -/
theorem eq_of_canonical_eq_of_spellings :
    FiniteLiterals .lenient "items[0] >> b".toList ∧ FiniteLiterals .strict "(items[\"0\"]) >> b".toList ∧
      ∃ e e', parse .lenient "items[0] >> b".toList = .ok e ∧ parse .strict "(items[\"0\"]) >> b".toList = .ok e' ∧
        e.canonical = e'.canonical ∧ e = e' := by
  have hnumber : tokenize .lenient "items[0] >> b".toList = .ok
      [⟨.name, "items", 0, 5⟩, ⟨.mark, "[", 5, 6⟩, ⟨.number, "0", 6, 7⟩, ⟨.mark, "]", 7, 8⟩, ⟨.mark, ">>", 9, 11⟩,
       ⟨.name, "b", 12, 13⟩] := by cbv
  have htext : tokenize .strict "(items[\"0\"]) >> b".toList = .ok
      [⟨.mark, "(", 0, 1⟩, ⟨.name, "items", 1, 6⟩, ⟨.mark, "[", 6, 7⟩, ⟨.quoted, "0", 7, 10⟩, ⟨.mark, "]", 10, 11⟩,
       ⟨.mark, ")", 11, 12⟩, ⟨.mark, ">>", 13, 15⟩, ⟨.name, "b", 16, 17⟩] := by cbv
  have hfinite : FiniteLiterals .lenient "items[0] >> b".toList := by
    intro tokens htokens
    rw [hnumber] at htokens
    cases htokens
    decide
  have hfinite' : FiniteLiterals .strict "(items[\"0\"]) >> b".toList := by
    intro tokens htokens
    rw [htext] at htokens
    cases htokens
    decide
  have h : parse .lenient "items[0] >> b".toList = .ok (.binding (.reference ⟨"items", [.index "0"]⟩) ["b"]) := by cbv
  have h' : parse .strict "(items[\"0\"]) >> b".toList = .ok (.binding (.reference ⟨"items", [.index "0"]⟩) ["b"]) := by
    cbv
  exact ⟨hfinite, hfinite', _, _, h, h', rfl, eq_of_canonical_eq hfinite hfinite' h h' rfl⟩

end Expr

end ConditionLang
