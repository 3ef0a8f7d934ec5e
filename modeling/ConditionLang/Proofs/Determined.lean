import ConditionLang.Expr.Canonical

/-!
# Texts that can be taken apart

A text is determined if it can be told, from the characters alone, what it is the text of and where it ends. Determined texts
may stand one after another (`Determined.flatMap`) and between separators (`Determined.joinWith`), as long as each may follow
the one before and what ends the list cannot be taken for a further element.
-/

namespace ConditionLang

variable {α : Type} {text : α → List Char} {F E : List Char → Prop} {P : α → Prop}

/-- Before texts that satisfy `F`, the text of `a` is that of nothing else that satisfies `P`, and its end is known. -/
def Determined (text : α → List Char) (F : List Char → Prop) (P : α → Prop) (a : α) : Prop :=
  ∀ b r s, P b → F r → F s → text a ++ r = text b ++ s → a = b ∧ r = s

/-- A text is determined if it can be cut off by a rule that looks at the characters only. -/
theorem determined_of_cut (cut : List Char → List Char) (hcut : ∀ a r, P a → F r → cut (text a ++ r) = text a)
    (hinj : ∀ a b, P a → P b → text a = text b → a = b) {a : α} (ha : P a) : Determined text F P a := by
  intro b r s hb hr hs h
  have htext : text a = text b := by rw [← hcut a r ha hr, h, hcut b s hb hs]
  rw [htext] at h
  exact ⟨hinj a b ha hb htext, List.append_cancel_left h⟩

/-- Texts one after another are determined up to what cannot be a further one. -/
theorem Determined.flatMap {as : List α} (has : ∀ a ∈ as, P a) (hdet : ∀ a ∈ as, Determined text F P a)
    (hnext : ∀ a r, P a → F r → F (text a ++ r)) (hend : ∀ r, E r → F r)
    (hstop : ∀ a r, P a → F r → ¬E (text a ++ r)) :
    Determined (List.flatMap text) E (fun bs => ∀ b ∈ bs, P b) as := by
  have hfollows : ∀ bs : List α, (∀ b ∈ bs, P b) → ∀ r, E r → F (bs.flatMap text ++ r) := by
    intro bs hbs r hr
    induction bs with
    | nil => exact hend r hr
    | cons b bs ih =>
      rw [List.forall_mem_cons] at hbs
      rw [List.flatMap_cons, List.append_assoc]
      exact hnext b _ hbs.1 (ih hbs.2)
  have hlonger : ∀ (b : α) (bs : List α) r, (∀ c ∈ b :: bs, P c) → E r → ¬E ((b :: bs).flatMap text ++ r) := by
    intro b bs r hbs hr
    rw [List.forall_mem_cons] at hbs
    rw [List.flatMap_cons, List.append_assoc]
    exact hstop b _ hbs.1 (hfollows bs hbs.2 r hr)
  induction as with
  | nil =>
    intro bs r s hbs hr hs h
    cases bs with
    | nil => exact ⟨rfl, h⟩
    | cons b bs =>
      replace h : r = (b :: bs).flatMap text ++ s := h
      exact absurd (h ▸ hr) (hlonger b bs s hbs hs)
  | cons a as ih =>
    intro bs r s hbs hr hs h
    cases bs with
    | nil =>
      replace h : (a :: as).flatMap text ++ r = s := h
      exact absurd (h ▸ hs) (hlonger a as r has hr)
    | cons b bs =>
      rw [List.forall_mem_cons] at has hbs hdet
      rw [List.flatMap_cons, List.flatMap_cons, List.append_assoc, List.append_assoc] at h
      obtain ⟨rfl, hrest⟩ := hdet.1 b _ _ hbs.1 (hfollows as has.2 r hr) (hfollows bs hbs.2 s hs) h
      obtain ⟨rfl, rfl⟩ := ih has.2 hdet.2 bs r s hbs.2 hr hs hrest
      exact ⟨rfl, rfl⟩

/-- Parts joined by a separator are the first part and then each other part behind a separator. -/
theorem joinWith_cons_eq (sep part : List Char) (parts : List (List Char)) :
    joinWith sep (part :: parts) = part ++ parts.flatMap (sep ++ ·) := by
  induction parts generalizing part with
  | nil => exact (List.append_nil part).symm
  | cons next parts ih =>
    show part ++ sep ++ joinWith sep (next :: parts) = _
    rw [ih, List.flatMap_cons, List.append_assoc, List.append_assoc sep next]

/-- Texts between separators are determined up to what starts neither a text nor a separator. -/
theorem Determined.joinWith {sep : List Char} {as : List α} (has : ∀ a ∈ as, P a)
    (hdet : ∀ a ∈ as, Determined text F P a) (hsep : ∀ r, F (sep ++ r)) (hend : ∀ r, E r → F r)
    (hstart : ∀ a r, P a → ¬E (text a ++ r)) (hstop : ∀ r, ¬E (sep ++ r)) :
    Determined (fun bs => ConditionLang.joinWith sep (bs.map text)) E (fun bs => ∀ b ∈ bs, P b) as := by
  have hcons : ∀ (b : α) (bs : List α) r, ConditionLang.joinWith sep ((b :: bs).map text) ++ r =
      text b ++ (bs.flatMap (fun c => sep ++ text c) ++ r) := by
    intro b bs r
    rw [List.map_cons, joinWith_cons_eq, List.flatMap_map, List.append_assoc]
  have hfollows : ∀ (bs : List α) r, E r → F (bs.flatMap (fun c => sep ++ text c) ++ r) := by
    intro bs r hr
    cases bs with
    | nil => exact hend r hr
    | cons b bs =>
      rw [List.flatMap_cons, List.append_assoc, List.append_assoc]
      exact hsep _
  intro bs r s hbs hr hs h
  cases as with
  | nil =>
    cases bs with
    | nil => exact ⟨rfl, h⟩
    | cons b bs =>
      replace h : r = text b ++ _ := h.trans (hcons b bs s)
      exact absurd (h ▸ hr) (hstart b _ (hbs b List.mem_cons_self))
  | cons a as =>
    cases bs with
    | nil =>
      replace h : text a ++ _ = s := (hcons a as r).symm.trans h
      exact absurd (h ▸ hs) (hstart a _ (has a List.mem_cons_self))
    | cons b bs =>
      rw [List.forall_mem_cons] at has hbs hdet
      obtain ⟨rfl, hrest⟩ := hdet.1 b _ _ hbs.1 (hfollows as r hr) (hfollows bs s hs)
        ((hcons a as r).symm.trans (h.trans (hcons b bs s)))
      have hseparated : ∀ c ∈ as, Determined (fun c => sep ++ text c) F P c := by
        intro c hc d r s hd hr hs h
        rw [List.append_assoc, List.append_assoc] at h
        exact hdet.2 c hc d r s hd hr hs (List.append_cancel_left h)
      have hlist := Determined.flatMap has.2 hseparated (fun c r _ _ => List.append_assoc sep _ r ▸ hsep _) hend
        (fun c r _ _ => List.append_assoc sep _ r ▸ hstop _)
      obtain ⟨rfl, rfl⟩ := hlist bs r s hbs.2 hr hs hrest
      exact ⟨rfl, rfl⟩

end ConditionLang
