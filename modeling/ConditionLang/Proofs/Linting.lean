import Mathlib.Data.List.Basic
import ConditionLang.Diagnostic.Lint

/-!
# What linting keeps

Linting an expression is a sequence of reads and bindings of names. So what both of them keep is kept by linting an
expression (`visit_of_steps`), and the induction over expressions is made here once: linting only warns (`warnsOnly_visit`),
and it forgets neither names that are bound nor warnings (`within_visit`).
-/

namespace ConditionLang

namespace Lint

variable {P : State → Prop}

mutual

/-- What reading a name and binding one keep is kept by linting an expression. -/
theorem visit_of_steps (hread : ∀ s name, P s → P (s.read name)) (hbind : ∀ s name, P s → P (s.bind name)) :
    ∀ (e : Expr) {s : State}, P s → P (visit s e)
  | .number _, _, h | .truth _, _, h | .text _, _, h | .range _ _, _, h => by rwa [visit]
  | .reference ref, _, h => by
    rw [visit]
    exact hread _ _ h
  | .sequence items, _, h => by
    rw [visit]
    exact visitItems_of_steps hread hbind items h
  | .dictionary pairs, _, h => by
    rw [visit]
    exact visitPairs_of_steps hread hbind pairs h
  | .binary _ left right, _, h => by
    rw [visit]
    exact visit_of_steps hread hbind right (visit_of_steps hread hbind left h)
  | .negation operand, _, h => by
    rw [visit]
    exact visit_of_steps hread hbind operand h
  | .binding value names, _, h => by
    rw [visit]
    exact List.foldlRecOn names State.bind (visit_of_steps hread hbind value h) fun s h name _ => hbind s name h
  | .call _ args, _, h => by
    rw [visit]
    exact visitItems_of_steps hread hbind args h
  | .method target _ args, _, h => by
    rw [visit]
    exact visitItems_of_steps hread hbind args (visit_of_steps hread hbind target h)

/-- What reading a name and binding one keep is kept by linting items. -/
theorem visitItems_of_steps (hread : ∀ s name, P s → P (s.read name)) (hbind : ∀ s name, P s → P (s.bind name)) :
    ∀ (items : List Expr) {s : State}, P s → P (visitItems s items)
  | [], _, h => by rwa [visitItems]
  | item :: items, _, h => by
    rw [visitItems]
    exact visitItems_of_steps hread hbind items (visit_of_steps hread hbind item h)

/-- What reading a name and binding one keep is kept by linting pairs. -/
theorem visitPairs_of_steps (hread : ∀ s name, P s → P (s.read name)) (hbind : ∀ s name, P s → P (s.bind name)) :
    ∀ (pairs : List (String × Expr)) {s : State}, P s → P (visitPairs s pairs)
  | [], _, h => by rwa [visitPairs]
  | (_, value) :: pairs, _, h => by
    rw [visitPairs]
    exact visitPairs_of_steps hread hbind pairs (visit_of_steps hread hbind value h)

end

/-! ## What linting adds to -/

namespace State

variable {s t u : State}

/-- What was bound and warned of in one state of linting is so in the other. -/
structure Within (s t : State) : Prop where
  bound : ∀ name ∈ s.bound, name ∈ t.bound
  warnings : ∀ f ∈ s.warnings, f ∈ t.warnings

theorem within_refl (s : State) : s.Within s :=
  ⟨fun _ h => h, fun _ h => h⟩

/-- Linting that adds twice adds in all. -/
theorem Within.trans (h : s.Within t) (h' : t.Within u) : s.Within u :=
  ⟨fun name hname => h'.bound name (h.bound name hname), fun f hf => h'.warnings f (h.warnings f hf)⟩

theorem within_warn (s : State) (f : Finding) : s.Within (s.warn f) :=
  ⟨fun _ h => h, fun _ h => List.mem_append_left _ h⟩

/-- Reading a name only adds. -/
theorem within_read (s : State) (name : String) : s.Within (s.read name) := by
  unfold read
  split
  · exact within_refl s
  · exact within_warn s _

/-- Binding a name only adds. -/
theorem within_bind (s : State) (name : String) : s.Within (s.bind name) := by
  have hbound : ∀ t : State, t.Within { t with bound := name :: t.bound } :=
    fun t => ⟨fun _ h => List.mem_cons_of_mem _ h, fun _ h => h⟩
  unfold bind
  split
  · exact (within_warn s _).trans (hbound _)
  · exact hbound s

theorem Within.read (h : s.Within t) (name : String) : s.Within (t.read name) :=
  h.trans (within_read t name)

theorem Within.bind (h : s.Within t) (name : String) : s.Within (t.bind name) :=
  h.trans (within_bind t name)

/-- No variable was read before it was bound. -/
def NoneUnbound (s : State) : Prop :=
  ∀ name, .unboundVariable name ∉ s.warnings

/-- If linting ends without a warning about an unbound variable, there was none before. -/
theorem Within.noneUnbound (h : s.Within t) (ht : t.NoneUnbound) : s.NoneUnbound :=
  fun name hname => ht name (h.warnings _ hname)

/-- Reading a name binds nothing. -/
@[simp] theorem bound_read (s : State) (name : String) : (s.read name).bound = s.bound := by
  unfold read
  split
  · rfl
  · rfl

/-- A read is warned of unless the name is one of the context or is bound. -/
theorem noneUnbound_read_iff {name : String} :
    (s.read name).NoneUnbound ↔ s.NoneUnbound ∧ (isContextName name = true ∨ name ∈ s.bound) := by
  unfold read
  split
  · rename_i h
    simp_all
  · rename_i h
    rw [Bool.or_eq_true, List.contains_iff_mem] at h
    have hwarned : ¬(s.warn (.unboundVariable name)).NoneUnbound :=
      fun hnone => hnone name (List.mem_append_right _ List.mem_cons_self)
    simp only [hwarned, h, and_false]

/-- Names that are bound one after another are bound, and so are those bound before. -/
theorem mem_bound_foldl_bind {names : List String} {k : String} :
    k ∈ (names.foldl bind s).bound ↔ k ∈ names ∨ k ∈ s.bound := by
  induction names generalizing s with
  | nil => simp
  | cons name names ih =>
    have hbind : (s.bind name).bound = name :: s.bound := by
      unfold bind
      split
      · rfl
      · rfl
    rw [List.foldl_cons, ih, hbind, List.mem_cons, List.mem_cons]
    tauto

/-- A binding is never warned of as a read. -/
theorem noneUnbound_foldl_bind (names : List String) (hs : s.NoneUnbound) : (names.foldl bind s).NoneUnbound := by
  refine List.foldlRecOn names bind hs fun t ht name _ k hk => ?_
  unfold bind at hk
  split at hk
  · rcases List.mem_append.mp hk with hk | hk
    · exact ht k hk
    · cases List.mem_singleton.mp hk
  · exact ht k hk

end State

/-- Linting an expression forgets neither names that are bound nor warnings. -/
theorem within_visit (s : State) (e : Expr) : s.Within (visit s e) :=
  visit_of_steps (fun _ name h => h.read name) (fun _ name h => h.bind name) e s.within_refl

theorem within_visitItems (s : State) (items : List Expr) : s.Within (visitItems s items) :=
  visitItems_of_steps (fun _ name h => h.read name) (fun _ name h => h.bind name) items s.within_refl

theorem within_visitPairs (s : State) (pairs : List (String × Expr)) : s.Within (visitPairs s pairs) :=
  visitPairs_of_steps (fun _ name h => h.read name) (fun _ name h => h.bind name) pairs s.within_refl

/-! ## Linting only warns -/

/-- All warnings so far are warnings. -/
def State.WarnsOnly (s : State) : Prop :=
  ∀ f ∈ s.warnings, f.severity = .warning

namespace State

/-- Reading a name gives warnings only. -/
theorem WarnsOnly.read {s : State} (h : s.WarnsOnly) (name : String) : (s.read name).WarnsOnly := by
  unfold State.read State.warn WarnsOnly
  grind [WarnsOnly, Finding.severity]

/-- Binding a name gives warnings only. -/
theorem WarnsOnly.bind {s : State} (h : s.WarnsOnly) (name : String) : (s.bind name).WarnsOnly := by
  unfold State.bind State.warn WarnsOnly
  grind [WarnsOnly, Finding.severity]

end State

/-- The linter only warns. -/
theorem warnsOnly_visit (e : Expr) {s : State} (h : s.WarnsOnly) : (visit s e).WarnsOnly :=
  visit_of_steps (fun _ name h => h.read name) (fun _ name h => h.bind name) e h

/-- A warning about lines belongs to one of them. -/
theorem of_mem_linesAfter {bound : List String} {conditions : List ConditionLine} {w : Nat × Finding}
    (h : w ∈ linesAfter bound conditions) : (∃ c ∈ conditions, c.line = w.1) ∧ w.2.severity = .warning := by
  induction conditions generalizing bound with
  | nil => exact absurd h List.not_mem_nil
  | cons c rest ih =>
    rw [linesAfter, List.mem_append] at h
    rcases h with h | h
    · obtain ⟨f, hf, rfl⟩ := List.mem_map.mp h
      exact ⟨⟨c, List.mem_cons_self, rfl⟩, warnsOnly_visit c.expr (fun _ h => absurd h List.not_mem_nil) f hf⟩
    · obtain ⟨⟨d, hd, hl⟩, hs⟩ := ih h
      exact ⟨⟨d, List.mem_cons_of_mem c hd, hl⟩, hs⟩

/-- Warnings about lines in ascending order are in ascending order of their lines. -/
theorem pairwise_linesAfter {bound : List String} {conditions : List ConditionLine}
    (h : conditions.Pairwise (·.line ≤ ·.line)) : (linesAfter bound conditions).Pairwise (·.1 ≤ ·.1) := by
  induction conditions generalizing bound with
  | nil => exact List.Pairwise.nil
  | cons c rest ih =>
    rw [List.pairwise_cons] at h
    rw [linesAfter, List.pairwise_append]
    refine ⟨List.pairwise_map.mpr (List.pairwise_of_forall fun _ _ => Nat.le_refl _), ih h.2, ?_⟩
    intro w hw w' hw'
    obtain ⟨f, -, rfl⟩ := List.mem_map.mp hw
    obtain ⟨⟨d, hd, hl⟩, -⟩ := of_mem_linesAfter hw'
    exact hl ▸ h.1 d hd

end Lint

end ConditionLang
