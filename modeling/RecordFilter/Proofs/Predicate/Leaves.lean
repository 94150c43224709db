import RecordFilter.Proofs.Predicate.Members
import RecordFilter.Sample

/-!
# Compiling a tree condition by condition

The leaves of a compiled filter are what the conditions of the tree compile to on their own, in the
order of the text, and the first condition that does not compile decides the error
(`map_leaves_compile`). What stands above the conditions makes no difference to either.
-/

namespace RecordFilter

variable {α : Type}

/-! ## Lists of outcomes -/

section Outcomes

variable {ε β γ : Type} {f : β → Except ε γ}

theorem mapM_eq_ok_iff {xs : List β} {ys : List γ} :
    xs.mapM f = .ok ys ↔ List.Forall₂ (fun x y => f x = .ok y) xs ys := by
  induction xs generalizing ys with
  | nil =>
    constructor
    · intro h
      cases h
      exact .nil
    · intro h
      cases h
      rfl
  | cons x xs ih =>
    rw [List.mapM_cons, bind_eq_ok]
    constructor
    · rintro ⟨y, hy, h⟩
      obtain ⟨ys, hys, h⟩ := bind_eq_ok.1 h
      cases h
      exact .cons hy (ih.1 hys)
    · rintro (_ | ⟨hy, hys⟩)
      exact ⟨_, hy, bind_eq_ok.2 ⟨_, ih.2 hys, rfl⟩⟩

/-- The first element that fails decides the error. -/
theorem mapM_eq_error_iff {xs : List β} {e : ε} :
    xs.mapM f = .error e ↔ ∃ before x after, xs = before ++ x :: after ∧
      (∀ y ∈ before, ∃ z, f y = .ok z) ∧ f x = .error e := by
  induction xs with
  | nil =>
    constructor
    · intro h
      cases h
    · rintro ⟨before, x, after, hsplit, -⟩
      simp at hsplit
  | cons x xs ih =>
    rw [List.mapM_cons]
    constructor
    · intro h
      rcases cases_of_bind_eq_error h with hx | ⟨y, hy, h⟩
      · exact ⟨[], x, xs, rfl, fun _ hmem => absurd hmem List.not_mem_nil, hx⟩
      · rcases cases_of_bind_eq_error h with hxs | ⟨ys, -, h⟩
        · obtain ⟨before, z, after, rfl, hbefore, hz⟩ := ih.1 hxs
          exact ⟨x :: before, z, after, rfl, List.forall_mem_cons.2 ⟨⟨y, hy⟩, hbefore⟩, hz⟩
        · cases h
    · rintro ⟨before, z, after, hsplit, hbefore, hz⟩
      cases before with
      | nil =>
        cases hsplit
        rw [hz]
        rfl
      | cons x before =>
        cases hsplit
        obtain ⟨⟨y, hy⟩, hbefore⟩ := List.forall_mem_cons.1 hbefore
        rw [hy, ih.2 ⟨before, z, after, rfl, hbefore, hz⟩]
        rfl

end Outcomes

namespace Predicate

/-- The comparisons and tests for null from left to right. -/
def leaves : Predicate α → List (Predicate α)
  | compare c => [compare c]
  | isNull field accessor => [isNull field accessor]
  | isNotNull field accessor => [isNotNull field accessor]
  | and l r | or l r => l.leaves ++ r.leaves
  | not p => p.leaves

theorem length_leaves (p : Predicate α) : p.leaves.length = p.conditions := by
  induction p with
  | compare c => rfl
  | isNull field accessor => rfl
  | isNotNull field accessor => rfl
  | and l r ihl ihr | or l r ihl ihr => rw [leaves, conditions, List.length_append, ihl, ihr]
  | not p ih => exact ih

end Predicate

namespace Filter

variable {m : Mapper α} {c : Condition} {p : Predicate α}

/-- One condition compiles to one leaf. -/
theorem leaves_of_compile (h : (comparison c).compile m = .ok p) :
    p.leaves = [p] ∧ p.depth = 1 := by
  obtain ⟨f, -, ⟨-, h⟩ | ⟨-, -, operand, -, rfl⟩⟩ := compile_cases h
  · unfold compileNullTest at h
    split at h <;> cases h <;> exact ⟨rfl, rfl⟩
  · exact ⟨rfl, rfl⟩

/-- The leaves are what the conditions compile to, one after another. -/
theorem map_leaves_compile (m : Mapper α) (t : Filter) :
    (t.compile m).map Predicate.leaves = t.conditions.mapM fun c => (comparison c).compile m := by
  induction t with
  | comparison c =>
    rw [conditions, List.mapM_cons, List.mapM_nil]
    cases hp : (comparison c).compile m with
    | error e => rfl
    | ok p => exact congrArg Except.ok (leaves_of_compile hp).1
  | and l r ihl ihr | or l r ihl ihr =>
    rw [conditions, List.mapM_append, ← ihl, ← ihr, compile]
    cases l.compile m with
    | error e => rfl
    | ok pl => cases r.compile m <;> rfl
  | group t ih => exact ih

theorem depth_le_of_compile {t : Filter} (h : t.compile m = .ok p) : p.depth ≤ t.depth := by
  induction t generalizing p with
  | comparison c => exact (leaves_of_compile h).2.le
  | and l r ihl ihr | or l r ihl ihr =>
    obtain ⟨pl, hl, h⟩ := bind_eq_ok.1 h
    obtain ⟨pr, hr, h⟩ := bind_eq_ok.1 h
    cases h
    exact Nat.succ_le_succ (max_le_max (ihl hl) (ihr hr))
  | group t ih => exact (ih h).trans (Nat.le_succ _)

/-! ## Names that do not resolve -/

theorem mem_foldl_fields_iff {name : String} (cs : List Condition) (names : List String) :
    name ∈ cs.foldl (fun names c => if c.field ∈ names then names else names ++ [c.field]) names ↔
      name ∈ names ∨ ∃ c ∈ cs, c.field = name := by
  induction cs generalizing names with
  | nil => simp
  | cons c cs ih =>
    rw [List.foldl_cons, ih, List.exists_mem_cons_iff, ← or_assoc]
    refine or_congr_left ?_
    split_ifs with hc
    · exact ⟨.inl, fun h => h.elim id fun hname => hname ▸ hc⟩
    · rw [List.mem_append, List.mem_singleton, eq_comm]

/-- The fields of a filter are those of its conditions. -/
theorem mem_fields_iff {t : Filter} {name : String} :
    name ∈ t.fields ↔ ∃ c ∈ t.conditions, c.field = name :=
  (mem_foldl_fields_iff t.conditions []).trans (or_iff_right List.not_mem_nil)

/-- A condition fails for its name exactly if the name does not resolve. -/
theorem compile_eq_mapping_iff {fault : MappingFault} :
    (comparison c).compile m = .error (.mapping fault) ↔ m.resolve c.field = .error fault := by
  constructor
  · intro h
    cases hf : m.resolve c.field with
    | error fault' =>
      rw [compile_of_resolve_eq_error hf] at h
      cases h
      rfl
    | ok f =>
      by_cases hnull : c.AsksForNull m.config
      · rw [compile_null hf hnull] at h
        unfold compileNullTest at h
        split at h <;> cases h
      · rw [compile_word hf hnull] at h
        unfold compileComparison at h
        split_ifs at h
        · cases hread : f.readLiteral c.value.word <;> rw [hread] at h <;> cases h
        · cases h
  · exact compile_of_resolve_eq_error

/-! ## Trees -/

def Compiles (m : Mapper α) (t : Filter) : Prop :=
  ∃ p, t.compile m = .ok p

/-- The error is that of the first condition that does not compile on its own. -/
def FailsFirst (m : Mapper α) (conditions : List Condition) (e : BuildError) : Prop :=
  ∃ before c after, conditions = before ++ c :: after ∧
    (∀ d ∈ before, (comparison d).Compiles m) ∧ (comparison c).compile m = .error e

theorem compile_eq_error_iff {t : Filter} {e : BuildError} :
    t.compile m = .error e ↔ FailsFirst m t.conditions e := by
  refine Iff.trans ?_ mapM_eq_error_iff
  rw [← map_leaves_compile]
  cases t.compile m <;> simp [Except.map]

theorem compiles_iff {t : Filter} :
    t.Compiles m ↔ ∀ c ∈ t.conditions, (comparison c).Compiles m := by
  constructor
  · rintro ⟨p, hp⟩ c hc
    have hleaves : t.conditions.mapM (fun c => (comparison c).compile m) = .ok p.leaves := by
      rw [← map_leaves_compile, hp]
      rfl
    obtain ⟨q, -, hq⟩ := exists_of_forall₂ (mapM_eq_ok_iff.1 hleaves) hc
    exact ⟨q, hq⟩
  · intro hall
    cases hp : t.compile m with
    | ok p => exact ⟨p, hp⟩
    | error e =>
      obtain ⟨before, c, after, hsplit, -, hc⟩ := compile_eq_error_iff.1 hp
      obtain ⟨q, hq⟩ := hall c (by simp [hsplit])
      cases hc.symm.trans hq

theorem forall₂_leaves {t : Filter} (h : t.compile m = .ok p) :
    List.Forall₂ (fun c q => (comparison c).compile m = .ok q) t.conditions p.leaves := by
  rw [← mapM_eq_ok_iff, ← map_leaves_compile, h]
  rfl

/-- A tree compiles if all its conditions do on their own, to a predicate with what they compile to
as its leaves, in their order and no deeper than in the tree. Otherwise the first condition that
fails decides the error, which is one of a name only if a name of the tree does not resolve. A tree
with such a name never compiles. -/
theorem compile_leaf_by_leaf (m : Mapper α) (t : Filter) :
    ((∀ c ∈ t.conditions, (comparison c).Compiles m) → ∃ p, t.compile m = .ok p ∧
        p.conditions = t.conditions.length ∧
        List.Forall₂ (fun c q => (comparison c).compile m = .ok q) t.conditions p.leaves ∧
        p.depth ≤ t.depth) ∧
      ((∃ c ∈ t.conditions, ¬(comparison c).Compiles m) →
        ∃ e, t.compile m = .error e ∧ FailsFirst m t.conditions e) ∧
      ((∀ name ∈ t.fields, ∃ f, m.resolve name = .ok f) →
        ∀ fault, t.compile m ≠ .error (.mapping fault)) ∧
      ((∃ name ∈ t.fields, ∀ f, m.resolve name ≠ .ok f) → ∃ e, t.compile m = .error e) := by
  refine ⟨fun hall => ?_, fun hfails => ?_, fun hnames fault herror => ?_, fun hname => ?_⟩
  · obtain ⟨p, hp⟩ := compiles_iff.2 hall
    have hleaves := forall₂_leaves hp
    refine ⟨p, hp, ?_, hleaves, depth_le_of_compile hp⟩
    rw [← p.length_leaves, hleaves.length_eq]
  · obtain ⟨c, hc, hcompile⟩ := hfails
    cases hp : t.compile m with
    | error e => exact ⟨e, rfl, compile_eq_error_iff.1 hp⟩
    | ok p => exact absurd (compiles_iff.1 ⟨p, hp⟩ c hc) hcompile
  · obtain ⟨before, c, after, hsplit, -, hc⟩ := compile_eq_error_iff.1 herror
    obtain ⟨f, hf⟩ := hnames c.field (mem_fields_iff.2 ⟨c, by simp [hsplit], rfl⟩)
    cases hf.symm.trans (compile_eq_mapping_iff.1 hc)
  · obtain ⟨name, hname, hresolve⟩ := hname
    obtain ⟨c, hc, rfl⟩ := mem_fields_iff.1 hname
    cases hp : t.compile m with
    | error e => exact ⟨e, rfl⟩
    | ok p =>
      obtain ⟨q, hq⟩ := compiles_iff.1 ⟨p, hp⟩ c hc
      obtain ⟨f, hf, -⟩ := compile_cases hq
      exact absurd hf (hresolve f)

/-- A literal that is no number comes before a name that is unknown, although both are faults. -/
theorem compile_leaf_by_leaf_two_faults :
    let m := Person.mapper 0 .standard
    let large : Condition := ⟨"Id", .greater, .text "5", ⟨0, 0, 0, 0⟩⟩
    let worded : Condition := ⟨"Id", .equal, .text "x", ⟨0, 0, 0, 0⟩⟩
    let ghost : Condition := ⟨"Ghost", .equal, .text "1", ⟨0, 0, 0, 0⟩⟩
    (∃ p, (group (and (comparison large) (comparison large))).compile m = .ok p ∧
        p.conditions = 2 ∧ p.depth ≤ 3) ∧
      (∃ e, (or (comparison large) (and (comparison worded) (comparison ghost))).compile m =
        .error e ∧ FailsFirst m [large, worded, ghost] e) ∧
      (∀ fault, (and (comparison large) (comparison worded)).compile m ≠
        .error (.mapping fault)) ∧
      ∃ e, (or (comparison large) (and (comparison worded) (comparison ghost))).compile m =
        .error e := by
  intro m large worded ghost
  have hlarge : (comparison large).Compiles m := ⟨_, rfl⟩
  have hworded : ¬(comparison worded).Compiles m := by
    rintro ⟨p, hp⟩
    cases hp
  obtain ⟨hall, -⟩ := compile_leaf_by_leaf m (group (and (comparison large) (comparison large)))
  obtain ⟨-, hfails, -, hghost⟩ :=
    compile_leaf_by_leaf m (or (comparison large) (and (comparison worded) (comparison ghost)))
  obtain ⟨-, -, hnames, -⟩ := compile_leaf_by_leaf m (and (comparison large) (comparison worded))
  have hfields : (and (comparison large) (comparison worded)).fields = ["Id"] := by decide
  refine ⟨?_, hfails ⟨worded, .tail _ (.head _), hworded⟩, hnames ?_,
    hghost ⟨"Ghost", by decide, ?_⟩⟩
  · obtain ⟨p, hp, hcount, -, hdepth⟩ :=
      hall (List.forall_mem_cons.2 ⟨hlarge, List.forall_mem_singleton.2 hlarge⟩)
    exact ⟨p, hp, hcount, hdepth⟩
  · intro name hname
    rw [hfields, List.mem_singleton] at hname
    rw [hname]
    exact ⟨_, rfl⟩
  · intro f hf
    cases hf

end Filter

end RecordFilter
