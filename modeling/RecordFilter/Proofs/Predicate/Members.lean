import RecordFilter.Proofs.Predicate.Condition

/-!
# The members that a compiled filter reads

Each comparison and each test for null of a compiled filter reads one member, under the name that it
was registered with. They are what the conditions of the tree resolve to, in the order of the text
(`resolved_of_compile`).
-/

namespace RecordFilter

variable {α : Type}

theorem exists_of_forall₂ {β γ : Type} {R : β → γ → Prop} {xs : List β} {ys : List γ} {x : β}
    (h : List.Forall₂ R xs ys) (hx : x ∈ xs) : ∃ y ∈ ys, R x y := by
  induction h with
  | nil => cases hx
  | cons hxy _ ih =>
    rcases List.mem_cons.1 hx with rfl | hx
    · exact ⟨_, List.mem_cons_self, hxy⟩
    · obtain ⟨y, hy, hxy⟩ := ih hx
      exact ⟨y, List.mem_cons_of_mem _ hy, hxy⟩

/-- The members that a predicate reads from left to right, each under its name. -/
def Predicate.members : Predicate α → List (String × Accessor α)
  | compare c => [(c.field, c.accessor)]
  | isNull field accessor | isNotNull field accessor => [(field, accessor)]
  | and l r | or l r => l.members ++ r.members
  | not p => p.members

namespace Filter

/-- The condition resolves to the member. -/
def ResolvesTo (m : Mapper α) (c : Condition) (member : String × Accessor α) : Prop :=
  ∃ f, m.resolve c.field = .ok f ∧ member = (f.name, f.accessor)

section Compile

variable {m : Mapper α} {c : Condition} {f : FieldMapping α} {p : Predicate α}

theorem members_compileNullTest (h : compileNullTest c f = .ok p) :
    p.members = [(f.name, f.accessor)] := by
  unfold compileNullTest at h
  split at h <;> cases h <;> rfl

theorem resolved_of_compileCondition (h : (comparison c).compile m = .ok p) :
    ∃ member, p.members = [member] ∧ ResolvesTo m c member := by
  obtain ⟨f, hf, ⟨-, h⟩ | ⟨-, -, operand, -, rfl⟩⟩ := compile_cases h
  · exact ⟨(f.name, f.accessor), members_compileNullTest h, f, hf, rfl⟩
  · exact ⟨(f.name, f.accessor), rfl, f, hf, rfl⟩

/-- A compiled filter reads what its conditions resolve to, one member for each and in order. -/
theorem resolved_of_compile {t : Filter} (h : t.compile m = .ok p) :
    List.Forall₂ (ResolvesTo m) t.conditions p.members := by
  induction t generalizing p with
  | comparison c =>
    obtain ⟨member, hp, hmember⟩ := resolved_of_compileCondition h
    rw [hp]
    exact .cons hmember .nil
  | and l r ihl ihr | or l r ihl ihr =>
    obtain ⟨pl, hl, h⟩ := bind_eq_ok.1 h
    obtain ⟨pr, hr, h⟩ := bind_eq_ok.1 h
    cases h
    exact List.rel_append (ihl hl) (ihr hr)
  | group t ih => exact ih h

end Compile

end Filter

end RecordFilter
