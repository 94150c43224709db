import RecordFilter.Proofs.Predicate.Matcher

/-!
# Mappers that cannot be told apart

A compiled filter depends on the mapper through its settings and what each name resolves to, and on
a mapping through its type and how it reads records and literals. Two mappers that agree on these
look the same after compiling any filter (`observe_compile_eq`), whatever they hold otherwise.
-/

namespace RecordFilter

variable {α : Type}

/-- What one can see of a compiled filter: its error or what it matches. -/
def observe (r : Except FilterError (Predicate α)) : Except FilterError (α → Bool) :=
  r.map Predicate.holds

/-- Two mappings of one type that read every record and every literal alike. -/
structure FieldMapping.Alike (f g : FieldMapping α) : Prop where
  type_eq : f.type = g.type
  read_eq : f.accessor.get = g.accessor.get
  readLiteral_eq : ∀ literal, f.readLiteral literal = g.readLiteral literal

/-- Two lookups with the same error, or with mappings that are alike. -/
inductive LookupAlike :
    Except MappingFault (FieldMapping α) → Except MappingFault (FieldMapping α) → Prop
  | error (fault : MappingFault) : LookupAlike (.error fault) (.error fault)
  | ok {f g : FieldMapping α} (h : f.Alike g) : LookupAlike (.ok f) (.ok g)

/-- Two mappers with the same settings that resolve every name alike. -/
structure Mapper.Alike (m n : Mapper α) : Prop where
  config_eq : m.config = n.config
  resolve : ∀ name, LookupAlike (m.resolve name) (n.resolve name)

theorem FieldMapping.Alike.refl (f : FieldMapping α) : f.Alike f :=
  ⟨rfl, rfl, fun _ => rfl⟩

theorem LookupAlike.refl : ∀ r : Except MappingFault (FieldMapping α), LookupAlike r r
  | .error fault => .error fault
  | .ok f => .ok (.refl f)

theorem Mapper.Alike.refl (m : Mapper α) : m.Alike m :=
  ⟨rfl, fun _ => .refl _⟩

namespace Filter

section Condition

variable {f g : FieldMapping α}

theorem holds_compileNullTest_eq (h : f.Alike g) (c : Condition) :
    (compileNullTest c f).map Predicate.holds = (compileNullTest c g).map Predicate.holds := by
  have hnull : (Predicate.isNull f.name f.accessor).holds =
      (Predicate.isNull g.name g.accessor).holds := by
    funext x
    simp only [Predicate.holds, h.read_eq]
  have hnotNull : (Predicate.isNotNull f.name f.accessor).holds =
      (Predicate.isNotNull g.name g.accessor).holds := by
    funext x
    simp only [Predicate.holds, h.read_eq]
  unfold compileNullTest
  cases c.operator
  case equal | equalIgnoringCase => exact congrArg Except.ok hnull
  case notEqual => exact congrArg Except.ok hnotNull
  all_goals rfl

theorem holds_compileComparison_eq (h : f.Alike g) (config : Config) (c : Condition)
    (literal : String) :
    (compileComparison config c literal f).map Predicate.holds =
      (compileComparison config c literal g).map Predicate.holds := by
  unfold compileComparison
  rw [h.type_eq, h.readLiteral_eq]
  split
  · cases g.readLiteral literal with
    | error fault => rfl
    | ok operand =>
      refine congrArg Except.ok (funext fun x => ?_)
      simp only [Predicate.holds, Comparison.holds, h.read_eq]
  · rfl

end Condition

section Tree

variable {m n : Mapper α}

theorem matcher_comparison_eq (h : m.Alike n) (c : Condition) :
    (comparison c).matcher m = (comparison c).matcher n := by
  have hfield := h.resolve c.field
  unfold matcher
  rw [compile, compile, compileCondition, compileCondition, h.config_eq]
  generalize m.resolve c.field = r, n.resolve c.field = s at hfield
  cases hfield with
  | error fault => rfl
  | ok hfg =>
    cases c.value with
    | text literal => exact holds_compileComparison_eq hfg _ c literal
    | null =>
      simp only
      split
      · exact holds_compileNullTest_eq hfg c
      · exact holds_compileComparison_eq hfg _ c _

theorem matcher_eq_of_alike (h : m.Alike n) (t : Filter) : t.matcher m = t.matcher n := by
  induction t with
  | comparison c => exact matcher_comparison_eq h c
  | and l r ihl ihr => rw [matcher_and, matcher_and, ihl, ihr]
  | or l r ihl ihr => rw [matcher_or, matcher_or, ihl, ihr]
  | group t ih => exact ih

end Tree

end Filter

namespace Mapper

/-- What one can see of a text that is read is what its tree matches. -/
theorem observe_compile (m : Mapper α) {s : String} {t : Filter} (h : Filter.parse s = .ok t) :
    observe (m.compile s) = (t.matcher m).mapError .build := by
  rw [m.compile_of_parse h, observe, Filter.matcher]
  cases t.compile m <;> rfl

/-- Mappers that are alike compile every text alike, down to the error. -/
theorem observe_compile_eq {m n : Mapper α} (h : m.Alike n) (s : String) :
    observe (m.compile s) = observe (n.compile s) := by
  cases ht : Filter.parse s with
  | error e =>
    unfold compile
    rw [ht]
    rfl
  | ok t => rw [observe_compile m ht, observe_compile n ht, Filter.matcher_eq_of_alike h]

end Mapper

end RecordFilter
