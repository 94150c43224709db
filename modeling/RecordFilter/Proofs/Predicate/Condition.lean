import RecordFilter.Proofs.Filter.RoundTrip
import RecordFilter.Proofs.Predicate.Matcher

/-!
# Compiling one condition

A condition whose field is resolved compiles to a test for null or, if the field takes the operator
and the literal is read, to one comparison (`compile_cases`). The text of a condition compiles as the
condition itself, down to the predicate: a single condition is its own normal tree.
-/

namespace RecordFilter

variable {α : Type}

/-- The text of a literal; the null literal is its word. -/
def Literal.word : Literal → String
  | text s => s
  | null => nullWord

/-- The condition is a test for null, and not a comparison with a word. -/
def Condition.AsksForNull (config : Config) (c : Condition) : Prop :=
  c.value = .null ∧ config.allowNullSearch = true

instance (config : Config) (c : Condition) : Decidable (c.AsksForNull config) :=
  inferInstanceAs (Decidable (_ ∧ _))

/-- The condition with another operator. -/
def Condition.under (c : Condition) (op : Operator) : Condition :=
  { c with operator := op }

namespace Filter

/-- The comparison of a condition, with the operand in small letters if case does not count. -/
def comparisonOf (config : Config) (op : Operator) (f : FieldMapping α) (operand : Value) :
    Comparison α :=
  let ignoreCase := ignoresCase config f.type op
  ⟨f.name, f.accessor, op, foldOperand ignoreCase operand, ignoreCase⟩

theorem holds_comparisonOf (config : Config) (op : Operator) (f : FieldMapping α) (operand : Value)
    (x : α) :
    (Predicate.compare (comparisonOf config op f operand)).holds x =
      op.holds (ignoresCase config f.type op) (f.read x)
        (foldOperand (ignoresCase config f.type op) operand) := rfl

theorem foldOperand_false (v : Value) : foldOperand false v = v := by
  cases v <;> rfl

section Compile

variable {m : Mapper α} {c : Condition} {f : FieldMapping α}

theorem compile_of_resolve_eq_error {fault : MappingFault} (hf : m.resolve c.field = .error fault) :
    (comparison c).compile m = .error (.mapping fault) := by
  rw [compile, compileCondition, hf]

section Resolved

variable (hf : m.resolve c.field = .ok f)
include hf

theorem compile_null (hnull : c.AsksForNull m.config) :
    (comparison c).compile m = compileNullTest c f := by
  rw [compile, compileCondition, hf, hnull.1]
  exact if_pos hnull.2

theorem compile_word (hnull : ¬c.AsksForNull m.config) :
    (comparison c).compile m = compileComparison m.config c c.value.word f := by
  rw [compile, compileCondition, hf]
  cases hv : c.value with
  | text s => rfl
  | null => exact if_neg fun hallows => hnull ⟨hv, hallows⟩

end Resolved

theorem compileComparison_eq_ok_iff {config : Config} {s : String} {p : Predicate α} :
    compileComparison config c s f = .ok p ↔ supports f.type c.operator = true ∧
      ∃ operand, f.readLiteral s = .ok operand ∧
        p = .compare (comparisonOf config c.operator f operand) := by
  unfold compileComparison
  split_ifs with hop
  · cases f.readLiteral s with
    | error fault => simp
    | ok operand =>
      simp only [Except.ok.injEq, hop, true_and, exists_eq_left']
      exact eq_comm
  · simp [hop]

/-- What a condition can compile to: a test for null, or one comparison with the word read. -/
theorem compile_cases {p : Predicate α} (hp : (comparison c).compile m = .ok p) :
    ∃ f, m.resolve c.field = .ok f ∧
      (c.AsksForNull m.config ∧ compileNullTest c f = .ok p ∨
        ¬c.AsksForNull m.config ∧ supports f.type c.operator = true ∧
          ∃ operand, f.readLiteral c.value.word = .ok operand ∧
            p = .compare (comparisonOf m.config c.operator f operand)) := by
  cases hf : m.resolve c.field with
  | error fault =>
    rw [compile_of_resolve_eq_error hf] at hp
    cases hp
  | ok f =>
    refine ⟨f, rfl, ?_⟩
    by_cases hnull : c.AsksForNull m.config
    · rw [compile_null hf hnull] at hp
      exact .inl ⟨hnull, hp⟩
    · rw [compile_word hf hnull] at hp
      exact .inr ⟨hnull, compileComparison_eq_ok_iff.1 hp⟩

theorem compile_comparison {s : String} {operand : Value} (hf : m.resolve c.field = .ok f)
    (hs : c.value = .text s) (hop : supports f.type c.operator = true)
    (hoperand : f.readLiteral s = .ok operand) :
    (comparison c).compile m = .ok (.compare (comparisonOf m.config c.operator f operand)) := by
  have hnull : ¬c.AsksForNull m.config := by
    rintro ⟨hc, -⟩
    rw [hs] at hc
    cases hc
  rw [compile_word hf hnull, hs]
  exact compileComparison_eq_ok_iff.2 ⟨hop, operand, hoperand, rfl⟩

end Compile

end Filter

open RecordFilter.Filter in
/-- The text of a condition compiles as the condition does. -/
theorem Mapper.compile_render (m : Mapper α) {c : Condition}
    (hname : Token.IsFieldName c.field.toList) (hvalue : c.value ≠ .text "") :
    m.compile c.render = ((comparison c).compile m).mapError .build := by
  have hfields : (comparison c).HasFieldNames := by
    intro d hd
    rw [List.mem_singleton.1 hd]
    exact hname
  have hvalues : ∀ d ∈ (comparison c).conditions, d.value ≠ .text "" := by
    intro d hd
    rw [List.mem_singleton.1 hd]
    exact hvalue
  obtain ⟨u, hu, huc⟩ :=
    (parse_of_spells (lexes_render hfields) (spells_kinds hvalues).toDisjunction).1
      (show 1 ≤ maxDepth by decide)
  have hcompile : u.compile m = (comparison c).compile m := by
    rw [← compile_unplaced, huc, compile_unplaced, normal]
  rw [← hcompile]
  exact m.compile_of_parse hu

/-- The text of a condition that is resolved, supported and read is one comparison. -/
theorem Mapper.compile_render_eq_ok {m : Mapper α} {c : Condition} {f : FieldMapping α} {s : String}
    {operand : Value} (hf : m.resolve c.field = .ok f) (hs : c.value = .text s)
    (hop : Filter.supports f.type c.operator = true) (hoperand : f.readLiteral s = .ok operand)
    (hname : Token.IsFieldName c.field.toList) (hne : s ≠ "") :
    m.compile c.render = .ok (.compare (Filter.comparisonOf m.config c.operator f operand)) := by
  have hvalue : c.value ≠ .text "" := by
    rwa [hs, ne_eq, Literal.text.injEq]
  rw [m.compile_render hname hvalue, Filter.compile_comparison hf hs hop hoperand]
  rfl

end RecordFilter
