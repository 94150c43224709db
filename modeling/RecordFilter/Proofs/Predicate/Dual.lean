import RecordFilter.Proofs.Predicate.Formula

/-!
# Dual filters

A filter whose operators come in pairs has a dual: the operators are replaced by their partners and
the connectors by each other. The outcome of compiling the dual is the opposite of that of the
filter (`matcher_dual`): the same error, but for the operator in it, or what the filter does not
match. So the dual picks just the records that the filter leaves out (`compile_dual`).
-/

namespace RecordFilter

variable {α : Type}

/-! ## Errors of the dual -/

def MappingFault.name : MappingFault → String
  | unknownField name | excludedField name => name

namespace BuildError

/-- The field of the condition that did not fit. -/
def field : BuildError → String
  | mapping fault => fault.name
  | coercion field .. | unsupportedOperator field .. => field

/-- The same error, of the partner of the operator. -/
def complement : BuildError → BuildError
  | unsupportedOperator field op typeName => unsupportedOperator field op.complement typeName
  | e => e

theorem field_complement (e : BuildError) : e.complement.field = e.field := by
  cases e <;> rfl

theorem kind_complement (e : BuildError) :
    (FilterError.build e.complement).kind = (FilterError.build e).kind := by
  cases e <;> rfl

end BuildError

/-! ## Opposite outcomes -/

/-- What is not matched, or the same error of the partner of the operator. -/
def oppose : Except BuildError (α → Bool) → Except BuildError (α → Bool)
  | .error e => .error e.complement
  | .ok p => .ok fun x => !p x

/-- Dual connectives take opposite outcomes to the opposite outcome. -/
theorem combineMatchers_oppose {op op' : Bool → Bool → Bool}
    (hop : ∀ a b, op' (!a) (!b) = !op a b) (r s : Except BuildError (α → Bool)) :
    combineMatchers op' (oppose r) (oppose s) = oppose (combineMatchers op r s) := by
  cases r with
  | error e => rfl
  | ok p =>
    cases s with
    | error e => rfl
    | ok q => exact congrArg Except.ok (funext fun x => hop (p x) (q x))

/-! ## The dual of a condition -/

/-- The condition with the partner of its operator. -/
def Condition.complement (c : Condition) : Condition :=
  c.under c.operator.complement

namespace Filter

theorem supports_complement (type : ValueType) (op : Operator) :
    supports type op.complement = supports type op := by
  cases op <;> rfl

theorem ignoresCase_complement (config : Config) (type : ValueType) (op : Operator) :
    ignoresCase config type op.complement = ignoresCase config type op := by
  cases op <;> rfl

section Condition

variable {c : Condition} (hop : c.operator.isComplementable = true)
include hop

theorem holds_compileNullTest_complement (f : FieldMapping α) :
    (compileNullTest c.complement f).map Predicate.holds =
      oppose ((compileNullTest c f).map Predicate.holds) := by
  unfold compileNullTest Condition.complement Condition.under
  cases hc : c.operator <;> rw [hc] at hop <;> cases hop
  case notEqual => exact congrArg Except.ok (funext fun x => (Bool.not_not _).symm)
  all_goals rfl

theorem holds_compileComparison_complement (config : Config) (literal : String)
    (f : FieldMapping α) :
    (compileComparison config c.complement literal f).map Predicate.holds =
      oppose ((compileComparison config c literal f).map Predicate.holds) := by
  unfold compileComparison Condition.complement Condition.under
  rw [supports_complement]
  split_ifs with hsupports
  · cases f.readLiteral literal with
    | error fault => rfl
    | ok operand =>
      refine congrArg Except.ok (funext fun x => ?_)
      dsimp only
      rw [ignoresCase_complement]
      exact Operator.holds_complement hop _ _ _
  · rfl

theorem matcher_complement (m : Mapper α) :
    (comparison c.complement).matcher m = oppose ((comparison c).matcher m) := by
  unfold matcher
  cases hf : m.resolve c.field with
  | error fault =>
    rw [compile_of_resolve_eq_error hf, compile_of_resolve_eq_error (c := c.complement) hf]
    rfl
  | ok f =>
    by_cases hnull : c.AsksForNull m.config
    · rw [compile_null hf hnull, compile_null (c := c.complement) hf hnull]
      exact holds_compileNullTest_complement hop f
    · rw [compile_word hf hnull, compile_word (c := c.complement) hf hnull]
      exact holds_compileComparison_complement hop m.config c.value.word f

end Condition

/-! ## The dual of a tree -/

/-- The filter with the partners of its operators and the other connectors. -/
def dual : Filter → Filter
  | comparison c => comparison c.complement
  | and l r => or l.dual r.dual
  | or l r => and l.dual r.dual
  | group f => group f.dual

section Dual

variable (m : Mapper α) {t : Filter}
  (ht : ∀ c ∈ t.conditions, c.operator.isComplementable = true)
include ht

theorem matcher_dual : t.dual.matcher m = oppose (t.matcher m) := by
  induction t with
  | comparison c => exact matcher_complement (ht c (List.mem_singleton_self c)) m
  | and l r ihl ihr =>
    rw [conditions, List.forall_mem_append] at ht
    rw [dual, matcher_or, matcher_and, ihl ht.1, ihr ht.2]
    exact combineMatchers_oppose (fun a b => (Bool.not_and a b).symm) _ _
  | or l r ihl ihr =>
    rw [conditions, List.forall_mem_append] at ht
    rw [dual, matcher_or, matcher_and, ihl ht.1, ihr ht.2]
    exact combineMatchers_oppose (fun a b => (Bool.not_or a b).symm) _ _
  | group f ih => exact ih ht

/-- The dual compiles exactly if the filter does. It fails with an error of the same kind for the
same field, and matches just the records that the filter does not. -/
theorem compile_dual :
    (∀ e, t.compile m = .error e → t.dual.compile m = .error e.complement ∧
      (FilterError.build e.complement).kind = (FilterError.build e).kind ∧
      e.complement.field = e.field) ∧
    (∀ p, t.compile m = .ok p → ∃ q, t.dual.compile m = .ok q ∧ ∀ x, q.holds x = !p.holds x) := by
  have hdual := matcher_dual m ht
  constructor
  · intro e he
    rw [(matcher_eq_error_iff m).2 he] at hdual
    exact ⟨(matcher_eq_error_iff m).1 hdual, e.kind_complement, e.field_complement⟩
  · intro p hp
    rw [(matcher_eq_ok_iff m).2 ⟨p, hp, rfl⟩] at hdual
    obtain ⟨q, hq, hholds⟩ := (matcher_eq_ok_iff m).1 hdual
    exact ⟨q, hq, congrFun hholds⟩

end Dual

/-- An absent name, or one that begins with `a` and has no `b` in it. -/
def absentOrShaped : Filter :=
  or (comparison ⟨"Name", .equal, .null, ⟨0, 0, 0, 0⟩⟩)
    (and (comparison ⟨"Name", .startsWith, .text "a", ⟨0, 0, 0, 0⟩⟩)
      (comparison ⟨"Name", .notContains, .text "b", ⟨0, 0, 0, 0⟩⟩))

theorem compile_dual_absentOrShaped :
    absentOrShaped.dual.render = "Name!=null&(Name!^a|Name=*b)" ∧
    ∃ p q, absentOrShaped.compile declaredTexts = .ok p ∧
      absentOrShaped.dual.compile declaredTexts = .ok q ∧ ∀ v, q.holds v = !p.holds v := by
  obtain ⟨q, hq, hholds⟩ :=
    (compile_dual declaredTexts (t := absentOrShaped) (by decide)).2 _ rfl
  exact ⟨by decide, _, q, rfl, hq, hholds⟩

end Filter

end RecordFilter
