import RecordFilter.Proofs.Predicate.Condition
import RecordFilter.Proofs.Predicate.Evaluation
import RecordFilter.Proofs.Value.Order

/-!
# Ranges

Below, at and above a literal: the operators for equality and the order compile together
(`compile_under`) and look at one outcome, so no record is in two of the three, and a weak order
joins the two that it names. A record is in none only if its member does not compare with the
literal, which takes a member that is absent, no number or not of the declared type, or a field that
reads literals in its own way (`order_agrees_with_equality`).
-/

namespace RecordFilter

variable {α : Type}

/-! ## Outcomes of one type -/

namespace Value

theorem type?_lowered (v : Value) : v.lowered.type? = v.type? := by
  cases v <;> rfl

theorem isNaN_lowered (v : Value) : v.lowered.isNaN = v.isNaN := by
  cases v <;> rfl

theorem type?_foldOperand (ignoreCase : Bool) (v : Value) :
    (Filter.foldOperand ignoreCase v).type? = v.type? := by
  cases v <;> rfl

theorem isNaN_foldOperand (ignoreCase : Bool) (v : Value) :
    (Filter.foldOperand ignoreCase v).isNaN = v.isNaN := by
  cases v <;> rfl

theorem isNull_of_type? {v : Value} {type : ValueType} (h : v.type? = some type) :
    v.isNull = false := by
  cases v with
  | null => cases h
  | _ => rfl

end Value

namespace Operator

/-- The operators for equality and the order. -/
def isComparison : Operator → Bool
  | equal => true
  | op => op.isOrdering

theorem isSome_outcome? {v o : Value} {type : ValueType} (hv : v.type? = some type)
    (ho : o.type? = some type) (hnv : v.isNaN = false) (hno : o.isNaN = false) (ignoreCase : Bool) :
    (outcome? ignoreCase v o).isSome := by
  rw [outcome?, Value.isNull_of_type? hv]
  cases ignoreCase with
  | false => exact Value.isSome_compare?_of_type? hv ho hnv hno
  | true =>
    show (compareFolded? true v o).isSome
    rw [compareFolded?_true]
    exact Value.isSome_compare?_of_type? (v.type?_lowered.trans hv) ho (v.isNaN_lowered.trans hnv)
      hno

/-- Of below, at and above, one is the outcome if there is any. -/
theorem count_strict (ignoreCase : Bool) (v o : Value) :
    [less.holds ignoreCase v o, equal.holds ignoreCase v o, greater.holds ignoreCase v o].count
      true = if (outcome? ignoreCase v o).isSome then 1 else 0 := by
  rw [holds_less, holds_equal, holds_greater]
  rcases outcome? ignoreCase v o with _ | _ | _ | _ <;> rfl

end Operator

namespace Filter

open Operator

theorem supports_of_isComparison {type : ValueType} (hordered : type.supportsOrdering = true)
    {op : Operator} (hop : op.isComparison = true) : supports type op = true := by
  cases op <;> cases hop
  case equal => rfl
  all_goals exact hordered

theorem ignoresCase_of_isComparison (config : Config) (type : ValueType) {op : Operator}
    (hop : op.isComparison = true) :
    ignoresCase config type op = ignoresCase config type .equal := by
  cases op <;> cases hop <;> rfl

section Ranges

variable {m : Mapper α} {c : Condition} {f : FieldMapping α} (hf : m.resolve c.field = .ok f)
  (hordered : f.type.supportsOrdering = true) (hnull : ¬c.AsksForNull m.config)
include hf hordered hnull

/-- If a field is ordered, its conditions for equality and the order compile if one does. -/
theorem compile_under {p : Predicate α} (hp : (comparison (c.under .equal)).compile m = .ok p) :
    ∃ ignoreCase operand, f.readLiteral c.value.word = .ok operand ∧
      ∀ op : Operator, op.isComparison = true →
        ∃ q, (comparison (c.under op)).compile m = .ok q ∧
          ∀ x, q.holds x = op.holds ignoreCase (f.read x) (foldOperand ignoreCase operand) := by
  rw [compile_word (c := c.under .equal) hf hnull] at hp
  obtain ⟨-, operand, hoperand, -⟩ := compileComparison_eq_ok_iff.1 hp
  refine ⟨ignoresCase m.config f.type .equal, operand, hoperand, fun op hop => ?_⟩
  refine ⟨.compare (comparisonOf m.config op f operand), ?_, fun x => ?_⟩
  · rw [compile_word (c := c.under op) hf hnull]
    have hsupports := supports_of_isComparison hordered hop
    exact compileComparison_eq_ok_iff.2 ⟨hsupports, operand, hoperand, rfl⟩
  · rw [holds_comparisonOf, ignoresCase_of_isComparison _ _ hop]

/-- On an ordered field the order compiles if equality does. The weak operators add equality to the
strict ones, and of below, at and above the literal at most one is true of a record. Just one is, if
the field has no reader of literals of its own and the member is of the declared type and no double
that is no number. -/
theorem order_agrees_with_equality {eq : Predicate α}
    (heq : (comparison (c.under .equal)).compile m = .ok eq) :
    ∃ lt gt le ge,
      (comparison (c.under .less)).compile m = .ok lt ∧
      (comparison (c.under .greater)).compile m = .ok gt ∧
      (comparison (c.under .lessOrEqual)).compile m = .ok le ∧
      (comparison (c.under .greaterOrEqual)).compile m = .ok ge ∧
      ∀ x, (ge.holds x = (gt.holds x || eq.holds x)) ∧ (le.holds x = (lt.holds x || eq.holds x)) ∧
        [lt.holds x, eq.holds x, gt.holds x].count true ≤ 1 ∧
        (f.reader = none → (f.read x).type? = some f.type → (f.read x).isNaN = false →
          [lt.holds x, eq.holds x, gt.holds x].count true = 1) := by
  obtain ⟨ignoreCase, operand, hoperand, hcompile⟩ := compile_under hf hordered hnull heq
  obtain ⟨eq', heq', hholds⟩ := hcompile .equal rfl
  obtain ⟨lt, hlt, hltHolds⟩ := hcompile .less rfl
  obtain ⟨gt, hgt, hgtHolds⟩ := hcompile .greater rfl
  obtain ⟨le, hle, hleHolds⟩ := hcompile .lessOrEqual rfl
  obtain ⟨ge, hge, hgeHolds⟩ := hcompile .greaterOrEqual rfl
  cases heq.symm.trans heq'
  refine ⟨lt, gt, le, ge, hlt, hgt, hle, hge, fun x => ?_⟩
  simp only [hholds, hltHolds, hgtHolds, hleHolds, hgeHolds, count_strict]
  refine ⟨holds_greaterOrEqual .., holds_lessOrEqual .., ?_, fun hreader htype hnan => ?_⟩
  · split_ifs <;> decide
  · rw [FieldMapping.readLiteral, hreader] at hoperand
    have hcoerced := Value.coercedTo_of_coerce hoperand
    refine if_pos (isSome_outcome? htype ?_ hnan ?_ ignoreCase)
    · rw [Value.type?_foldOperand, hcoerced.type?_eq hordered]
    · rw [Value.isNaN_foldOperand, hcoerced.isNaN_eq]

end Ranges

/-- Integers under a name. -/
def sizeMapper : Mapper Int64 :=
  (Mapper.empty 0 .standard).override ⟨"Size", .ofOrigin "size" .int, .int, none⟩

theorem order_agrees_with_equality_sizes :
    ∃ lt eq gt,
      (comparison ⟨"Size", .less, .text "5", ⟨0, 0, 0, 0⟩⟩).compile sizeMapper = .ok lt ∧
      (comparison ⟨"Size", .equal, .text "5", ⟨0, 0, 0, 0⟩⟩).compile sizeMapper = .ok eq ∧
      (comparison ⟨"Size", .greater, .text "5", ⟨0, 0, 0, 0⟩⟩).compile sizeMapper = .ok gt ∧
      ∀ n, [lt.holds n, eq.holds n, gt.holds n].count true = 1 := by
  have hnull : ¬Condition.AsksForNull sizeMapper.config
      ⟨"Size", .equal, .text "5", ⟨0, 0, 0, 0⟩⟩ := by decide
  obtain ⟨lt, gt, _le, _ge, hlt, hgt, -, -, hholds⟩ :=
    order_agrees_with_equality (m := sizeMapper) rfl rfl hnull rfl
  exact ⟨lt, _, gt, hlt, rfl, hgt, fun n => (hholds n).2.2.2 rfl rfl rfl⟩

end Filter

end RecordFilter
