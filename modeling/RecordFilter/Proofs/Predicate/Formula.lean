import RecordFilter.Proofs.Mapper.Keys
import RecordFilter.Proofs.Predicate.Condition
import RecordFilter.Proofs.Predicate.Evaluation
import RecordFilter.Proofs.Value.Coercion

/-!
# Filters as formulas

A filter can be read off its tree, without compiling it: a formula whose conditions ask for null or
compare what a member holds with what the literal means for the type of the field (`Matches`). The
compiled filter, which folds the operand once and the member each time, matches the same records
(`holds_iff_matches`).
-/

namespace RecordFilter

variable {α : Type}

namespace Value

def IsText (v : Value) : Prop :=
  v.text?.isSome = true

instance (v : Value) : Decidable v.IsText :=
  inferInstanceAs (Decidable (_ = _))

end Value

namespace Condition

/-- Case does not count on text fields, under `=` or if the settings say so. -/
def IgnoresCase (config : Config) (type : ValueType) (op : Operator) : Prop :=
  type = .string ∧ (op = .equalIgnoringCase ∨ config.caseInsensitiveFiltering = true)

instance (config : Config) (type : ValueType) (op : Operator) :
    Decidable (IgnoresCase config type op) :=
  inferInstanceAs (Decidable (_ ∧ _))

/-- What a test for null says of the value of a member. -/
def TestsNull : Operator → Value → Prop
  | .equal, v | .equalIgnoringCase, v => v = .null
  | .notEqual, v => v ≠ .null
  | _, _ => False

/-- What a comparison with a word says of the value of a member. Of an absent one just the negated
operators hold; otherwise the word is read as the type says, and where both sides are texts whose
case does not count, both are taken in small letters. -/
def Compares (config : Config) (type : ValueType) (op : Operator) (word : String) (v : Value) :
    Prop :=
  if v = .null then op ∈ [Operator.notEqual, .notContains, .notStartsWith, .notEndsWith]
  else ∃ o, Value.coerce word type = .ok o ∧
    if IgnoresCase config type op ∧ v.IsText ∧ o.IsText then op.Relates v.lowered o.lowered
    else op.Relates v o

/-- What a condition says of a record. -/
def Matches (m : Mapper α) (c : Condition) (x : α) : Prop :=
  ∃ f, m.resolve c.field = .ok f ∧
    if c.AsksForNull m.config then TestsNull c.operator (f.read x)
    else Compares m.config f.type c.operator c.value.word (f.read x)

end Condition

/-- What a filter says of a record. -/
def Filter.Matches (m : Mapper α) : Filter → α → Prop
  | comparison c, x => c.Matches m x
  | and l r, x => l.Matches m x ∧ r.Matches m x
  | or l r, x => l.Matches m x ∨ r.Matches m x
  | group f, x => f.Matches m x

namespace Filter

open Condition

theorem holds_compileNullTest_iff {c : Condition} {f : FieldMapping α} {p : Predicate α}
    (hp : compileNullTest c f = .ok p) (x : α) :
    p.holds x = true ↔ TestsNull c.operator (f.read x) := by
  have hnull : (f.accessor.get x).isNull = true ↔ f.read x = .null := Value.isNull_iff _
  have hnotNull : (!(f.accessor.get x).isNull) = true ↔ f.read x ≠ .null := by
    rw [Bool.not_eq_true', Value.isNull_eq_false_iff, FieldMapping.read]
  unfold compileNullTest at hp
  cases hop : c.operator <;> rw [hop] at hp <;> cases hp
  case equal | equalIgnoringCase => exact hnull
  case notEqual => exact hnotNull

theorem ignoresCase_iff (config : Config) (type : ValueType) (op : Operator) :
    ignoresCase config type op = true ↔ IgnoresCase config type op := by
  cases type <;> simp [ignoresCase, IgnoresCase, ValueType.isText]

theorem holds_null_iff (op : Operator) (ignoreCase : Bool) (o : Value) :
    op.holds ignoreCase .null o = true ↔
      op ∈ [Operator.notEqual, .notContains, .notStartsWith, .notEndsWith] := by
  have h : op.holds ignoreCase .null o = op.isNegated := rfl
  rw [h]
  cases op <;> decide

/-- A folded operand is to the member what the formula says of the two. -/
theorem holds_foldOperand_iff {config : Config} {type : ValueType} {word : String} {o : Value}
    (ho : Value.coerce word type = .ok o) (op : Operator) (v : Value) :
    op.holds (ignoresCase config type op) v (foldOperand (ignoresCase config type op) o) = true ↔
      Compares config type op word v := by
  unfold Compares
  split_ifs with hnull
  · rw [hnull]
    exact holds_null_iff op _ _
  have hpresent := (Value.isNull_eq_false_iff v).2 hnull
  simp only [ho, Except.ok.injEq, exists_eq_left']
  have hfolds := ignoresCase_iff config type op
  cases hcase : ignoresCase config type op with
  | false =>
    rw [if_neg fun h => Bool.eq_false_iff.1 hcase (hfolds.2 h.1), foldOperand_false,
      Operator.holds_false_iff op hpresent]
  | true =>
    have hignores := hfolds.1 hcase
    have htype : type = .string := hignores.1
    subst htype
    cases ho
    have hlowered : v.lowered.isNull = false := (Value.isNull_lowered v).trans hpresent
    rw [Operator.holds_true, Operator.holds_false_iff op hlowered]
    split_ifs with htexts
    · exact Iff.rfl
    · -- the operand is a text, so the member is none
      have hv : v.text? = none := by
        rw [← Option.not_isSome_iff_eq_none]
        exact fun hv => htexts ⟨hignores, hv, rfl⟩
      rw [Value.lowered_of_text?_eq_none hv]
      exact Operator.relates_string_iff hv op _ _

theorem holds_condition_iff {m : Mapper α}
    (hm : ∀ name f, m.resolve name = .ok f → f.reader = none) {c : Condition} {p : Predicate α}
    (hp : (comparison c).compile m = .ok p) (x : α) : p.holds x = true ↔ c.Matches m x := by
  obtain ⟨f, hf, hcases⟩ := compile_cases hp
  simp only [Condition.Matches, hf, Except.ok.injEq, exists_eq_left']
  rcases hcases with ⟨hnull, hp⟩ | ⟨hnull, -, operand, hoperand, rfl⟩
  · rw [if_pos hnull]
    exact holds_compileNullTest_iff hp x
  · rw [FieldMapping.readLiteral, hm c.field f hf] at hoperand
    rw [if_neg hnull, holds_comparisonOf]
    exact holds_foldOperand_iff hoperand c.operator (f.read x)

/-- A compiled filter matches just the records that the filter says something true of, if no field
has a reader of literals of its own. -/
theorem holds_iff_matches {m : Mapper α} (hm : ∀ name f, m.resolve name = .ok f → f.reader = none)
    {t : Filter} {p : Predicate α} (hp : t.compile m = .ok p) (x : α) :
    p.holds x = true ↔ t.Matches m x := by
  induction t generalizing p with
  | comparison c => exact holds_condition_iff hm hp x
  | and l r ihl ihr =>
    obtain ⟨pl, hl, hp⟩ := bind_eq_ok.1 hp
    obtain ⟨pr, hr, hp⟩ := bind_eq_ok.1 hp
    cases hp
    rw [Predicate.holds, Bool.and_eq_true, ihl hl, ihr hr, Matches]
  | or l r ihl ihr =>
    obtain ⟨pl, hl, hp⟩ := bind_eq_ok.1 hp
    obtain ⟨pr, hr, hp⟩ := bind_eq_ok.1 hp
    cases hp
    rw [Predicate.holds, Bool.or_eq_true, ihl hl, ihr hr, Matches]
  | group f ih => exact ih hp

/-- Values under a name that declares them texts. -/
def declaredTexts : Mapper Value :=
  (Mapper.empty 0 .standard).override ⟨"Name", .ofOrigin "name" id, .string, none⟩

/-- An absent name, or one that is `ab` in any case. -/
def absentOrSpelled : Filter :=
  or (comparison ⟨"Name", .equal, .null, ⟨0, 0, 0, 0⟩⟩)
    (group (comparison ⟨"Name", .equalIgnoringCase, .text "Ab", ⟨0, 0, 0, 0⟩⟩))

theorem holds_iff_matches_absentOrSpelled :
    ∃ p, absentOrSpelled.compile declaredTexts = .ok p ∧
      ∀ v, p.holds v = true ↔ absentOrSpelled.Matches declaredTexts v := by
  refine ⟨_, rfl, holds_iff_matches ?_ rfl⟩
  intro name f hf
  have hlookup := Mapper.mapping?_of_resolve hf
  rw [declaredTexts, Mapper.override, Mapper.mapping?_bump, Mapper.mapping?_put] at hlookup
  split_ifs at hlookup
  · cases hlookup
    rfl
  · cases hlookup

end Filter

end RecordFilter
