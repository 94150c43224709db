import Mathlib.Data.List.Infix
import RecordFilter.Predicate.Evaluation

/-!
# What operators say

Whether case counts makes no difference for an operator once the member is taken in small letters
(`holds_true`). What remains is one comparison of two values for equality and the order, and one
test of two texts for the other operators (`holds_false_iff`). Equality and the order look at the
same outcome, so they never disagree (`holds_equal`, `holds_greaterOrEqual`, …).
-/

namespace RecordFilter

namespace Value

/-- A text or a variant in small letters, any other value as it is. -/
def lowered : Value → Value
  | string s => string (Text.lowered s)
  | variant s => variant (Text.lowered s)
  | v => v

/-- Both values are texts that `r` relates. -/
def RelatesTexts (r : List Char → List Char → Prop) (v o : Value) : Prop :=
  ∃ s t, v.text? = some s ∧ o.text? = some t ∧ r s.toList t.toList

theorem compareTexts_eq_iff (s t : String) : compareTexts s t = .eq ↔ s = t :=
  Std.LawfulEqOrd.compare_eq_iff_eq

theorem lowered_of_text?_eq_none {v : Value} (h : v.text? = none) : v.lowered = v := by
  cases v with
  | string s | variant s => cases h
  | _ => rfl

theorem compare?_string_of_text?_eq_none {v : Value} (h : v.text? = none) (s : String) :
    v.compare? (string s) = none := by
  cases v with
  | string s | variant s => cases h
  | _ => rfl

theorem isNull_lowered (v : Value) : v.lowered.isNull = v.isNull := by
  cases v <;> rfl

theorem isNull_iff (v : Value) : v.isNull = true ↔ v = null := by
  cases v <;> simp [isNull]

theorem isNull_eq_false_iff (v : Value) : v.isNull = false ↔ v ≠ null := by
  rw [← Bool.not_eq_true, isNull_iff]

end Value

namespace Operator

/-! ## The three tests -/

theorem occursIn_iff (s t : List Char) : occursIn s t = true ↔ s <:+: t := by
  induction t with
  | nil => rw [occursIn, List.isEmpty_iff, List.infix_nil]
  | cons c r ih =>
    rw [occursIn, Bool.or_eq_true, List.isPrefixOf_iff_prefix, ih, List.infix_cons_iff]

theorem compareFolded?_true (v o : Value) : compareFolded? true v o = v.lowered.compare? o := by
  cases v with
  | string s | variant s => cases o <;> rfl
  | _ => rfl

theorem equalsFolded_eq (ignoreCase : Bool) (v o : Value) :
    equalsFolded ignoreCase v o = (compareFolded? ignoreCase v o == some .eq) := by
  have htexts : ∀ s t : String, (s == t) = (some (Value.compareTexts s t) == some Ordering.eq) := by
    intro s t
    rw [Bool.eq_iff_iff, beq_iff_eq, beq_iff_eq, Option.some.injEq, Value.compareTexts_eq_iff]
  unfold equalsFolded compareFolded?
  split
  · exact htexts _ _
  · rfl

theorem testTexts_true (test : List Char → List Char → Bool) (v o : Value) :
    testTexts true test v o = testTexts false test v.lowered o := by
  cases v with
  | string s | variant s => cases o <;> rfl
  | _ => rfl

theorem testTexts_false_iff (test : List Char → List Char → Bool)
    {r : List Char → List Char → Prop} (htest : ∀ s t, test s t = true ↔ r s t) (v o : Value) :
    testTexts false test v o = true ↔ v.RelatesTexts r o := by
  unfold testTexts Value.RelatesTexts
  cases v.text? with
  | none => simp
  | some s =>
    cases o.text? with
    | none => simp
    | some t => simp [htest]

/-- An operator that ignores case sees the member in small letters. -/
theorem holds_true (op : Operator) (v o : Value) :
    op.holds true v o = op.holds false v.lowered o := by
  have hcompare : compareFolded? true v o = compareFolded? false v.lowered o :=
    compareFolded?_true v o
  unfold holds
  rw [Value.isNull_lowered]
  simp only [equalsFolded_eq, hcompare, testTexts_true]

/-! ## Equality and order -/

/-- Where a member stands to an operand; an absent one stands nowhere. -/
def outcome? (ignoreCase : Bool) (v o : Value) : Option Ordering :=
  if v.isNull then none else compareFolded? ignoreCase v o

section Outcome

variable (ignoreCase : Bool) (v o : Value)

theorem holds_equal : equal.holds ignoreCase v o = (outcome? ignoreCase v o == some .eq) := by
  unfold holds outcome?
  cases v.isNull with
  | true => rfl
  | false => exact equalsFolded_eq ignoreCase v o

theorem holds_less : less.holds ignoreCase v o = (outcome? ignoreCase v o == some .lt) := by
  unfold holds outcome?
  cases v.isNull <;> rfl

theorem holds_greater : greater.holds ignoreCase v o = (outcome? ignoreCase v o == some .gt) := by
  unfold holds outcome?
  cases v.isNull <;> rfl

theorem holds_lessOrEqual : lessOrEqual.holds ignoreCase v o =
    (less.holds ignoreCase v o || equal.holds ignoreCase v o) := by
  rw [holds_less, holds_equal]
  unfold holds outcome?
  cases v.isNull with
  | true => rfl
  | false => rcases compareFolded? ignoreCase v o with _ | _ | _ | _ <;> rfl

theorem holds_greaterOrEqual : greaterOrEqual.holds ignoreCase v o =
    (greater.holds ignoreCase v o || equal.holds ignoreCase v o) := by
  rw [holds_greater, holds_equal]
  unfold holds outcome?
  cases v.isNull with
  | true => rfl
  | false => rcases compareFolded? ignoreCase v o with _ | _ | _ | _ <;> rfl

end Outcome

/-! ## Complements -/

/-- The operators that have another one for their negation. -/
def isComplementable : Operator → Bool
  | equal | notEqual | contains | notContains | startsWith | notStartsWith | endsWith
  | notEndsWith => true
  | greater | less | greaterOrEqual | lessOrEqual | equalIgnoringCase => false

/-- The other operator of a pair that asks for the opposite. -/
def complement : Operator → Operator
  | equal => notEqual
  | notEqual => equal
  | contains => notContains
  | notContains => contains
  | startsWith => notStartsWith
  | notStartsWith => startsWith
  | endsWith => notEndsWith
  | notEndsWith => endsWith
  | op => op

/-- Of any member, an absent one too, just one of the two operators holds. -/
theorem holds_complement {op : Operator} (hop : op.isComplementable = true) (ignoreCase : Bool)
    (v o : Value) : op.complement.holds ignoreCase v o = !op.holds ignoreCase v o := by
  unfold holds
  cases op <;> cases hop <;> cases v.isNull <;> simp [complement, isNegated]

/-! ## All operators -/

/-- What an operator says of two values that are both present. -/
def Relates : Operator → Value → Value → Prop
  | equal, v, o | equalIgnoringCase, v, o => v.equals o
  | notEqual, v, o => ¬v.equals o
  | greater, v, o => v.compare? o = some .gt
  | less, v, o => v.compare? o = some .lt
  | greaterOrEqual, v, o => v.compare? o = some .gt ∨ v.compare? o = some .eq
  | lessOrEqual, v, o => v.compare? o = some .lt ∨ v.compare? o = some .eq
  | contains, v, o => v.RelatesTexts (fun s t => t <:+: s) o
  | notContains, v, o => ¬v.RelatesTexts (fun s t => t <:+: s) o
  | startsWith, v, o => v.RelatesTexts (fun s t => t <+: s) o
  | notStartsWith, v, o => ¬v.RelatesTexts (fun s t => t <+: s) o
  | endsWith, v, o => v.RelatesTexts (fun s t => t <:+ s) o
  | notEndsWith, v, o => ¬v.RelatesTexts (fun s t => t <:+ s) o

section Relates

variable {v : Value}

theorem complement_holds_iff {op : Operator} (hop : op.isComplementable = true) {o : Value}
    (h : op.holds false v o = true ↔ op.Relates v o) :
    op.complement.holds false v o = true ↔ ¬op.Relates v o := by
  rw [holds_complement hop, Bool.not_eq_true', ← h, Bool.not_eq_true]

theorem holds_false_iff (op : Operator) (hv : v.isNull = false) (o : Value) :
    op.holds false v o = true ↔ op.Relates v o := by
  have hcompare : outcome? false v o = v.compare? o := by
    rw [outcome?, hv]
    rfl
  have hequal : equal.holds false v o = true ↔ equal.Relates v o := by
    rw [holds_equal, hcompare]
    rfl
  have hcontains : contains.holds false v o = true ↔ contains.Relates v o := by
    rw [holds, hv]
    exact testTexts_false_iff containsText (fun s t => occursIn_iff t s) v o
  have hstarts : startsWith.holds false v o = true ↔ startsWith.Relates v o := by
    rw [holds, hv]
    exact testTexts_false_iff startsWithText (fun s t => List.isPrefixOf_iff_prefix) v o
  have hends : endsWith.holds false v o = true ↔ endsWith.Relates v o := by
    rw [holds, hv]
    exact testTexts_false_iff endsWithText (fun s t => List.isSuffixOf_iff_suffix) v o
  cases op with
  | equal | equalIgnoringCase => exact hequal
  | contains => exact hcontains
  | startsWith => exact hstarts
  | endsWith => exact hends
  | notEqual => exact complement_holds_iff rfl hequal
  | notContains => exact complement_holds_iff rfl hcontains
  | notStartsWith => exact complement_holds_iff rfl hstarts
  | notEndsWith => exact complement_holds_iff rfl hends
  | greater => rw [holds_greater, hcompare, beq_iff_eq, Relates]
  | less => rw [holds_less, hcompare, beq_iff_eq, Relates]
  | greaterOrEqual =>
    rw [holds_greaterOrEqual, Bool.or_eq_true, holds_greater, holds_equal, hcompare, beq_iff_eq,
      beq_iff_eq, Relates]
  | lessOrEqual =>
    rw [holds_lessOrEqual, Bool.or_eq_true, holds_less, holds_equal, hcompare, beq_iff_eq,
      beq_iff_eq, Relates]

/-- A member that is no text is related to every text alike. -/
theorem relates_string_iff (hv : v.text? = none) (op : Operator) (s t : String) :
    op.Relates v (.string s) ↔ op.Relates v (.string t) := by
  have hcompare := Value.compare?_string_of_text?_eq_none hv
  have htexts : ∀ r u, ¬v.RelatesTexts r (.string u) := by
    rintro r u ⟨w, -, hw, -⟩
    rw [hv] at hw
    cases hw
  cases op <;> simp only [Relates, Value.equals, hcompare, htexts]

end Relates

end Operator

end RecordFilter
