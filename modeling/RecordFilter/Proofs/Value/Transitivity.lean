import RecordFilter.Proofs.Number.Rounding
import RecordFilter.Proofs.Value.Number
import RecordFilter.Proofs.Value.Order

/-!
# Comparing numbers of different kinds

An integer meets a double as the double that it is rounded to, and any other two numbers meet as the
numbers that they are. So the order of numbers is their exact order, except that an integer equals
what it is rounded to (`compare?_of_number?`). It is transitive as long as no integer stands beside
a double that it is rounded to and is not (`atMost_trans_unless_slips`), which only integers beyond
`2 ^ 53` do (`lt_natAbs_of_slips`).
-/

namespace RecordFilter

namespace Value

/-- The number that a value is; infinities and what is no number are none. -/
def number? (v : Value) : Option ℚ :=
  v.decimal?.map Decimal.value

/-- The one value is an integer, the other the double that it is rounded to. -/
def Rounds (a b : Value) : Prop :=
  ∃ n x, (a.integer? = some n ∧ b = float x ∨ a = float x ∧ b.integer? = some n) ∧
    (Double.ofInt n).rank = x.rank

/-- An integer beside the double that it is rounded to, which is another number. -/
def Slips (a b : Value) : Prop :=
  a.Rounds b ∧ a.number? ≠ b.number?

variable {a b c v w : Value} {p q r : ℚ} {n : Int} {x y : Double} {d : Decimal}

theorem number?_of_integer? (h : v.integer? = some n) : v.number? = some (n : ℚ) := by
  rw [number?, decimal?_of_integer? h, Option.map_some, Decimal.value_ofInt]

theorem number?_float (x : Double) : (float x).number? = x.value? :=
  Decimal.map_value_ofDouble? x

theorem cases_of_number? (h : v.number? = some p) :
    (∃ n, v.integer? = some n ∧ p = n) ∨ (∃ x, v = float x ∧ x.value? = some p) ∨
      ∃ d, v = decimal d ∧ p = d.value := by
  cases v with
  | int n => exact .inl ⟨_, rfl, Option.some.inj (h.symm.trans (number?_of_integer? rfl))⟩
  | uint n => exact .inl ⟨_, rfl, Option.some.inj (h.symm.trans (number?_of_integer? rfl))⟩
  | float x => exact .inr (.inl ⟨x, rfl, (number?_float x).symm.trans h⟩)
  | decimal d => exact .inr (.inr ⟨d, rfl, (Option.some.inj h).symm⟩)
  | _ => cases h

theorem Rounds.symm (h : a.Rounds b) : b.Rounds a := by
  obtain ⟨n, x, ⟨ha, hb⟩ | ⟨ha, hb⟩, hrank⟩ := h
  · exact ⟨n, x, .inr ⟨hb, ha⟩, hrank⟩
  · exact ⟨n, x, .inl ⟨hb, ha⟩, hrank⟩

theorem not_rounds (ha : a.integer? = none) (hb : b.integer? = none) : ¬a.Rounds b := by
  rintro ⟨n, x, ⟨hn, -⟩ | ⟨-, hn⟩, -⟩
  · cases ha.symm.trans hn
  · cases hb.symm.trans hn

theorem rounds_float_iff (h : v.integer? = some n) (x : Double) :
    v.Rounds (float x) ↔ (Double.ofInt n).rank = x.rank := by
  constructor
  · rintro ⟨m, y, ⟨hm, hy⟩ | ⟨rfl, hm⟩, hrank⟩
    · cases hy
      rwa [Option.some.inj (h.symm.trans hm)]
    · cases hm
  · exact fun hrank => ⟨n, x, .inl ⟨h, rfl⟩, hrank⟩

/-! ## The outcome of a comparison -/

theorem compare?_float_of_number? (hv : v.number? = some p) (hx : x.value? = some q) :
    (v.Rounds (float x) → v.compare? (float x) = some .eq) ∧
      (¬v.Rounds (float x) → v.compare? (float x) = some (compare p q)) := by
  rcases cases_of_number? hv with ⟨n, hn, rfl⟩ | ⟨y, rfl, hy⟩ | ⟨d, rfl, rfl⟩
  · rw [rounds_float_iff hn, compare?_float_right hn, Double.compare?_ofInt hx]
    exact ⟨fun h => congrArg some (if_pos h), fun h => congrArg some (if_neg h)⟩
  · exact ⟨fun h => absurd h (not_rounds rfl rfl), fun _ => Double.compare?_eq_compare hy hx⟩
  · refine ⟨fun h => absurd h (not_rounds rfl rfl), fun _ => ?_⟩
    obtain ⟨e, he, rfl⟩ := Option.map_eq_some_iff.1 ((number?_float x).trans hx)
    show (Decimal.ofDouble? x).map d.cmp = _
    rw [show Decimal.ofDouble? x = some e from he, Option.map_some, Decimal.cmp_eq_compare]

theorem meaning?_of_number? (hv : v.number? = some p) (hfloat : ∀ x, v ≠ float x) :
    v.meaning? = some (.number p) := by
  rcases cases_of_number? hv with ⟨n, hn, rfl⟩ | ⟨x, rfl, -⟩ | ⟨d, rfl, rfl⟩
  · rcases integer?_eq_some hn with ⟨m, rfl, rfl⟩ | ⟨m, rfl, rfl⟩ <;> rfl
  · exact absurd rfl (hfloat x)
  · rfl

/-- An integer equals the double that it is rounded to; apart from that numbers are compared as the
numbers that they are. -/
theorem compare?_of_number? (hv : v.number? = some p) (hw : w.number? = some q) :
    (v.Rounds w → v.compare? w = some .eq) ∧
      (¬v.Rounds w → v.compare? w = some (compare p q)) := by
  by_cases hwfloat : ∃ x, w = float x
  · obtain ⟨x, rfl⟩ := hwfloat
    exact compare?_float_of_number? hv ((number?_float x).symm.trans hw)
  by_cases hvfloat : ∃ x, v = float x
  · obtain ⟨x, rfl⟩ := hvfloat
    obtain ⟨hrounds, hnot⟩ := compare?_float_of_number? hw ((number?_float x).symm.trans hv)
    rw [compare?_swap]
    refine ⟨fun h => ?_, fun h => ?_⟩
    · rw [hrounds h.symm]
      rfl
    · rw [hnot fun h' => h h'.symm]
      exact congrArg some Std.OrientedOrd.eq_swap.symm
  · have hv' := meaning?_of_number? hv fun x hx => hvfloat ⟨x, hx⟩
    have hw' := meaning?_of_number? hw fun x hx => hwfloat ⟨x, hx⟩
    refine ⟨?_, fun _ => compare?_eq hv' hw'⟩
    rintro ⟨n, x, ⟨-, hx⟩ | ⟨hx, -⟩, -⟩
    · exact absurd ⟨x, hx⟩ hwfloat
    · exact absurd ⟨x, hx⟩ hvfloat

theorem atMost_iff (hv : v.number? = some p) (hw : w.number? = some q) :
    v.AtMost w ↔ p ≤ q ∨ v.Rounds w := by
  obtain ⟨hrounds, hnot⟩ := compare?_of_number? hv hw
  by_cases h : v.Rounds w
  · exact ⟨fun _ => .inr h, fun _ => ⟨.eq, hrounds h, rfl⟩⟩
  · rw [or_iff_left h, AtMost, hnot h]
    simp [Ordering.isLE_iff_ne_gt, compare_le_iff_le]

theorem compare?_eq_some_eq_iff (hv : v.number? = some p) (hw : w.number? = some q) :
    v.compare? w = some .eq ↔ p = q ∨ v.Rounds w := by
  obtain ⟨hrounds, hnot⟩ := compare?_of_number? hv hw
  by_cases h : v.Rounds w
  · exact ⟨fun _ => .inr h, fun _ => hrounds h⟩
  · rw [or_iff_left h, hnot h, Option.some.injEq, compare_eq_iff_eq]

/-! ## Chains -/

theorem number?_eq_of_natAbs_le (hv : v.integer? = some n) (hn : n.natAbs ≤ 2 ^ 53)
    (hrank : (Double.ofInt n).rank = x.rank) : v.number? = (float x).number? := by
  rw [number?_of_integer? hv, number?_float, Double.value?_of_rank_ofInt_eq hn hrank]

/-- An integer that stands beside a double that it is rounded to, and is not, is beyond
`2 ^ 53`. -/
theorem lt_natAbs_of_slips (h : a.Slips b) (hn : a.integer? = some n ∨ b.integer? = some n) :
    2 ^ 53 < n.natAbs := by
  obtain ⟨⟨m, x, hcases, hrank⟩, hne⟩ := h
  refine not_le.1 fun hle => hne ?_
  obtain ⟨ha, rfl⟩ | ⟨rfl, hb⟩ := hcases
  · cases ha.symm.trans (hn.resolve_right fun h => by cases h)
    exact number?_eq_of_natAbs_le ha hle hrank
  · cases hb.symm.trans (hn.resolve_left fun h => by cases h)
    exact (number?_eq_of_natAbs_le hb hle hrank).symm

section Exact

variable (ha : a.number? = some p) (hb : b.number? = some q) (hslips : ¬a.Slips b)
include ha hb hslips

theorem eq_of_rounds (h : a.Rounds b) : p = q := by
  have hnumber : a.number? = b.number? := not_not.1 fun hne => hslips ⟨h, hne⟩
  exact Option.some.inj (ha.symm.trans (hnumber.trans hb))

theorem le_of_atMost (h : a.AtMost b) : p ≤ q :=
  ((atMost_iff ha hb).1 h).elim id fun hrounds => (eq_of_rounds ha hb hslips hrounds).le

theorem eq_of_compare? (h : a.compare? b = some .eq) : p = q :=
  ((compare?_eq_some_eq_iff ha hb).1 h).elim id (eq_of_rounds ha hb hslips)

end Exact

/-- A decimal that equals the one of two slipping numbers does not equal the other. -/
theorem exists_decimal_of_slips (ha : a.number? = some p) (hb : b.number? = some q)
    (h : a.Slips b) :
    ∃ d, b.compare? (decimal d) = some .eq ∧ a.compare? (decimal d) ≠ some .eq := by
  obtain ⟨d, -, rfl⟩ := Option.map_eq_some_iff.1 hb
  have hd : (decimal d).number? = some d.value := rfl
  refine ⟨d, (compare?_eq_some_eq_iff hb hd).2 (.inl rfl), fun heq => ?_⟩
  rcases (compare?_eq_some_eq_iff ha hd).1 heq with rfl | ⟨n, x, ⟨-, hx⟩ | ⟨-, hn⟩, -⟩
  · exact h.2 (ha.trans hb.symm)
  · cases hx
  · cases hn

/-- Two numbers are in order exactly if they are as numbers, or if the one is an integer and the
other the double that it is rounded to. So the order of three is transitive, unless the one in the
middle is beside an integer that is rounded to a double which is another number; and wherever such
two stand side by side, some decimal equals only one of them. -/
theorem atMost_trans_unless_slips (ha : a.number? = some p) (hb : b.number? = some q)
    (hc : c.number? = some r) :
    (a.AtMost c ↔ p ≤ r ∨ a.Rounds c) ∧ (a.compare? c = some .eq ↔ p = r ∨ a.Rounds c) ∧
    (¬a.Slips b → ¬b.Slips c → (a.AtMost b → b.AtMost c → a.AtMost c) ∧
      (a.compare? b = some .eq → b.compare? c = some .eq → a.compare? c = some .eq)) ∧
    (a.Slips b → a.compare? b = some .eq ∧
      ∃ d, b.compare? (decimal d) = some .eq ∧ a.compare? (decimal d) ≠ some .eq) := by
  have hatMost := atMost_iff ha hc
  have hequal := compare?_eq_some_eq_iff ha hc
  refine ⟨hatMost, hequal, fun hslips hslips' => ⟨fun hab hbc => ?_, fun hab hbc => ?_⟩,
    fun h => ⟨(compare?_of_number? ha hb).1 h.1, exists_decimal_of_slips ha hb h⟩⟩
  · have hle := le_of_atMost ha hb hslips hab
    exact hatMost.2 (.inl (hle.trans (le_of_atMost hb hc hslips' hbc)))
  · have heq := eq_of_compare? ha hb hslips hab
    exact hequal.2 (.inl (heq.trans (eq_of_compare? hb hc hslips' hbc)))

/-- The last integer of those that are all doubles, as itself, as a double, and with a tenth
more. -/
theorem atMost_trans_unless_slips_tenth :
    (uint 9007199254740992).AtMost (float (.ofInt 9007199254740992)) ∧
    (float (.ofInt 9007199254740992)).AtMost (decimal ⟨90071992547409921, 1⟩) ∧
    (uint 9007199254740992).AtMost (decimal ⟨90071992547409921, 1⟩) := by
  have ha : (uint 9007199254740992).number? = some ((9007199254740992 : Int) : ℚ) :=
    number?_of_integer? rfl
  have hb : (float (.ofInt 9007199254740992)).number? = some ((9007199254740992 : Int) : ℚ) :=
    (number?_float _).trans (Double.value?_of_rank_ofInt_eq (by decide) rfl)
  have hslips : ¬(uint 9007199254740992).Slips (float (.ofInt 9007199254740992)) :=
    fun h => h.2 (ha.trans hb.symm)
  have hslips' : ¬(float (.ofInt 9007199254740992)).Slips (decimal ⟨90071992547409921, 1⟩) :=
    fun h => not_rounds rfl rfl h.1
  have hlow : (uint 9007199254740992).AtMost (float (.ofInt 9007199254740992)) :=
    ⟨.eq, by decide, rfl⟩
  have hhigh : (float (.ofInt 9007199254740992)).AtMost (decimal ⟨90071992547409921, 1⟩) :=
    ⟨.lt, by decide, rfl⟩
  exact ⟨hlow, hhigh, ((atMost_trans_unless_slips ha hb rfl).2.2.1 hslips hslips').1 hlow hhigh⟩

/-- Two neighbouring integers equal one double. -/
theorem integers_equal_one_double :
    (float (.ofInt 9007199254740992)).number? = some ((9007199254740992 : Int) : ℚ) ∧
    (int 9007199254740993).compare? (float (.ofInt 9007199254740992)) = some .eq ∧
    (float (.ofInt 9007199254740992)).compare? (int 9007199254740992) = some .eq ∧
    (int 9007199254740993).compare? (int 9007199254740992) = some .gt :=
  ⟨(number?_float _).trans (Double.value?_of_rank_ofInt_eq (by decide) rfl), by decide, by decide,
    by decide⟩

end Value

end RecordFilter
