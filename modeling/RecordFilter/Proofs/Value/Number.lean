import RecordFilter.Proofs.Number.Exact
import RecordFilter.Record

/-!
# Numbers among values

Two integers are equal as values if they are one integer, whichever kind each is of. An integer
meets a double as the nearest double, and every number meets a decimal as the number that it is.
-/

namespace RecordFilter

namespace Value

/-- The integer that a value is. -/
def integer? : Value → Option Int
  | int n => some n.toInt
  | uint n => some n.toNat
  | _ => none

variable {v w : Value} {i : Int}

theorem integer?_eq_some (h : v.integer? = some i) :
    (∃ n : Int64, v = int n ∧ n.toInt = i) ∨ ∃ n : UInt64, v = uint n ∧ (n.toNat : Int) = i := by
  cases v with
  | int n => exact .inl ⟨n, rfl, Option.some.inj h⟩
  | uint n => exact .inr ⟨n, rfl, Option.some.inj h⟩
  | _ => cases h

theorem compare?_of_integer? (hv : v.integer? = some i) (hw : w.integer? = some i) :
    v.compare? w = some .eq := by
  rcases integer?_eq_some hv with ⟨m, rfl, hm⟩ | ⟨m, rfl, hm⟩ <;>
    rcases integer?_eq_some hw with ⟨n, rfl, hn⟩ | ⟨n, rfl, hn⟩ <;>
    refine congrArg some (Std.LawfulEqOrd.compare_eq_iff_eq.2 ?_)
  · exact hm.trans hn.symm
  · exact hm.trans hn.symm
  · exact hm.trans hn.symm
  · exact Nat.cast_injective (hm.trans hn.symm)

theorem compare?_float_right (hv : v.integer? = some i) (x : Double) :
    v.compare? (float x) = (Double.ofInt i).compare? x := by
  rcases integer?_eq_some hv with ⟨m, rfl, rfl⟩ | ⟨m, rfl, rfl⟩ <;> rfl

theorem compare?_float_left (hv : v.integer? = some i) (x : Double) :
    (float x).compare? v = x.compare? (Double.ofInt i) := by
  rcases integer?_eq_some hv with ⟨m, rfl, rfl⟩ | ⟨m, rfl, rfl⟩ <;> rfl

theorem decimal?_of_integer? (hv : v.integer? = some i) : v.decimal? = some (.ofInt i) := by
  rcases integer?_eq_some hv with ⟨m, rfl, rfl⟩ | ⟨m, rfl, rfl⟩ <;> rfl

theorem compare?_decimal (v : Value) (d : Decimal) :
    v.compare? (decimal d) = v.decimal?.map (·.cmp d) := by
  cases v <;> rfl

/-- A value equals a decimal exactly if it is the same number. -/
theorem equals_decimal (v : Value) (d : Decimal) :
    v.equals (decimal d) = true ↔ v.decimal?.map Decimal.value = some d.value := by
  rw [equals, beq_iff_eq, compare?_decimal]
  cases v.decimal? with
  | none => simp
  | some e => simp [Decimal.cmp_eq_iff]

end Value

end RecordFilter
