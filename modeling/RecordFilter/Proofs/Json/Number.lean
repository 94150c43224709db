import RecordFilter.Proofs.Json.Literal
import RecordFilter.Proofs.Value.Number

/-!
# Numbers as they are held

The reader of JSON holds a number without fraction and exponent as an integer if it fits, and any
other as a double. Only minus zero is held as a double although it could be an integer.
-/

namespace RecordFilter

namespace Json

/-- The integer that a number is held as. -/
def Number.integer? : Number → Option Int
  | negative n => some n.toInt
  | natural n => some n.toNat
  | double _ => none

theorem Number.integer?_ofJson (n : Number) :
    (Value.ofJson (.number n)).integer? = n.integer? := by
  cases n with
  | negative n => rfl
  | natural n =>
    rw [Value.ofJson]
    split_ifs with hn
    · rw [Value.integer?, Int64.toInt_ofNat_of_lt hn]
      rfl
    · rfl
  | double x => rfl

/-- As a decimal a number of JSON is the number itself. -/
theorem Number.map_value_decimal?_ofJson (n : Number) :
    (Value.ofJson (.number n)).decimal?.map Decimal.value = n.value? := by
  have hinteger := n.integer?_ofJson
  cases n with
  | double x => exact Decimal.map_value_ofDouble? x
  | _ =>
    rw [Value.decimal?_of_integer? hinteger, Option.map_some, Decimal.value_ofInt]
    rfl

theorem Number.isNull_ofJson (n : Number) : (Value.ofJson (.number n)).isNull = false := by
  cases n with
  | natural n =>
    rw [Value.ofJson]
    split_ifs <;> rfl
  | _ => rfl

section Held

variable {r : RawNumber} {n : Number}

theorem integer?_eq_some (h : Json.integer? r.negative r.digits = some n) :
    n.integer? = some r.signed ∧ (r.negative = true → r.digits ≠ 0) ∧ r.digits < 2 ^ 64 := by
  have hword : Nat.pow 2 63 = 9223372036854775808 := rfl
  unfold Json.integer? at h
  unfold RawNumber.signed
  split_ifs at h with hnegative hrange hfits
  · cases h
    rw [if_pos hnegative, Number.integer?, Int64.toInt_ofInt_of_le (by omega) (by omega)]
    exact ⟨rfl, fun _ => by omega, by omega⟩
  · cases h
    have hlt : r.digits < 2 ^ 64 := of_decide_eq_true hfits
    rw [if_neg hnegative, Number.integer?, UInt64.toNat_ofNat_of_lt' hlt]
    exact ⟨rfl, fun h => absurd h hnegative, hlt⟩

/-- A number that is no integer of 64 bits is minus zero or beyond them. -/
theorem integer?_eq_none (h : Json.integer? r.negative r.digits = none) :
    (r.negative = true ∧ r.digits = 0) ∨ r.signed < -2 ^ 63 ∨ 2 ^ 64 ≤ r.signed := by
  have hword : Nat.pow 2 63 = 9223372036854775808 := rfl
  unfold Json.integer? at h
  unfold RawNumber.signed
  split_ifs at h with hnegative hrange hfits
  · rw [if_pos hnegative]
    rcases Nat.eq_zero_or_pos r.digits with hzero | hpos
    · exact .inl ⟨hnegative, hzero⟩
    · exact .inr (.inl (by omega))
  · have hge : ¬r.digits < 2 ^ 64 := of_decide_eq_false (Bool.not_eq_true _ ▸ hfits)
    rw [if_neg hnegative]
    exact .inr (.inr (by omega))

/-- A number is held as the integer that it is, or else as a double. -/
theorem Number.ofRaw?_cases (h : Number.ofRaw? r = some n) :
    (isInteger r = true ∧ Json.integer? r.negative r.digits = some n) ∨
      (∃ x, n = .double x) ∧ (isInteger r = true → Json.integer? r.negative r.digits = none) := by
  have hdouble : Number.ofDouble? r = some n → ∃ x, n = .double x := by
    intro h
    obtain ⟨x, -, hx⟩ := Option.map_eq_some_iff.1 h
    exact ⟨_, hx.symm⟩
  unfold Number.ofRaw? at h
  split_ifs at h with hinteger
  · have hdigits : (Digits.read? r.whole).getD 0 = r.digits := by
      have hfraction := (Bool.and_eq_true_iff.1 hinteger).1
      rw [RawNumber.digits, List.isEmpty_iff.1 hfraction, List.append_nil]
    rw [hdigits] at h
    cases hn : Json.integer? r.negative r.digits with
    | some m =>
      rw [hn] at h
      exact .inl ⟨hinteger, h⟩
    | none =>
      rw [hn] at h
      exact .inr ⟨hdouble h, fun _ => rfl⟩
  · exact .inr ⟨hdouble h, fun hc => absurd hc hinteger⟩

/-- An integer that fits is one double, whether it is read as an integer or as digits. -/
theorem ofInt_signed (hinteger : isInteger r = true) (hnegative : r.negative = true → r.digits ≠ 0)
    (hlt : r.digits < 2 ^ 64) : Double.ofInt r.signed = .ofWritten r.negative r.written := by
  have hcount : Digits.count r.digits ≤ 20 :=
    (Nat.length_toDigits_le_iff (by decide) (by decide)).2 (Nat.lt_trans hlt (by decide))
  have hratio : r.written.ratio? 400 = .ok (r.digits, 1) := by
    rw [written_eq_of_isInteger hinteger, Double.Written.ratio?]
    dsimp only
    split_ifs with hzero hlarge hsmall
    · rw [hzero]
    · omega
    · omega
    · rw [Int.toNat_zero, Int.neg_zero, Int.toNat_zero]
      exact congrArg (fun m => Except.ok (m, 1)) (Nat.mul_one r.digits)
  have hsign : decide (r.signed < 0) = r.negative := by
    unfold RawNumber.signed
    cases hn : r.negative with
    | true =>
      have hdigits := hnegative hn
      simp
      omega
    | false => simp
  have habs : r.signed.natAbs = r.digits := by
    unfold RawNumber.signed
    split_ifs
    · exact Int.natAbs_neg _
    · rfl
  rw [Double.ofWritten, hratio, Double.ofInt, hsign, habs]

/-- A number that is held as an integer is the number that is written. -/
theorem value?_eq_of_ne_double (hn : Number.ofRaw? r = some n)
    (h : ∀ x, n ≠ .double x) : n.value? = some r.value := by
  rcases Number.ofRaw?_cases hn with ⟨hinteger, hn⟩ | ⟨⟨x, rfl⟩, -⟩
  · have hsigned := (integer?_eq_some hn).1
    rw [value_eq_of_isInteger hinteger]
    cases n with
    | negative k => exact congrArg (Option.map Int.cast) hsigned
    | natural k => exact congrArg (Option.map Int.cast) hsigned
    | double x => cases hsigned
  · exact absurd rfl (h x)

end Held

end Json

end RecordFilter
