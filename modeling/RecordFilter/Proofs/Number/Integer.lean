import RecordFilter.Proofs.Number.Digits

/-!
# Integers are read back

Reading stays in the range as long as the number that is read does, so every integer of 64 bits is
what its own digits are read as.
-/

namespace RecordFilter.Integer

variable {s : List Char} {n m bound : Nat} {excess : IntegerFault}

/-- Reading on never makes a number smaller. -/
theorem le_of_readOn? (h : Digits.readOn? n s = some m) : n ≤ m := by
  induction s generalizing n with
  | nil =>
    cases h
    exact le_rfl
  | cons c s ih =>
    rw [Digits.readOn?] at h
    cases hc : Digits.value? c with
    | none =>
      rw [hc] at h
      cases h
    | some d =>
      rw [hc] at h
      have hle := ih h
      omega

theorem readOn_of_readOn? (h : Digits.readOn? n s = some m) (hm : m ≤ bound) :
    readOn bound excess n s = .ok m := by
  induction s generalizing n with
  | nil =>
    cases h
    rfl
  | cons c s ih =>
    rw [Digits.readOn?] at h
    rw [readOn]
    cases hc : Digits.value? c with
    | none =>
      rw [hc] at h
      cases h
    | some d =>
      rw [hc] at h
      have hle := (le_of_readOn? h).trans hm
      show (if bound < n * 10 + d then _ else readOn bound excess (n * 10 + d) s) = _
      rw [if_neg (not_lt.2 hle)]
      exact ih h

theorem readMagnitude_ofNat (h : n ≤ bound) :
    readMagnitude bound excess (Digits.ofNat n) = .ok n := by
  have hread : readOn bound excess 0 (Digits.ofNat n) = .ok n :=
    readOn_of_readOn? (Digits.readOn?_ofNat n) h
  cases hs : Digits.ofNat n with
  | nil => exact absurd hs (Digits.ofNat_ne_nil n)
  | cons c r =>
    rw [hs] at hread
    exact hread

theorem readSigned_toString {bits : Nat} {n : Int} (hlow : -((2 ^ bits : Nat) : Int) ≤ n)
    (hhigh : n < (2 ^ bits : Nat)) : readSigned bits (toString n).toList = .ok n := by
  rw [Digits.toList_toString_int]
  split_ifs with hneg
  · have hread : readMagnitude (Nat.pow 2 bits) .tooSmall (Digits.ofNat n.natAbs) = .ok n.natAbs :=
      readMagnitude_ofNat (by rw [Nat.pow_eq]; omega)
    rw [readSigned, hread]
    show Except.ok (-(n.natAbs : Int)) = .ok n
    rw [show -(n.natAbs : Int) = n by omega]
  · have hread :
        readMagnitude (Nat.pow 2 bits - 1) .tooLarge (Digits.ofNat n.natAbs) = .ok n.natAbs :=
      readMagnitude_ofNat (by rw [Nat.pow_eq]; omega)
    obtain ⟨c, r, hs, hminus, hplus⟩ := Digits.exists_eq_cons
      (Digits.ofNat_ne_nil n.natAbs) fun c => Digits.isDigit_of_mem_ofNat
    rw [hs] at hread ⊢
    unfold readSigned
    split
    · contradiction
    · exact absurd (List.cons.inj ‹_›).1 hminus
    · exact absurd (List.cons.inj ‹_›).1 hplus
    · rw [hread]
      show Except.ok (n.natAbs : Int) = .ok n
      rw [show (n.natAbs : Int) = n by omega]

theorem readUnsigned_toString {bits n : Nat} (h : n < 2 ^ bits) :
    readUnsigned bits (toString n).toList = .ok n := by
  have hread : readMagnitude (Nat.pow 2 bits - 1) .tooLarge (Digits.ofNat n) = .ok n :=
    readMagnitude_ofNat (by rw [Nat.pow_eq]; omega)
  obtain ⟨c, r, hs, -, hplus⟩ := Digits.exists_eq_cons (Digits.ofNat_ne_nil n)
    fun c => Digits.isDigit_of_mem_ofNat
  rw [Digits.toList_toString]
  rw [hs] at hread ⊢
  unfold readUnsigned
  split
  · contradiction
  · exact absurd (List.cons.inj ‹_›).1 hplus
  · exact hread

theorem readInt64_toString (n : Int64) : readInt64 (toString n.toInt).toList = .ok n := by
  have hread : readSigned 63 (toString n.toInt).toList = .ok n.toInt :=
    readSigned_toString n.le_toInt n.toInt_lt
  rw [readInt64, hread]
  exact congrArg Except.ok n.ofInt_toInt

theorem readUInt64_toString (n : UInt64) : readUInt64 (toString n.toNat).toList = .ok n := by
  have hread : readUnsigned 64 (toString n.toNat).toList = .ok n.toNat :=
    readUnsigned_toString n.toNat_lt
  rw [readUInt64, hread]
  exact congrArg Except.ok n.ofNat_toNat

end RecordFilter.Integer
