import Mathlib.Data.Int.Log
import Mathlib.Data.List.TakeWhile
import Mathlib.Tactic.SplitIfs
import RecordFilter.Number.Integer

/-!
# Digits

What reading digits gives, where a word of digits ends, how many digits a number has, and that a
number is what its digits are read as, with or without zeros before them.
-/

namespace RecordFilter

/-- A word ends where the first character follows that does not belong to it. -/
theorem takeWhile_append_eq {p : Char → Bool} {s t : List Char} (hs : ∀ c ∈ s, p c = true)
    (ht : ∀ c ∈ t.head?, p c = false) : (s ++ t).takeWhile p = s := by
  rw [List.takeWhile_append_of_pos hs]
  cases t with
  | nil => simp
  | cons c t => simp [ht c rfl]

namespace Digits

theorem exists_readOn?_eq_some {s : List Char} (h : ∀ c ∈ s, c.isDigit = true) (n : Nat) :
    ∃ m, readOn? n s = some m := by
  induction s generalizing n with
  | nil => exact ⟨n, rfl⟩
  | cons c s ih =>
    rw [readOn?, value?, if_pos (h c List.mem_cons_self)]
    exact ih (fun d hd => h d (List.mem_cons_of_mem c hd)) _

theorem isDigit_of_readOn? {s : List Char} {n m : Nat} (h : readOn? n s = some m) :
    ∀ c ∈ s, c.isDigit = true := by
  induction s generalizing n with
  | nil => exact fun c hc => absurd hc List.not_mem_nil
  | cons c s ih =>
    rw [readOn?, value?] at h
    split_ifs at h with hc
    exact List.forall_mem_cons.2 ⟨hc, ih h⟩

theorem read?_eq_readOn? {s : List Char} (h : s ≠ []) : read? s = readOn? 0 s := by
  cases s with
  | nil => exact absurd rfl h
  | cons c s => rfl

theorem split_append {ds t : List Char} (hds : ∀ c ∈ ds, c.isDigit = true)
    (ht : ∀ c ∈ t.head?, c.isDigit = false) : split (ds ++ t) = (ds, t) := by
  have hword := takeWhile_append_eq hds ht
  rw [split, hword, List.dropWhile_append_of_pos hds]
  cases t with
  | nil => rfl
  | cons c t => simp [ht c rfl]

/-! ## How many digits -/

theorem count_pos (n : Nat) : 0 < count n :=
  Nat.length_toDigits_pos

theorem lt_pow_count (n : Nat) : n < 10 ^ count n :=
  (Nat.length_toDigits_le_iff (by decide) (count_pos n)).1 le_rfl

theorem pow_count_le {n : Nat} (hn : n ≠ 0) : 10 ^ (count n - 1) ≤ n := by
  rcases Nat.eq_zero_or_pos (count n - 1) with hcount | hcount
  · rw [hcount]
    exact Nat.one_le_iff_ne_zero.2 hn
  · by_contra hlt
    have hle := (Nat.length_toDigits_le_iff (b := 10) (by decide) hcount).2 (not_le.1 hlt)
    have hpos := count_pos n
    unfold count ofNat at *
    omega

theorem lt_of_value? {c : Char} {d : Nat} (h : value? c = some d) : d < 10 := by
  rw [value?] at h
  split_ifs at h with hdigit
  have hrange : 48 ≤ c.toNat ∧ c.toNat ≤ 57 := Char.isDigit_iff_toNat.1 hdigit
  cases h
  show c.toNat - 48 < 10
  omega

theorem lt_of_readOn? {s : List Char} {n m : Nat} (h : readOn? n s = some m) :
    m < (n + 1) * 10 ^ s.length := by
  induction s generalizing n with
  | nil =>
    cases h
    rw [List.length_nil, Nat.pow_zero, Nat.mul_one]
    exact Nat.lt_succ_self m
  | cons c s ih =>
    rw [readOn?] at h
    cases hc : value? c with
    | none =>
      rw [hc] at h
      cases h
    | some d =>
      rw [hc] at h
      have hd := lt_of_value? hc
      calc m < (n * 10 + d + 1) * 10 ^ s.length := ih h
        _ ≤ ((n + 1) * 10) * 10 ^ s.length := Nat.mul_le_mul_right _ (by omega)
        _ = (n + 1) * 10 ^ (c :: s).length := by
          rw [List.length_cons, Nat.pow_succ', Nat.mul_assoc]

/-! ## Written numbers -/

theorem readOn?_eq_ofDigitChars {s : List Char} (h : ∀ c ∈ s, c.isDigit = true) (n : Nat) :
    readOn? n s = some (Nat.ofDigitChars 10 s n) := by
  induction s generalizing n with
  | nil => rfl
  | cons c s ih =>
    rw [readOn?, value?, if_pos (h c List.mem_cons_self), Nat.ofDigitChars_cons, Nat.mul_comm 10 n]
    exact ih (fun d hd => h d (List.mem_cons_of_mem c hd)) _

theorem isDigit_of_mem_ofNat {n : Nat} {c : Char} (h : c ∈ ofNat n) : c.isDigit = true :=
  Nat.isDigit_of_mem_toDigits (by decide) (by decide) h

theorem ofNat_ne_nil (n : Nat) : ofNat n ≠ [] :=
  List.ne_nil_of_length_pos (count_pos n)

theorem isDigit_of_mem_zeros_append {k n : Nat} {c : Char}
    (h : c ∈ List.replicate k '0' ++ ofNat n) : c.isDigit = true := by
  rcases List.mem_append.1 h with h | h
  · rw [List.eq_of_mem_replicate h]
    rfl
  · exact isDigit_of_mem_ofNat h

theorem isDigit_of_mem_append_zeros {k n : Nat} {c : Char}
    (h : c ∈ ofNat n ++ List.replicate k '0') : c.isDigit = true :=
  isDigit_of_mem_zeros_append (List.mem_append.2 (List.mem_append.1 h).symm)

theorem isDigit_of_mem_padded {width n : Nat} {c : Char} (h : c ∈ padded width n) :
    c.isDigit = true :=
  isDigit_of_mem_zeros_append h

theorem padded_ne_nil (width n : Nat) : padded width n ≠ [] :=
  List.append_ne_nil_of_right_ne_nil _ (ofNat_ne_nil n)

theorem length_padded {width n : Nat} (hwidth : 0 < width) (h : n < 10 ^ width) :
    (padded width n).length = width := by
  have hcount : count n ≤ width := (Nat.length_toDigits_le_iff (by decide) hwidth).2 h
  rw [padded, List.length_append, List.length_replicate, ← count]
  omega

/-- Zeros in front change nothing. -/
theorem readOn?_zeros (k : Nat) (s : List Char) :
    readOn? 0 (List.replicate k '0' ++ s) = readOn? 0 s := by
  induction k with
  | zero => rfl
  | succ k ih =>
    rw [List.replicate_succ, List.cons_append, readOn?]
    exact ih

theorem readOn?_ofNat (n : Nat) : readOn? 0 (ofNat n) = some n := by
  rw [readOn?_eq_ofDigitChars fun c => isDigit_of_mem_ofNat, ofNat,
    Nat.ofDigitChars_toDigits (by decide) (by decide)]

@[simp] theorem read?_ofNat (n : Nat) : read? (ofNat n) = some n := by
  rw [read?_eq_readOn? (ofNat_ne_nil n), readOn?_ofNat]

@[simp] theorem read?_padded (width n : Nat) : read? (padded width n) = some n := by
  rw [read?_eq_readOn? (padded_ne_nil width n), padded, readOn?_zeros, readOn?_ofNat]

/-- Zeros behind digits multiply by ten each. -/
theorem readOn?_append_zeros (n k : Nat) :
    readOn? 0 (ofNat n ++ List.replicate k '0') = some (n * 10 ^ k) := by
  have hzeros : ∀ m, Nat.ofDigitChars 10 (List.replicate k '0') m = m * 10 ^ k := by
    induction k with
    | zero => exact fun m => (Nat.mul_one m).symm
    | succ k ih =>
      intro m
      rw [List.replicate_succ, Nat.ofDigitChars_cons, ih, Nat.pow_succ']
      show (10 * m + 0) * 10 ^ k = m * (10 * 10 ^ k)
      rw [Nat.add_zero, Nat.mul_comm 10 m, Nat.mul_assoc]
  rw [readOn?_eq_ofDigitChars fun _ => isDigit_of_mem_append_zeros, Nat.ofDigitChars_append, hzeros, ofNat,
    Nat.ofDigitChars_toDigits (by decide) (by decide)]

/-- What consists of digits begins with no sign. -/
theorem exists_eq_cons {s : List Char} (hne : s ≠ []) (h : ∀ c ∈ s, c.isDigit = true) :
    ∃ c r, s = c :: r ∧ c ≠ '-' ∧ c ≠ '+' := by
  obtain ⟨c, r, rfl⟩ := List.exists_cons_of_ne_nil hne
  have hc := h c List.mem_cons_self
  refine ⟨c, r, rfl, ?_, ?_⟩ <;> rintro rfl <;> cases hc

theorem toList_toString (n : Nat) : (toString n).toList = ofNat n := by
  rw [Nat.toString_eq_repr, Nat.toList_repr, ofNat]

theorem toList_toString_int (n : Int) :
    (toString n).toList = if n < 0 then '-' :: ofNat n.natAbs else ofNat n.natAbs := by
  rw [Int.toString_eq_repr, Int.repr_eq_if]
  by_cases h : n < 0
  · rw [if_neg (not_le.2 h), if_pos h, String.toList_append, Nat.toList_repr, ofNat,
      show (-n).toNat = n.natAbs by omega]
    rfl
  · rw [if_pos (not_lt.1 h), if_neg h, Nat.toList_repr, ofNat, show n.toNat = n.natAbs by omega]

end Digits

theorem Integer.readOn_eq_ok {bound : Nat} {excess : IntegerFault} {s : List Char} {n m : Nat}
    (hn : n ≤ bound) (h : readOn bound excess n s = .ok m) :
    Digits.readOn? n s = some m ∧ m ≤ bound := by
  induction s generalizing n with
  | nil =>
    cases h
    exact ⟨rfl, hn⟩
  | cons c s ih =>
    rw [readOn] at h
    rw [Digits.readOn?]
    cases hc : Digits.value? c with
    | none =>
      rw [hc] at h
      cases h
    | some d =>
      rw [hc] at h
      dsimp only at h ⊢
      split_ifs at h with hexcess
      exact ih (not_lt.1 hexcess) h

end RecordFilter
