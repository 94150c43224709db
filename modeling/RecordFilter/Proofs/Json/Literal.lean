import RecordFilter.Proofs.Number.Decimal

/-!
# Numerals as literals

What a filter reads the text of a number of JSON as. The reader of doubles takes the digits, with
the power of ten that is left of point and exponent; the reader of decimals takes the very number;
the readers of integers take no fraction and no exponent.
-/

namespace RecordFilter

namespace Json

/-- The digits of a number, point and exponent left out. -/
def RawNumber.digits (r : RawNumber) : Nat :=
  (Digits.read? (r.whole ++ r.fraction)).getD 0

/-- The digits with the sign of the number. -/
def RawNumber.signed (r : RawNumber) : Int :=
  if r.negative then -(r.digits : Int) else r.digits

/-- The number without its sign, as digits and a power of ten. -/
def RawNumber.written (r : RawNumber) : Double.Written :=
  ⟨r.digits, exponentOf r - r.fraction.length⟩

/-- The number that is written. -/
def RawNumber.value (r : RawNumber) : ℚ :=
  r.signed * 10 ^ r.written.exponent

/-! ## Parts of a numeral -/

theorem IsDigits.exists_cons {s : List Char} (h : IsDigits s) :
    ∃ c t, s = c :: t ∧ c.isDigit = true := by
  obtain ⟨c, t, rfl⟩ := List.exists_cons_of_ne_nil h.1
  exact ⟨c, t, rfl, h.2 c List.mem_cons_self⟩

theorem IsDigits.exists_read? {s : List Char} (h : IsDigits s) : ∃ n, Digits.read? s = some n := by
  rw [Digits.read?_eq_readOn? h.1]
  exact Digits.exists_readOn?_eq_some h.2 0

theorem splitSign_of_isDigit {c : Char} (hc : c.isDigit = true) (s : List Char) :
    Double.splitSign (c :: s) = (false, c :: s) := by
  unfold Double.splitSign
  split
  · rename_i h
    cases h
    exact absurd hc (by decide)
  · rename_i h
    cases h
    exact absurd hc (by decide)
  · rfl

theorem WritesSign.splitSign_eq {negative : Bool} {sign s : List Char}
    (h : WritesSign negative sign) {c : Char} (hc : c.isDigit = true) :
    Double.splitSign (sign ++ c :: s) = (negative, c :: s) := by
  cases h with
  | absent => exact splitSign_of_isDigit hc s
  | plus => rfl
  | minus => rfl

theorem WritesFraction.isDigit {ds s : List Char} (h : WritesFraction ds s) :
    ∀ c ∈ ds, c.isDigit = true := by
  cases h with
  | absent => exact fun c hc => absurd hc List.not_mem_nil
  | point h => exact h.2

theorem WritesMagnitude.isDigits {r : RawNumber} {s : List Char} (h : WritesMagnitude r s) :
    IsDigits (r.whole ++ r.fraction) := by
  obtain ⟨f, e, hf, -, -⟩ := h.parts
  exact ⟨List.append_ne_nil_of_left_ne_nil h.whole.1 _,
    List.forall_mem_append.2 ⟨h.whole.2, hf.isDigit⟩⟩

theorem WritesMagnitude.exists_cons {r : RawNumber} {s : List Char} (h : WritesMagnitude r s) :
    ∃ c t, s = c :: t ∧ c.isDigit = true := by
  obtain ⟨f, e, -, -, rfl⟩ := h.parts
  obtain ⟨c, t, ht, hc⟩ := h.whole.exists_cons
  exact ⟨c, t ++ f ++ e, by rw [ht]; rfl, hc⟩

theorem WritesMagnitude.read?_eq {r : RawNumber} {s : List Char} (h : WritesMagnitude r s) :
    Digits.read? (r.whole ++ r.fraction) = some r.digits := by
  obtain ⟨n, hn⟩ := h.isDigits.exists_read?
  rw [RawNumber.digits, hn]
  rfl

theorem Writes.exists_sign {r : RawNumber} {s : List Char} (h : Writes r s) :
    ∃ sign t, WritesSign r.negative sign ∧ WritesMagnitude r t ∧ s = sign ++ t := by
  cases h with
  | plain hsign h =>
    rw [hsign]
    exact ⟨[], s, .absent, h, rfl⟩
  | minus hsign h =>
    rw [hsign]
    exact ⟨['-'], _, .minus, h, rfl⟩

theorem Writes.ne_nil {r : RawNumber} {s : List Char} (h : Writes r s) : s ≠ [] := by
  cases h with
  | plain hsign h =>
    obtain ⟨c, t, rfl, -⟩ := h.exists_cons
    exact List.cons_ne_nil c t
  | minus hsign h => exact List.cons_ne_nil _ _

theorem WritesExponent.head {e : Option (Bool × List Char)} {s : List Char}
    (h : WritesExponent e s) : ∀ c ∈ s.head?, c = 'e' ∨ c = 'E' := by
  cases h with
  | absent => exact fun c hc => nomatch hc
  | letter hc hsign h =>
    intro d hd
    cases hd
    exact hc

theorem WritesExponent.not_isDigit_head {e : Option (Bool × List Char)} {s : List Char}
    (h : WritesExponent e s) : ∀ c ∈ s.head?, c.isDigit = false := by
  intro c hc
  rcases h.head c hc with rfl | rfl <;> rfl

/-- The sign and the digits of an exponent. -/
theorem WritesSign.read?_splitSign {r : RawNumber} {negative : Bool} {sign ds : List Char}
    (h : WritesSign negative sign) (hds : IsDigits ds) (hr : r.exponent = some (negative, ds)) :
    (Digits.read? (Double.splitSign (sign ++ ds)).2).map
        (fun n => if (Double.splitSign (sign ++ ds)).1 then -(n : Int) else n) =
      some (exponentOf r) := by
  obtain ⟨n, hn⟩ := hds.exists_read?
  obtain ⟨c, t, rfl, hc⟩ := hds.exists_cons
  rw [h.splitSign_eq hc, exponentOf, hr]
  dsimp only
  rw [hn]
  rfl

/-! ## Doubles -/

theorem readExponent?_eq {r : RawNumber} {e : List Char} (h : WritesExponent r.exponent e) :
    Double.readExponent? e = some (exponentOf r) := by
  generalize hr : r.exponent = x at h
  cases h with
  | absent => rw [exponentOf, hr, Double.readExponent?]
  | letter hc hsign hds =>
    have hread := hsign.read?_splitSign hds hr
    rcases hc with rfl | rfl <;> exact hread

theorem readNumber?_eq {r : RawNumber} {s : List Char} (h : WritesMagnitude r s) :
    Double.readNumber? s = some r.written := by
  have hread := h.read?_eq
  obtain ⟨f, e, hf, he, rfl⟩ := h.parts
  have hexponent := readExponent?_eq he
  have hwritten : r.written = ⟨r.digits, exponentOf r - r.fraction.length⟩ := rfl
  generalize r.fraction = ds at hf hread hwritten
  cases hf with
  | absent =>
    rw [List.append_nil] at hread ⊢
    unfold Double.readNumber?
    rw [Digits.split_append h.whole.2 he.not_isDigit_head]
    generalize r.exponent = x at he
    cases he with
    | absent => simp [hread, hexponent, hwritten]
    | letter hc hsign hds => rcases hc with rfl | rfl <;> simp [hread, hexponent, hwritten]
  | point hds =>
    have hsplit := Digits.split_append h.whole.2 (t := '.' :: (ds ++ e)) fun c hc => by
      cases hc
      rfl
    have hpart := Digits.split_append hds.2 he.not_isDigit_head
    rw [List.append_assoc, List.cons_append]
    simp [Double.readNumber?, hsplit, hpart, hread, hexponent, hwritten]

theorem toLower_of_isDigit {c : Char} (hc : c.isDigit = true) : c.toLower = c := by
  have hle : c.val ≤ '9'.val := of_decide_eq_true (Bool.and_eq_true_iff.1 hc).2
  exact dif_neg fun h => absurd (UInt32.le_trans h.1 hle) (by decide)

theorem cons_ne_of_isDigit {c : Char} (hc : c.isDigit = true) {word : List Char}
    (hword : word.head?.any Char.isDigit = false) (s : List Char) : c :: s ≠ word := by
  rintro rfl
  rw [List.head?_cons, Option.any_some, hc] at hword
  cases hword

/-- A text that begins with a digit is none of the words for infinity and for no number. -/
theorem readBody?_eq {r : RawNumber} {s : List Char} (h : WritesMagnitude r s) :
    Double.readBody? s = some (.number r.written) := by
  have hnumber := readNumber?_eq h
  obtain ⟨c, t, rfl, hc⟩ := h.exists_cons
  have hword : ∀ word : List Char, word.head?.any Char.isDigit = false →
      (c :: t).map Char.toLower ≠ word := by
    intro word hword
    rw [List.map_cons, toLower_of_isDigit hc]
    exact cons_ne_of_isDigit hc hword _
  simp only [Double.readBody?, hword "nan".toList rfl, hword "inf".toList rfl,
    hword "infinity".toList rfl, hnumber]
  rfl

/-- The reader of doubles gives the double nearest to the number. -/
theorem Writes.read_eq {r : RawNumber} {s : List Char} (h : Writes r s) :
    Double.read s = .ok (.ofWritten r.negative r.written) := by
  obtain ⟨sign, t, hsign, ht, rfl⟩ := h.exists_sign
  have hbody := readBody?_eq ht
  obtain ⟨c, t, rfl, hc⟩ := ht.exists_cons
  have hsplit := hsign.splitSign_eq (s := t) hc
  simp [Double.read, Double.readWith, hsplit, hbody]

/-! ## Decimals -/

theorem readDigits?_eq {r : RawNumber} {s : List Char} (h : WritesMagnitude r s) :
    Decimal.readDigits? (r.whole ++ r.fraction) = some r.digits :=
  (Decimal.readDigits?_eq h.isDigits.1 h.isDigits.2).trans h.read?_eq

theorem WritesSign.readInteger?_eq {r : RawNumber} {s sign : List Char}
    (hsign : WritesSign r.negative sign) (h : WritesMagnitude r s) :
    Decimal.readInteger? (sign ++ (r.whole ++ r.fraction)) = some r.signed := by
  have hread := readDigits?_eq h
  have hdigits := h.isDigits
  rw [RawNumber.signed]
  generalize r.whole ++ r.fraction = ds at hread hdigits
  generalize r.negative = negative at hsign
  cases hsign with
  | absent =>
    rw [List.nil_append]
    unfold Decimal.readInteger?
    split
    · exact absurd (hdigits.2 '-' List.mem_cons_self) (by decide)
    · exact absurd (hdigits.2 '+' List.mem_cons_self) (by decide)
    · rw [hread]
      rfl
  | plus => exact congrArg (Option.map Int.ofNat) hread
  | minus =>
    rw [if_pos rfl]
    show (Decimal.readDigits? ds).map (fun n => -(n : Int)) = _
    rw [hread]
    rfl

/-- The point and the digits behind it, taken apart again. -/
theorem WritesFraction.lead_trail {ds f : List Char} (h : WritesFraction ds f) {lead : List Char}
    (hlead : ∀ c ∈ lead, c ≠ '.') :
    (lead ++ f).takeWhile (· ≠ '.') = lead ∧ (lead ++ f).drop (lead.length + 1) = ds := by
  refine ⟨takeWhile_append_eq (fun c hc => decide_eq_true (hlead c hc)) ?_, ?_⟩
  · cases h with
    | absent => exact fun c hc => nomatch hc
    | point h =>
      intro c hc
      cases hc
      rfl
  · cases h with
    | absent => simp
    | point h => simp

theorem ne_of_isDigit {c d : Char} (hc : c.isDigit = true) (hd : d.isDigit = false) : c ≠ d := by
  rintro rfl
  rw [hc] at hd
  cases hd

/-- The characters before an exponent. -/
theorem mantissa_ne {negative : Bool} {sign : List Char} (hsign : WritesSign negative sign)
    {whole ds f : List Char} (hwhole : IsDigits whole) (hf : WritesFraction ds f) :
    (∀ c ∈ sign ++ whole, c ≠ '.') ∧ ∀ c ∈ sign ++ whole ++ f, (c ≠ 'e' && c ≠ 'E') = true := by
  have hdigit : ∀ c : Char, c.isDigit = true → (c ≠ 'e' && c ≠ 'E') = true := by
    intro c hc
    rw [Bool.and_eq_true]
    exact ⟨decide_eq_true (ne_of_isDigit hc rfl), decide_eq_true (ne_of_isDigit hc rfl)⟩
  simp only [List.forall_mem_append]
  refine ⟨⟨?_, fun c hc => ne_of_isDigit (hwhole.2 c hc) rfl⟩,
    ⟨?_, fun c hc => hdigit c (hwhole.2 c hc)⟩, ?_⟩
  · intro c hc
    rcases hsign.mem hc with rfl | rfl <;> decide
  · intro c hc
    rcases hsign.mem hc with rfl | rfl <;> rfl
  · cases hf with
    | absent => exact fun c hc => absurd hc List.not_mem_nil
    | point h => exact List.forall_mem_cons.2 ⟨rfl, fun c hc => hdigit c (h.2 c hc)⟩

/-- The exponent that the reader of decimals finds behind the digits. -/
def ReadsExponent (e : List Char) (exponent : Int) : Prop :=
  (e = [] ∧ exponent = 0) ∨ ∃ c q, e = c :: q ∧ Decimal.readExponent? q = some exponent

/-- What the reader of decimals has read, if it gives one. The bound of the scale is never unfolded:
it is too large for that. -/
theorem decimal_of_read? {s base lead trail : List Char} {d : Decimal}
    (h : Decimal.read? s = some d) (hbase : s.takeWhile (fun c => c ≠ 'e' && c ≠ 'E') = base)
    (hlead : base.takeWhile (· ≠ '.') = lead) (htrail : base.drop (lead.length + 1) = trail) :
    ∃ exponent, ReadsExponent (s.drop base.length) exponent ∧
      Decimal.readInteger? (lead ++ trail) = some d.unscaled ∧
      d.scale = (trail.filter (· ≠ '_')).length - exponent := by
  unfold Decimal.read? at h
  dsimp only at h
  rw [hbase, hlead, htrail] at h
  split at h
  · rename_i he
    obtain ⟨exponent, hexponent, h⟩ := Option.bind_eq_some_iff.1 h
    obtain ⟨unscaled, hunscaled, h⟩ := Option.bind_eq_some_iff.1 h
    cases hexponent
    split_ifs at h
    cases h
    exact ⟨0, .inl ⟨he, rfl⟩, hunscaled, rfl⟩
  · rename_i c q he
    obtain ⟨exponent, hexponent, h⟩ := Option.bind_eq_some_iff.1 h
    obtain ⟨unscaled, hunscaled, h⟩ := Option.bind_eq_some_iff.1 h
    split_ifs at h
    cases h
    exact ⟨exponent, .inr ⟨c, q, he, hexponent⟩, hunscaled, rfl⟩

theorem WritesExponent.eq_exponentOf {r : RawNumber} {e : List Char}
    (h : WritesExponent r.exponent e) {exponent : Int} (he : ReadsExponent e exponent) :
    exponent = exponentOf r := by
  generalize hr : r.exponent = x at h
  cases h with
  | absent =>
    rcases he with ⟨-, rfl⟩ | ⟨c, q, he, -⟩
    · rw [exponentOf, hr]
    · cases he
  | letter hc hsign hds =>
    rcases he with ⟨he, -⟩ | ⟨c, q, he, hq⟩
    · cases he
    · cases he
      have hread : Decimal.readExponent? _ = _ := hsign.read?_splitSign hds hr
      rw [hread] at hq
      exact (Option.some.inj hq).symm

/-- The reader of decimals gives the number itself, if its scale fits. -/
theorem Writes.decimal_read?_eq_some {r : RawNumber} {s : List Char} {d : Decimal} (h : Writes r s)
    (hd : Decimal.read? s = some d) : d = ⟨r.signed, r.fraction.length - exponentOf r⟩ := by
  obtain ⟨sign, t, hsign, ht, rfl⟩ := h.exists_sign
  have hinteger := hsign.readInteger?_eq ht
  obtain ⟨f, e, hf, he, rfl⟩ := ht.parts
  obtain ⟨hpoint, hletter⟩ := mantissa_ne hsign ht.whole hf
  rw [← List.append_assoc, ← List.append_assoc] at hd
  have hbase : (sign ++ r.whole ++ f ++ e).takeWhile (fun c => c ≠ 'e' && c ≠ 'E') =
      sign ++ r.whole ++ f := by
    refine takeWhile_append_eq hletter fun c hc => ?_
    rcases he.head c hc with rfl | rfl <;> rfl
  obtain ⟨hlead, htrail⟩ := hf.lead_trail hpoint
  obtain ⟨exponent, hexponent, hunscaled, hscale⟩ := decimal_of_read? hd hbase hlead htrail
  rw [List.drop_left] at hexponent
  rw [List.append_assoc, hinteger] at hunscaled
  rw [Decimal.filter_of_isDigit hf.isDigit, he.eq_exponentOf hexponent] at hscale
  cases d
  cases hunscaled
  cases hscale
  rfl

/-! ## Integers -/

theorem written_eq_of_isInteger {r : RawNumber} (h : isInteger r = true) :
    r.written = ⟨r.digits, 0⟩ := by
  obtain ⟨hfraction, hexponent⟩ := Bool.and_eq_true_iff.1 h
  rw [RawNumber.written, exponentOf, Option.isNone_iff_eq_none.1 hexponent,
    List.isEmpty_iff.1 hfraction]
  rfl

theorem value_eq_of_isInteger {r : RawNumber} (h : isInteger r = true) : r.value = r.signed := by
  rw [RawNumber.value, written_eq_of_isInteger h, zpow_zero, mul_one]

/-- The readers of integers take no point and no letter. -/
theorem WritesMagnitude.readMagnitude_eq_ok {r : RawNumber} {s : List Char}
    (h : WritesMagnitude r s) {bound : Nat} {excess : IntegerFault} {m : Nat}
    (hm : Integer.readMagnitude bound excess s = .ok m) :
    isInteger r = true ∧ m = r.digits ∧ m ≤ bound := by
  have hread := h.read?_eq
  obtain ⟨f, e, hf, he, rfl⟩ := h.parts
  have hon : Integer.readOn bound excess 0 (r.whole ++ f ++ e) = .ok m := by
    obtain ⟨c, t, ht, -⟩ := h.exists_cons
    rw [ht] at hm ⊢
    exact hm
  obtain ⟨hm, hbound⟩ := Integer.readOn_eq_ok (Nat.zero_le bound) hon
  have hdigits := Digits.isDigit_of_readOn? hm
  rw [List.forall_mem_append, List.forall_mem_append] at hdigits
  unfold isInteger
  generalize r.fraction = ds at hf hread ⊢
  generalize r.exponent = x at he ⊢
  cases he with
  | letter hc hsign hds =>
    have hletter := hdigits.2 _ List.mem_cons_self
    rcases hc with rfl | rfl <;> exact absurd hletter (by decide)
  | absent =>
    cases hf with
    | point hds => exact absurd (hdigits.1.2 '.' List.mem_cons_self) (by decide)
    | absent =>
      rw [List.append_nil, List.append_nil] at hm
      rw [List.append_nil, Digits.read?_eq_readOn? h.whole.1, hm] at hread
      exact ⟨rfl, Option.some.inj hread, hbound⟩

theorem readSigned_of_isDigit {c : Char} (hc : c.isDigit = true) {bits : Nat} {s : List Char}
    {i : Int} (h : Integer.readSigned bits (c :: s) = .ok i) :
    ∃ m : Nat, Integer.readMagnitude (Nat.pow 2 bits - 1) .tooLarge (c :: s) = .ok m ∧ i = m := by
  unfold Integer.readSigned at h
  split at h
  · cases h
  · rename_i hs
    cases hs
    exact absurd hc (by decide)
  · rename_i hs
    cases hs
    exact absurd hc (by decide)
  · cases hm : Integer.readMagnitude (Nat.pow 2 bits - 1) .tooLarge (c :: s) with
    | error fault =>
      rw [hm] at h
      cases h
    | ok m =>
      rw [hm] at h
      cases h
      exact ⟨m, rfl, rfl⟩

theorem readSigned_minus {bits : Nat} {s : List Char} {i : Int}
    (h : Integer.readSigned bits ('-' :: s) = .ok i) :
    ∃ m : Nat, Integer.readMagnitude (Nat.pow 2 bits) .tooSmall s = .ok m ∧ i = -m := by
  rw [Integer.readSigned] at h
  cases hm : Integer.readMagnitude (Nat.pow 2 bits) .tooSmall s with
  | error fault =>
    rw [hm] at h
    cases h
  | ok m =>
    rw [hm] at h
    cases h
    exact ⟨m, rfl, rfl⟩

theorem readUnsigned_of_isDigit {c : Char} (hc : c.isDigit = true) (bits : Nat) (s : List Char) :
    Integer.readUnsigned bits (c :: s) =
      Integer.readMagnitude (Nat.pow 2 bits - 1) .tooLarge (c :: s) := by
  unfold Integer.readUnsigned
  split
  · rename_i h
    cases h
  · rename_i h
    cases h
    exact absurd hc (by decide)
  · rfl

/-- What is read as a signed integer is the number, which has neither fraction nor exponent. -/
theorem Writes.readSigned_eq_ok {r : RawNumber} {s : List Char} (h : Writes r s) {bits : Nat}
    {i : Int} (hi : Integer.readSigned bits s = .ok i) :
    isInteger r = true ∧ i = r.signed ∧ -2 ^ bits ≤ i ∧ i < 2 ^ bits := by
  have hpow : ((Nat.pow 2 bits : Nat) : Int) = 2 ^ bits := Nat.cast_pow 2 bits
  have hpos : 0 < Nat.pow 2 bits := Nat.two_pow_pos bits
  rw [RawNumber.signed, ← hpow]
  cases h with
  | plain hsign h =>
    obtain ⟨c, t, rfl, hc⟩ := h.exists_cons
    obtain ⟨m, hm, rfl⟩ := readSigned_of_isDigit hc hi
    obtain ⟨hinteger, rfl, hbound⟩ := h.readMagnitude_eq_ok hm
    rw [hsign, if_neg Bool.false_ne_true]
    exact ⟨hinteger, rfl, by omega, by omega⟩
  | minus hsign h =>
    obtain ⟨m, hm, rfl⟩ := readSigned_minus hi
    obtain ⟨hinteger, rfl, hbound⟩ := h.readMagnitude_eq_ok hm
    rw [hsign, if_pos rfl]
    exact ⟨hinteger, rfl, by omega, by omega⟩

/-- What is read as an unsigned integer is the number, which has no sign either. -/
theorem Writes.readUnsigned_eq_ok {r : RawNumber} {s : List Char} (h : Writes r s) {bits m : Nat}
    (hm : Integer.readUnsigned bits s = .ok m) :
    isInteger r = true ∧ r.negative = false ∧ m = r.digits ∧ m < 2 ^ bits := by
  have hpos : 0 < Nat.pow 2 bits := Nat.two_pow_pos bits
  cases h with
  | plain hsign h =>
    obtain ⟨c, t, rfl, hc⟩ := h.exists_cons
    rw [readUnsigned_of_isDigit hc] at hm
    obtain ⟨hinteger, hdigits, hbound⟩ := h.readMagnitude_eq_ok hm
    exact ⟨hinteger, hsign, hdigits, Nat.lt_of_le_pred hpos hbound⟩
  | minus hsign h => cases hm

end Json

end RecordFilter
