import RecordFilter.Proofs.Json.Numeral
import RecordFilter.Proofs.Number.Exact

/-!
# Decimals are read back

A decimal is printed as digits with a point among them or without one, and with an exponent or
without one. Reading undoes each of these forms, and what it gives is the same number
(`exists_read?_print`). The scale may be another one: zeros written out behind an integer become
part of it, and zero has no scale left.
-/

namespace RecordFilter.Decimal

/-! ## The forms of a decimal -/

/-- The text is made of the characters, with a point in front of the last few or without one. -/
inductive Pointed (ds : List Char) : Nat → List Char → Prop
  | whole : Pointed ds 0 ds
  | point {lead trail : List Char} (h : ds = lead ++ trail) :
    Pointed ds trail.length (lead ++ '.' :: trail)

theorem Pointed.prepend {ds s : List Char} {places : Nat} (h : Pointed ds places s)
    (t : List Char) : Pointed (t ++ ds) places (t ++ s) := by
  cases h with
  | whole => exact .whole
  | @point lead trail h =>
    rw [h, ← List.append_assoc, ← List.append_assoc]
    exact .point rfl

theorem Pointed.mem {ds s : List Char} {places : Nat} (h : Pointed ds places s) {c : Char}
    (hc : c ∈ s) : c ∈ ds ∨ c = '.' := by
  cases h with
  | whole => exact .inl hc
  | point h =>
    subst h
    simp only [List.mem_append, List.mem_cons] at hc ⊢
    tauto

/-- Zeros are put in front of the digits when the point needs them. -/
theorem exists_pointed_withPoint (ds : List Char) (places : Nat) :
    ∃ k, Pointed (List.replicate k '0' ++ ds) places (withPoint ds places) := by
  by_cases hzero : places = 0
  · refine ⟨0, ?_⟩
    rw [withPoint, if_pos hzero, hzero]
    exact .whole
  · refine ⟨places + 1 - ds.length, ?_⟩
    rw [withPoint, if_neg hzero]
    generalize hzs : List.replicate (places + 1 - ds.length) '0' ++ ds = zs
    have hlength : places < zs.length := by
      rw [← hzs, List.length_append, List.length_replicate]
      omega
    have hplaces : (zs.drop (zs.length - places)).length = places := by
      rw [List.length_drop]
      omega
    have hpointed := Pointed.point (List.take_append_drop (zs.length - places) zs).symm
    rwa [hplaces] at hpointed

/-- The texts of an exponent, behind the letter or with nothing written. -/
inductive WritesExponent : Int → List Char → Prop
  | absent : WritesExponent 0 []
  | letter {c : Char} (hc : c = 'e' ∨ c = 'E') {s : List Char} {e : Int}
    (h : readExponent? s = some e) : WritesExponent e (c :: s)

/-! ## Reading the forms -/

section Read

variable {ds base etext : List Char} {places : Nat} {n e : Int}

theorem readExponent?_toString (e : Int) : readExponent? (toString e).toList = some e := by
  rw [Digits.toList_toString_int]
  split_ifs with hneg
  · rw [readExponent?, Double.splitSign]
    dsimp only
    rw [Digits.read?_ofNat]
    show some (-(e.natAbs : Int)) = some e
    rw [show -(e.natAbs : Int) = e by omega]
  · obtain ⟨c, r, hs, hminus, hplus⟩ := Digits.exists_eq_cons
      (Digits.ofNat_ne_nil e.natAbs) fun c => Digits.isDigit_of_mem_ofNat
    have hsplit : Double.splitSign (c :: r) = (false, c :: r) := by
      unfold Double.splitSign
      split
      · exact absurd (List.cons.inj ‹_›).1 hminus
      · exact absurd (List.cons.inj ‹_›).1 hplus
      · rfl
    rw [readExponent?, hs, hsplit, ← hs]
    dsimp only
    rw [Digits.read?_ofNat]
    show some (e.natAbs : Int) = some e
    rw [show (e.natAbs : Int) = e by omega]

theorem readExponent?_plus (h : 0 ≤ e) : readExponent? ('+' :: (toString e).toList) = some e := by
  rw [Digits.toList_toString_int, if_neg (not_lt.2 h), readExponent?, Double.splitSign]
  dsimp only
  rw [Digits.read?_ofNat]
  show some (e.natAbs : Int) = some e
  rw [show (e.natAbs : Int) = e by omega]

theorem filter_of_isDigit (hds : ∀ c ∈ ds, c.isDigit = true) : ds.filter (· ≠ '_') = ds := by
  refine List.filter_eq_self.2 fun c hc => decide_eq_true ?_
  rintro rfl
  exact absurd (hds _ hc) (by decide)

theorem readDigits?_eq (hne : ds ≠ []) (hds : ∀ c ∈ ds, c.isDigit = true) :
    readDigits? ds = Digits.read? ds := by
  rw [Digits.read?_eq_readOn? hne]
  unfold readDigits?
  split
  · exact absurd rfl hne
  · exact absurd (hds '_' List.mem_cons_self) (by decide)
  · rw [filter_of_isDigit hds]

/-- The sign that a number is written with. -/
def sign (n : Int) : List Char :=
  if n < 0 then ['-'] else []

/-- Digits behind the sign of a number, or behind no sign. -/
theorem readInteger?_signed {m : Nat} (hne : ds ≠ []) (hds : ∀ c ∈ ds, c.isDigit = true)
    (hread : Digits.readOn? 0 ds = some m) (hm : n.natAbs = m) :
    readInteger? (sign n ++ ds) = some n := by
  unfold sign
  split_ifs with hneg
  · rw [List.singleton_append, readInteger?, readDigits?_eq hne hds, Digits.read?_eq_readOn? hne,
      hread]
    show some (-(m : Int)) = some n
    rw [show -(m : Int) = n by omega]
  · obtain ⟨c, r, rfl, hminus, hplus⟩ := Digits.exists_eq_cons hne hds
    rw [List.nil_append]
    unfold readInteger?
    split
    · exact absurd (List.cons.inj ‹_›).1 hminus
    · exact absurd (List.cons.inj ‹_›).1 hplus
    · rw [readDigits?_eq hne hds, Digits.read?_eq_readOn? hne, hread]
      show some (m : Int) = some n
      rw [show (m : Int) = n by omega]

/-- The characters of a number without its point and its exponent. -/
def isPlain (c : Char) : Bool :=
  c.isDigit || c == '-'

theorem ne_of_isPlain {c : Char} (h : isPlain c = true) :
    c ≠ '.' ∧ c ≠ 'e' ∧ c ≠ 'E' ∧ c ≠ '_' := by
  refine ⟨?_, ?_, ?_, ?_⟩ <;> rintro rfl <;> exact absurd h (by decide)

theorem isPlain_of_mem_sign {c : Char} (h : c ∈ sign n) : isPlain c = true := by
  unfold sign at h
  split_ifs at h
  · rw [List.mem_singleton.1 h]
    rfl
  · cases h

theorem isPlain_of_isDigit {c : Char} (h : c.isDigit = true) : isPlain c = true := by
  rw [isPlain, h, Bool.true_or]

/-- The point is found again, and taken out it leaves the characters. -/
theorem Pointed.exists_split (hds : ∀ c ∈ ds, isPlain c = true) (h : Pointed ds places base) :
    ∃ trail, base.takeWhile (fun c => decide (c ≠ '.')) ++ trail = ds ∧
      base.drop ((base.takeWhile fun c => decide (c ≠ '.')).length + 1) = trail ∧
      trail.length = places := by
  have hpoint : ∀ c ∈ ds, decide (c ≠ '.') = true :=
    fun c hc => decide_eq_true (ne_of_isPlain (hds c hc)).1
  cases h with
  | whole =>
    refine ⟨[], ?_, ?_, rfl⟩
    · rw [List.append_nil, List.takeWhile_eq_self_iff.2 hpoint]
    · rw [List.takeWhile_eq_self_iff.2 hpoint, List.drop_eq_nil_iff]
      exact Nat.le_succ _
  | @point lead trail h =>
    have hlead : (lead ++ '.' :: trail).takeWhile (fun c => decide (c ≠ '.')) = lead :=
      takeWhile_append_eq (fun c hc => hpoint c (h ▸ List.mem_append_left _ hc)) (by simp)
    rw [hlead]
    exact ⟨trail, h.symm, by simp, rfl⟩

/-- A text with a point and an exponent is read as what is left without them, with the scale that
they make. -/
theorem read?_of_pointed (hds : ∀ c ∈ ds, isPlain c = true) (hbase : Pointed ds places base)
    (hread : readInteger? ds = some n) (hexponent : WritesExponent e etext)
    (hfits : fitsScale (places - e) = true) : read? (base ++ etext) = some ⟨n, places - e⟩ := by
  have htake : (base ++ etext).takeWhile (fun c => decide (c ≠ 'e') && decide (c ≠ 'E')) = base := by
    refine takeWhile_append_eq (fun c hc => ?_) ?_
    · rcases hbase.mem hc with hc | rfl
      · obtain ⟨-, he, hE, -⟩ := ne_of_isPlain (hds c hc)
        simp [he, hE]
      · rfl
    · cases hexponent with
      | absent => simp
      | letter hc => rcases hc with rfl | rfl <;> simp
  obtain ⟨trail, hlead, htrail, hplaces⟩ := hbase.exists_split hds
  have hfilter : trail.filter (fun c => decide (c ≠ '_')) = trail :=
    List.filter_eq_self.2 fun c hc =>
      decide_eq_true (ne_of_isPlain (hds c (hlead ▸ List.mem_append_right _ hc))).2.2.2
  unfold read?
  rw [htake]
  cases hexponent with
  | absent =>
    dsimp only
    rw [List.drop_left]
    dsimp only [Option.bind_eq_bind]
    rw [Option.bind_some, htrail, hlead, hread, Option.bind_some, hfilter, hplaces, if_pos hfits]
  | letter hc h =>
    dsimp only
    rw [List.drop_left]
    dsimp only [Option.bind_eq_bind]
    rw [h, Option.bind_some, htrail, hlead, hread, Option.bind_some, hfilter, hplaces, if_pos hfits]

end Read

/-! ## What is printed -/

section Print

variable {d : Decimal} {base etext : List Char} {places k : Nat} {e : Int}

/-- Digits with a sign, a point and an exponent are read as the number that they make. -/
theorem read?_of_sign {ds : List Char} {n : Int} {m : Nat} (hne : ds ≠ [])
    (hds : ∀ c ∈ ds, c.isDigit = true) (hread : Digits.readOn? 0 ds = some m) (hm : n.natAbs = m)
    (hbase : Pointed ds places base) (hexponent : WritesExponent e etext)
    (hfits : fitsScale (places - e) = true) :
    read? (sign n ++ base ++ etext) = some ⟨n, places - e⟩ := by
  refine read?_of_pointed ?_ (hbase.prepend (sign n))
    (readInteger?_signed hne hds hread hm) hexponent hfits
  intro c hc
  rcases List.mem_append.1 hc with hc | hc
  · exact isPlain_of_mem_sign hc
  · exact isPlain_of_isDigit (hds c hc)

/-- The digits with zeros in front of them, a point and an exponent are read as the decimal, if the
point and the exponent make its scale. -/
theorem read?_of_pointed_digits
    (hbase : Pointed (List.replicate k '0' ++ Digits.ofNat d.unscaled.natAbs) places base)
    (hexponent : WritesExponent e etext) (hscale : places - e = d.scale)
    (hfits : fitsScale d.scale = true) :
    read? (sign d.unscaled ++ base ++ etext) = some d := by
  have hds : ∀ c ∈ List.replicate k '0' ++ Digits.ofNat d.unscaled.natAbs, c.isDigit = true :=
    fun _ => Digits.isDigit_of_mem_zeros_append
  have hread := (Digits.readOn?_zeros k _).trans (Digits.readOn?_ofNat d.unscaled.natAbs)
  rw [read?_of_sign (List.append_ne_nil_of_right_ne_nil _ (Digits.ofNat_ne_nil _)) hds hread rfl
    hbase hexponent (hscale ▸ hfits), hscale]

/-- An integer with zeros written out behind it is read with these zeros and without a scale. -/
theorem read?_of_zeros (n : Int) (k : Nat) :
    read? (sign n ++ (Digits.ofNat n.natAbs ++ List.replicate k '0')) =
      some ⟨n * 10 ^ k, 0⟩ := by
  have hds : ∀ c ∈ Digits.ofNat n.natAbs ++ List.replicate k '0', c.isDigit = true :=
    fun _ => Digits.isDigit_of_mem_append_zeros
  have hpow : (0 : Int) < 10 ^ k := pow_pos (by decide) k
  have hsign : sign n = sign (n * 10 ^ k) := by
    simp only [sign, mul_neg_iff, hpow, hpow.not_gt, and_true, and_false, false_or]
  have hm : (n * 10 ^ k).natAbs = n.natAbs * 10 ^ k := by
    rw [Int.natAbs_mul, Int.natAbs_pow]
    rfl
  have hread := read?_of_sign (List.append_ne_nil_of_left_ne_nil (Digits.ofNat_ne_nil _) _) hds
    (Digits.readOn?_append_zeros n.natAbs k) hm .whole .absent (by decide)
  rwa [List.append_nil, ← hsign] at hread

theorem value_of_zeros {n scale : Int} (h : scale ≤ 0) :
    value ⟨n * 10 ^ (-scale).toNat, 0⟩ = value ⟨n, scale⟩ := by
  simp only [value, Int.cast_mul, Int.cast_pow, Int.cast_ofNat, neg_zero, zpow_zero, mul_one]
  rw [← zpow_natCast, Int.toNat_of_nonneg (by omega)]

/-- The four forms of a decimal that is not zero. -/
theorem toList_print (hd : d.unscaled ≠ 0) :
    d.print.toList = sign d.unscaled ++
      let ds := Digits.ofNat d.unscaled.natAbs
      if ds.length + 5 < d.scale then
        withPoint ds (ds.length - 1) ++ 'E' :: (toString (ds.length - 1 - d.scale)).toList
      else if d.scale < -15 then ds ++ 'e' :: '+' :: (toString (-d.scale)).toList
      else if d.scale < 0 then ds ++ List.replicate (-d.scale).toNat '0'
      else withPoint ds d.scale.toNat := by
  have hsign : (if d.unscaled < 0 then "-" else "").toList = sign d.unscaled := by
    unfold sign
    split_ifs <;> rfl
  have hmantissa : ∀ ds : List Char,
      (if ds.length = 1 then ds else withPoint ds (ds.length - 1)) =
        withPoint ds (ds.length - 1) := by
    intro ds
    split_ifs with hone
    · rw [hone, withPoint, if_pos rfl]
    · rfl
  rw [print, if_neg hd]
  dsimp only
  rw [hmantissa]
  generalize (if d.unscaled < 0 then "-" else "") = s at hsign ⊢
  split_ifs <;> simp only [String.toList_append, String.toList_ofList, hsign, List.append_assoc] <;>
    rfl

theorem fitsScale_of_read? {s : List Char} (h : read? s = some d) : fitsScale d.scale = true := by
  unfold read? at h
  dsimp only at h
  split at h
  all_goals
    simp only [Option.bind_eq_bind, Option.bind_eq_some_iff] at h
    obtain ⟨exponent, -, unscaled, -, hend⟩ := h
    split_ifs at hend with hfits
    cases hend
    exact hfits

/-- What is printed is read as the same number. -/
theorem exists_read?_print (hfits : fitsScale d.scale = true) :
    ∃ e, read? d.print.toList = some e ∧ e.value = d.value := by
  by_cases hzero : d.unscaled = 0
  · refine ⟨⟨0, 0⟩, ?_, ?_⟩
    · rw [print, if_pos hzero]
      decide +kernel
    · simp [value, hzero]
  have hcount : 0 < (Digits.ofNat d.unscaled.natAbs).length := Digits.count_pos _
  rw [toList_print hzero]
  dsimp only
  split_ifs with hsmall hlarge hnegative
  · obtain ⟨k, hpointed⟩ := exists_pointed_withPoint (Digits.ofNat d.unscaled.natAbs)
      ((Digits.ofNat d.unscaled.natAbs).length - 1)
    refine ⟨d, ?_, rfl⟩
    rw [← List.append_assoc]
    exact read?_of_pointed_digits hpointed (.letter (.inr rfl) (readExponent?_toString _))
      (by omega) hfits
  · have hwhole : Pointed (List.replicate 0 '0' ++ Digits.ofNat d.unscaled.natAbs) 0
      (Digits.ofNat d.unscaled.natAbs) := .whole
    refine ⟨d, ?_, rfl⟩
    rw [← List.append_assoc]
    exact read?_of_pointed_digits hwhole (.letter (.inl rfl) (readExponent?_plus (by omega)))
      (by omega) hfits
  · exact ⟨_, read?_of_zeros d.unscaled (-d.scale).toNat, value_of_zeros hnegative.le⟩
  · obtain ⟨k, hpointed⟩ := exists_pointed_withPoint (Digits.ofNat d.unscaled.natAbs) d.scale.toNat
    refine ⟨d, ?_, rfl⟩
    rw [← List.append_nil (sign _ ++ _)]
    exact read?_of_pointed_digits hpointed .absent (by omega) hfits

/-! ## The characters of a printed decimal -/

open Json (isNumeral)

theorem isNumeral_of_isPlain {c : Char} (h : isPlain c = true) : isNumeral c = true := by
  rw [isPlain, Bool.or_eq_true] at h
  rcases h with h | h <;> simp [isNumeral, h]

theorem isPlain_of_mem_toString {n : Int} {c : Char} (h : c ∈ (toString n).toList) :
    isPlain c = true := by
  rw [Digits.toList_toString_int] at h
  split_ifs at h
  · rcases List.mem_cons.1 h with rfl | h
    · rfl
    · exact isPlain_of_isDigit (Digits.isDigit_of_mem_ofNat h)
  · exact isPlain_of_isDigit (Digits.isDigit_of_mem_ofNat h)

theorem isNumeral_of_mem_withPoint {n : Nat} {c : Char} (h : c ∈ withPoint (Digits.ofNat n) places) :
    isNumeral c = true := by
  obtain ⟨k, hpointed⟩ := exists_pointed_withPoint (Digits.ofNat n) places
  rcases hpointed.mem h with h | rfl
  · exact isNumeral_of_isPlain (isPlain_of_isDigit (Digits.isDigit_of_mem_zeros_append h))
  · rfl

theorem isNumeral_of_mem_print {c : Char} (h : c ∈ d.print.toList) : isNumeral c = true := by
  by_cases hzero : d.unscaled = 0
  · rw [print, if_pos hzero] at h
    rw [List.mem_singleton.1 h]
    rfl
  have hdigits : c ∈ Digits.ofNat d.unscaled.natAbs → isNumeral c = true := fun h =>
    isNumeral_of_isPlain (isPlain_of_isDigit (Digits.isDigit_of_mem_ofNat h))
  have hexponent : ∀ e : Int, c ∈ (toString e).toList → isNumeral c = true := fun e h =>
    isNumeral_of_isPlain (isPlain_of_mem_toString h)
  rw [toList_print hzero] at h
  rcases List.mem_append.1 h with h | h
  · exact isNumeral_of_isPlain (isPlain_of_mem_sign h)
  dsimp only at h
  split_ifs at h
  · rcases List.mem_append.1 h with h | h
    · exact isNumeral_of_mem_withPoint h
    · rcases List.mem_cons.1 h with rfl | h
      · rfl
      · exact hexponent _ h
  · simp only [List.mem_append, List.mem_cons] at h
    rcases h with h | rfl | rfl | h
    · exact hdigits h
    · rfl
    · rfl
    · exact hexponent _ h
  · exact isNumeral_of_isPlain (isPlain_of_isDigit (Digits.isDigit_of_mem_append_zeros h))
  · exact isNumeral_of_mem_withPoint h

end Print

end RecordFilter.Decimal
