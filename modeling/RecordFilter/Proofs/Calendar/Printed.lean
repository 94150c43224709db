import RecordFilter.Calendar.Instant
import RecordFilter.Proofs.Number.Digits
import RecordFilter.Proofs.Text.Trim

/-!
# Printed dates and instants

A date is what its printed form is read as, in any year. An instant is so from year 0 to 9999 only:
the year of any other has a sign, which no form with an offset takes, and no other form takes the
offset.
-/

namespace RecordFilter

open Digits (padded)

variable {s rest : List Char} {n width : Nat}

/-- A text that does not begin with a digit, and so ends the digits before it. -/
def EndsDigits (rest : List Char) : Prop :=
  ∀ c ∈ rest.head?, c.isDigit = false

theorem endsDigits_cons {c : Char} (h : c.isDigit = false) (rest : List Char) :
    EndsDigits (c :: rest) := by
  rintro d ⟨⟩
  exact h

theorem takeWhile_padded (width n : Nat) (hrest : EndsDigits rest) :
    (padded width n ++ rest).takeWhile Char.isDigit = padded width n :=
  takeWhile_append_eq (fun _ => Digits.isDigit_of_mem_padded) hrest

theorem trimStart_padded (width n : Nat) (rest : List Char) :
    Text.trimStart (padded width n ++ rest) = padded width n ++ rest := by
  refine Text.trimStart_eq_self fun c hc => ?_
  rw [List.head?_append_of_ne_nil _ (Digits.padded_ne_nil width n)] at hc
  exact Text.not_isBlank_of_isDigit (Digits.isDigit_of_mem_padded (List.mem_of_mem_head? hc))

/-! ## Dates -/

namespace Date

theorem readChar_cons (c : Char) (rest : List Char) : readChar c (c :: rest) = some ((), rest) :=
  if_pos rfl

theorem readDigits_padded {least : Nat} (hleast : least ≤ width) (hwidth : 0 < width)
    (hn : n < 10 ^ width) (hrest : EndsDigits rest) :
    readDigits least width (padded width n ++ rest) = some (n, rest) := by
  have hlength : (padded width n).length = width := Digits.length_padded hwidth hn
  have htake : (padded width n).take width = padded width n := List.take_of_length_le hlength.le
  rw [readDigits, takeWhile_padded width n hrest, htake, hlength, if_neg (not_lt.2 hleast), Digits.read?_padded,
    List.drop_left' hlength]
  rfl

theorem readDigits_eq_none {least most : Nat} (hleast : 0 < least) (hs : EndsDigits s) :
    readDigits least most s = none := by
  have hword : s.takeWhile Char.isDigit = [] := by
    cases s with
    | nil => rfl
    | cons c s => exact List.takeWhile_cons_of_neg (Bool.eq_false_iff.1 (hs c rfl))
  rw [readDigits, hword, List.take_nil]
  exact if_pos hleast

theorem readYear_printYear (year : Int) (hrest : EndsDigits rest) :
    readYear (printYear year ++ rest) = some (year, rest) := by
  have hword := takeWhile_padded 4 year.natAbs hrest
  rw [printYear]
  split_ifs with hplain hneg
  · have hread : readDigits 1 4 (padded 4 year.natAbs ++ rest) = some (year.natAbs, rest) :=
      readDigits_padded (by decide) (by decide) (by omega) hrest
    obtain ⟨c, r, hs, hminus, hplus⟩ := Digits.exists_eq_cons
      (Digits.padded_ne_nil 4 year.natAbs) fun c => Digits.isDigit_of_mem_padded
    rw [hs, List.cons_append] at hread ⊢
    unfold readYear
    split
    · exact absurd (List.cons.inj ‹_›).1 hminus
    · exact absurd (List.cons.inj ‹_›).1 hplus
    · rw [hread]
      show some ((year.natAbs : Int), rest) = some (year, rest)
      rw [show (year.natAbs : Int) = year by omega]
  · rw [List.cons_append, readYear, hword, Digits.read?_padded, List.drop_left]
    show some (-(year.natAbs : Int), rest) = some (year, rest)
    rw [show -(year.natAbs : Int) = year by omega]
  · rw [List.cons_append, readYear, hword, Digits.read?_padded, List.drop_left]
    show some ((year.natAbs : Int), rest) = some (year, rest)
    rw [show (year.natAbs : Int) = year by omega]

variable (d : Date)

theorem of?_eq : of? d.year d.month d.day = some d :=
  dif_pos d.isDay

theorem month_lt : d.month < 10 ^ 2 := by
  have h := d.isDay.2.1
  omega

theorem day_lt : d.day < 10 ^ 2 := by
  have h := d.isDay.2.2
  have hlast : Calendar.daysInMonth d.year d.month ≤ 31 := by
    unfold Calendar.daysInMonth
    split_ifs <;> decide
  omega

theorem toList_print : d.print.toList =
    printYear d.year ++ '-' :: (padded 2 d.month ++ '-' :: padded 2 d.day) := by
  rw [print, String.toList_ofList, List.append_assoc, List.cons_append]

theorem trimStart_print (rest : List Char) :
    Text.trimStart (printYear d.year ++ rest) = printYear d.year ++ rest := by
  rw [printYear]
  split_ifs
  · exact trimStart_padded 4 _ rest
  · rfl
  · rfl

theorem readFields_print (hrest : EndsDigits rest) :
    readFields (d.print.toList ++ rest) = some (d, rest) := by
  have hhyphen : ∀ r, EndsDigits ('-' :: r) := endsDigits_cons rfl
  have hyear := fun r => readYear_printYear d.year (hhyphen r)
  have hmonth : ∀ r, readDigits 1 2 (padded 2 d.month ++ '-' :: r) = some (d.month, '-' :: r) :=
    fun r => readDigits_padded (by decide) (by decide) d.month_lt (hhyphen r)
  have hday : readDigits 1 2 (padded 2 d.day ++ rest) = some (d.day, rest) :=
    readDigits_padded (by decide) (by decide) d.day_lt hrest
  rw [toList_print, readFields]
  simp [trimStart_print, trimStart_padded, hyear, hmonth, hday, readChar_cons, of?_eq]

theorem read?_print : read? d.print.toList = some d := by
  have hend : EndsDigits [] := fun c hc => by cases hc
  have hfields : readFields d.print.toList = some (d, []) := by
    rw [← d.readFields_print hend, List.append_nil]
  rw [read?, hfields]

theorem not_isBlank_of_mem_print {c : Char} (h : c ∈ d.print.toList) : Text.isBlank c = false := by
  have hpadded : ∀ {width n}, c ∈ padded width n → Text.isBlank c = false := fun h =>
    Text.not_isBlank_of_isDigit (Digits.isDigit_of_mem_padded h)
  have hyear : c ∈ printYear d.year → Text.isBlank c = false := by
    intro h
    rw [printYear] at h
    split_ifs at h
    · exact hpadded h
    · exact (List.mem_cons.1 h).elim (fun hc => hc ▸ rfl) hpadded
    · exact (List.mem_cons.1 h).elim (fun hc => hc ▸ rfl) hpadded
  simp only [toList_print, List.mem_append, List.mem_cons] at h
  rcases h with h | rfl | h | rfl | h
  · exact hyear h
  · rfl
  · exact hpadded h
  · rfl
  · exact hpadded h

end Date

/-! ## Times of day -/

namespace TimeOfDay

/-- A leap second is the last of a minute. -/
def EndsMinute (t : TimeOfDay) : Prop :=
  Nat.pow 10 9 ≤ t.nanos.val → t.second.val % 60 = 59

theorem endsMinute_of_ofClock? {hour minute second nanos : Nat} {t : TimeOfDay}
    (h : ofClock? hour minute second nanos = some t) (hnanos : nanos < Nat.pow 10 9) :
    t.EndsMinute := by
  unfold ofClock? at h
  dsimp only at h
  split_ifs at h with hclock hleap
  all_goals cases h
  · intro _
    show ((hour * 60 + minute) * 60 + 59) % 60 = 59
    omega
  · intro hlong
    exact absurd hnanos (not_lt.2 hlong)

variable {hour minute second nanos : Nat} (t : TimeOfDay)

theorem ofClock?_ordinary (hclock : hour < 24 ∧ minute < 60 ∧ second < 60)
    (hsecond : (hour * 60 + minute) * 60 + second = t.second.val) (hnanos : nanos = t.nanos.val) :
    ofClock? hour minute second nanos = some t := by
  have hday := t.second.isLt
  have hlong := t.nanos.isLt
  have hne : second ≠ 60 := by omega
  simp only [ofClock?, hne, if_false, Nat.add_zero]
  rw [dif_pos ⟨hclock.1, hclock.2.1, by omega, by omega, by omega⟩]
  simp only [hsecond, hnanos]

theorem ofClock?_leap (hclock : hour < 24 ∧ minute < 60)
    (hsecond : (hour * 60 + minute) * 60 + 59 = t.second.val)
    (hnanos : nanos + Nat.pow 10 9 = t.nanos.val) : ofClock? hour minute 60 nanos = some t := by
  have hday := t.second.isLt
  have hlong := t.nanos.isLt
  simp only [ofClock?, if_true]
  rw [dif_pos ⟨hclock.1, hclock.2, by omega, by omega, by omega⟩]
  simp only [hsecond, hnanos]

/-- The clock shows what the second and the nanoseconds say. -/
theorem ofClock?_eq (ht : t.EndsMinute) :
    ofClock? (t.second.val / 3600) (t.second.val / 60 % 60)
      (t.second.val % 60 + t.nanos.val / Nat.pow 10 9) (t.nanos.val % Nat.pow 10 9) = some t := by
  have hday := t.second.isLt
  have hlong := t.nanos.isLt
  have hpow : Nat.pow 10 9 = 1000000000 := rfl
  have hdiv : t.nanos.val / Nat.pow 10 9 = t.nanos.val / 1000000000 := rfl
  have hmod : t.nanos.val % Nat.pow 10 9 = t.nanos.val % 1000000000 := rfl
  rw [hdiv, hmod]
  by_cases hleap : Nat.pow 10 9 ≤ t.nanos.val
  · have hlast := ht hleap
    rw [show t.second.val % 60 + t.nanos.val / 1000000000 = 60 by omega]
    exact t.ofClock?_leap ⟨by omega, by omega⟩ (by omega) (by omega)
  · exact t.ofClock?_ordinary ⟨by omega, by omega, by omega⟩ (by omega) (by omega)

end TimeOfDay

namespace Instant

open Date (Reader readDigits readChar readChar_cons)

theorem readFraction_pointed (hn : n < 10 ^ width) (hwidth : 0 < width) (hmost : width ≤ 9)
    (hrest : EndsDigits rest) :
    readFraction ('.' :: padded width n ++ rest) = some (n * Nat.pow 10 (9 - width), rest) := by
  have hlength : (padded width n).length = width := Digits.length_padded hwidth hn
  have htake : (padded width n).take 9 = padded width n :=
    List.take_of_length_le (hlength.trans_le hmost)
  rw [List.cons_append, readFraction, takeWhile_padded width n hrest, htake, Digits.read?_padded,
    hlength, List.drop_left' hlength]
  rfl

/-- What follows has neither a digit nor a point in front. -/
theorem readFraction_printFraction (hn : n < Nat.pow 10 9) (hrest : EndsDigits rest)
    (hpoint : '.' ∉ rest.head?) :
    readFraction (TimeOfDay.printFraction n ++ rest) = some (n, rest) := by
  have hpow : Nat.pow 10 9 = 1000000000 := rfl
  rw [TimeOfDay.printFraction]
  split_ifs with hzero hthree hsix
  · rw [List.nil_append, hzero]
    unfold readFraction
    split
    · exact absurd rfl hpoint
    · rfl
  · rw [readFraction_pointed (by omega) (by decide) (by decide) hrest,
      show n / 1000000 * Nat.pow 10 (9 - 3) = n by
        show n / 1000000 * 1000000 = n
        omega]
  · rw [readFraction_pointed (by omega) (by decide) (by decide) hrest,
      show n / 1000 * Nat.pow 10 (9 - 6) = n by
        show n / 1000 * 1000 = n
        omega]
  · rw [readFraction_pointed (by omega) (by decide) (by decide) hrest,
      show n * Nat.pow 10 (9 - 9) = n from Nat.mul_one n]

/-- Reads numbers of two digits. -/
def ReadsPairs (field : Reader Nat) : Prop :=
  ∀ n rest, n < 100 → EndsDigits rest → field (padded 2 n ++ rest) = some (n, rest)

theorem readsPairs_exactly : ReadsPairs (readDigits 2 2) := fun _ _ hn hrest =>
  Date.readDigits_padded (by decide) (by decide) hn hrest

theorem readsPairs_blanks : ReadsPairs fun s => readDigits 1 2 (Text.trimStart s) := by
  intro n rest hn hrest
  dsimp only
  rw [trimStart_padded]
  exact Date.readDigits_padded (by decide) (by decide) hn hrest

theorem endsDigits_printFraction (n : Nat) (hrest : EndsDigits rest) :
    EndsDigits (TimeOfDay.printFraction n ++ rest) := by
  unfold TimeOfDay.printFraction
  split_ifs
  · exact hrest
  all_goals exact endsDigits_cons rfl _

theorem readClock_print {field : Reader Nat} (hfield : ReadsPairs field) {t : TimeOfDay}
    (ht : t.EndsMinute) (hrest : EndsDigits rest) (hpoint : '.' ∉ rest.head?) :
    readClock field (t.print ++ rest) = some (t, rest) := by
  have hday := t.second.isLt
  have hlong : t.nanos.val < 2000000000 := t.nanos.isLt
  have hdiv : t.nanos.val / Nat.pow 10 9 = t.nanos.val / 1000000000 := rfl
  have hcolon : ∀ r, EndsDigits (':' :: r) := endsDigits_cons rfl
  have hhour := fun r => hfield (t.second.val / 3600) (':' :: r) (by omega) (hcolon r)
  have hminute := fun r => hfield (t.second.val / 60 % 60) (':' :: r) (by omega) (hcolon r)
  have hsecond := hfield (t.second.val % 60 + t.nanos.val / Nat.pow 10 9) _ (by omega)
    (endsDigits_printFraction (t.nanos.val % Nat.pow 10 9) hrest)
  have hfraction := readFraction_printFraction (Nat.mod_lt t.nanos.val (by decide)) hrest hpoint
  have hclock := t.ofClock?_eq ht
  rw [readClock, TimeOfDay.print]
  simp [hhour, hminute, hsecond, hfraction, hclock, readChar_cons]

variable (i : Instant)

/-- The offset of universal time. -/
def noOffset : List Char := "+00:00".toList

theorem readOffset_noOffset : readOffset noOffset = some (0, []) := by
  decide

theorem ofLocal?_zero : ofLocal? i 0 = some i := by
  have hday := i.time.second.isLt
  have hsecond : Fin.ofNat 86400 ((i.time.second.val : Int) % 86400).toNat = i.time.second :=
    Fin.ext (by rw [Fin.val_ofNat]; omega)
  simp only [ofLocal?, Int.sub_zero]
  rw [if_neg (by omega), if_neg (by omega), hsecond]
  rfl

theorem toList_print :
    i.print.toList = i.date.print.toList ++ 'T' :: (i.time.print ++ noOffset) := by
  simp [print, printPlain, noOffset]

theorem trim_print : Text.trim i.print.toList = i.print.toList := by
  have hne : i.date.print.toList ≠ [] := by
    rw [Date.toList_print]
    exact List.append_ne_nil_of_right_ne_nil _ (List.cons_ne_nil _ _)
  rw [toList_print]
  refine Text.trim_eq_self (fun c hc => ?_) fun c hc => ?_
  · rw [List.head?_append_of_ne_nil _ hne] at hc
    exact i.date.not_isBlank_of_mem_print (List.mem_of_mem_head? hc)
  · -- The last character is the zero that ends the offset.
    have hlast : noOffset = "+00:0".toList ++ ['0'] := rfl
    rw [hlast, ← List.append_assoc, ← List.cons_append, ← List.append_assoc,
      List.getLast?_concat] at hc
    cases hc
    rfl

theorem readClock_print_noOffset {field : Reader Nat} (hfield : ReadsPairs field)
    (hi : i.time.EndsMinute) :
    readClock field (i.time.print ++ noOffset) = some (i.time, noOffset) :=
  readClock_print hfield hi (endsDigits_cons rfl _) (by decide)

theorem readFields_print :
    Date.readFields i.print.toList = some (i.date, 'T' :: (i.time.print ++ noOffset)) := by
  rw [toList_print]
  exact i.date.readFields_print (endsDigits_cons rfl _)

theorem readWithOffset?_print (hi : i.time.EndsMinute)
    (hyear : 0 ≤ i.date.year ∧ i.date.year ≤ 9999) : readWithOffset? i.print.toList = some i := by
  have hfour : ∀ r, readDigits 4 4 (padded 4 i.date.year.natAbs ++ '-' :: r) =
      some (i.date.year.natAbs, '-' :: r) := fun r =>
    Date.readDigits_padded (by decide) (by decide) (by omega) (endsDigits_cons rfl r)
  have hmonth := fun r =>
    readsPairs_exactly i.date.month ('-' :: r) i.date.month_lt (endsDigits_cons rfl r)
  have hday := fun r =>
    readsPairs_exactly i.date.day ('T' :: r) i.date.day_lt (endsDigits_cons rfl r)
  have hdate : Date.of? (i.date.year.natAbs : Int) i.date.month i.date.day = some i.date := by
    rw [show (i.date.year.natAbs : Int) = i.date.year by omega]
    exact i.date.of?_eq
  rw [toList_print, Date.toList_print, Date.printYear, if_pos hyear, readWithOffset?]
  simp [-Nat.cast_natAbs, hfour, hmonth, hday, hdate, readChar_cons, readOffset_noOffset,
    i.readClock_print_noOffset readsPairs_exactly hi, i.ofLocal?_zero]

/-- A sign is no digit. -/
theorem readWithOffset?_print_signed (hyear : ¬ (0 ≤ i.date.year ∧ i.date.year ≤ 9999)) :
    readWithOffset? i.print.toList = none := by
  have hsign : EndsDigits i.print.toList := by
    rw [toList_print, Date.toList_print, Date.printYear, if_neg hyear]
    refine endsDigits_cons ?_ _
    split_ifs <;> rfl
  rw [readWithOffset?, Date.readDigits_eq_none (by decide) hsign]
  rfl

/-- The offset is left over. -/
theorem readPlain?_print (hi : i.time.EndsMinute) : readPlain? i.print.toList = none := by
  have hleft : noOffset ≠ [] := by decide
  rw [readPlain?, readFields_print]
  simp [i.readClock_print_noOffset readsPairs_blanks hi, hleft]

theorem read?_print_eq_none : Date.read? i.print.toList = none := by
  rw [Date.read?, readFields_print]

/-! ## Leap seconds -/

theorem endsMinute_midnight (d : Date) : (midnight d).time.EndsMinute := fun h =>
  absurd h (show ¬ Nat.pow 10 9 ≤ 0 by decide)

theorem lt_of_readFraction (h : readFraction s = some (n, rest)) : n < Nat.pow 10 9 := by
  unfold readFraction at h
  split at h
  · next r =>
    simp only [Option.bind_eq_bind, Option.bind_eq_some_iff, Option.pure_def, Option.some.injEq,
      Prod.mk.injEq] at h
    obtain ⟨m, hm, rfl, -⟩ := h
    have hne : (r.takeWhile Char.isDigit).take 9 ≠ [] := by
      intro hnil
      rw [hnil] at hm
      cases hm
    rw [Digits.read?_eq_readOn? hne] at hm
    have hlt := Digits.lt_of_readOn? hm
    rw [List.length_take, Nat.zero_add, Nat.one_mul] at hlt
    generalize (r.takeWhile Char.isDigit).length = k at hlt ⊢
    calc m * Nat.pow 10 (9 - k) < 10 ^ min 9 k * 10 ^ (9 - k) :=
          Nat.mul_lt_mul_of_pos_right hlt (Nat.pow_pos (by decide))
      _ = 10 ^ 9 := by rw [← Nat.pow_add]; congr 1; omega
  · cases h
    decide

theorem endsMinute_of_readClock {field : Reader Nat} {t : TimeOfDay}
    (h : readClock field s = some (t, rest)) : t.EndsMinute := by
  simp only [readClock, Option.bind_eq_bind, Option.bind_eq_some_iff, Option.pure_def,
    Option.some.injEq, Prod.mk.injEq] at h
  obtain ⟨hour, -, -, -, minute, -, -, -, second, -, ⟨nanos, r⟩, hnanos, t, hclock, rfl, -⟩ := h
  exact TimeOfDay.endsMinute_of_ofClock? hclock (lt_of_readFraction hnanos)

theorem endsMinute_of_readPlain? (h : readPlain? s = some i) : i.time.EndsMinute := by
  simp only [readPlain?, Option.bind_eq_bind, Option.bind_eq_some_iff] at h
  obtain ⟨date, -, ⟨time, r⟩, hclock, hend⟩ := h
  split_ifs at hend
  cases hend
  exact endsMinute_of_readClock hclock

/-- Offsets are whole minutes. -/
theorem offset_of_readOffset {offset : Int} (h : readOffset s = some (offset, rest)) :
    offset % 60 = 0 := by
  unfold readOffset at h
  split at h
  · cases h
  split_ifs at h
  · cases h
    rfl
  all_goals
    simp only [Option.bind_eq_bind, Option.bind_eq_some_iff, Option.pure_def] at h
    obtain ⟨sign, -, ⟨hours, r⟩, -, -, -, ⟨minutes, r'⟩, -, hend⟩ := h
    split_ifs at hend
    cases hend
    push_cast
    rw [← mul_assoc]
    exact Int.mul_emod_left _ 60

theorem endsMinute_of_ofLocal? {shown : Instant} {offset : Int} (hshown : shown.time.EndsMinute)
    (hoffset : offset % 60 = 0) (h : ofLocal? shown offset = some i) : i.time.EndsMinute := by
  unfold ofLocal? at h
  obtain ⟨d, -, rfl⟩ := Option.map_eq_some_iff.1 h
  intro hleap
  have hlast := hshown hleap
  show ((shown.time.second.val - offset) % 86400).toNat % 86400 % 60 = 59
  omega

theorem endsMinute_of_readWithOffset? (h : readWithOffset? s = some i) : i.time.EndsMinute := by
  have hrest : ∀ (date : Date) r, ((readClock (readDigits 2 2) r).bind fun x =>
      (readOffset x.2).bind fun y =>
        if y.2.isEmpty = true then ofLocal? ⟨date, x.1⟩ y.1 else none) = some i →
      i.time.EndsMinute := by
    intro date r h
    simp only [Option.bind_eq_some_iff] at h
    obtain ⟨⟨time, r⟩, hclock, ⟨offset, r⟩, hoffset, hend⟩ := h
    split_ifs at hend
    exact endsMinute_of_ofLocal? i (endsMinute_of_readClock hclock) (offset_of_readOffset hoffset)
      hend
  simp only [readWithOffset?, Option.bind_eq_bind, Option.bind_eq_some_iff] at h
  obtain ⟨year, -, -, -, month, -, -, -, ⟨day, r⟩, -, date, -, h⟩ := h
  split at h
  · split_ifs at h
    · exact hrest date _ h
    · cases h
  · cases h

end Instant

end RecordFilter
