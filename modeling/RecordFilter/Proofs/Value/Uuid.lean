import Mathlib.Data.List.Basic
import Mathlib.Tactic.IntervalCases
import RecordFilter.Proofs.Text.Ascii
import RecordFilter.Uuid

/-!
# UUIDs are read back

A UUID is printed in its five groups, which none of the other accepted forms can be taken for, and
reading them gives the UUID again.
-/

namespace RecordFilter.Uuid

variable {s t : List Char} {c : Char} {n m : Nat}

/-! ## Hexadecimal digits -/

theorem digit?_digitChar (h : n < 16) : digit? n.digitChar = some n := by
  interval_cases n <;> rfl

/-- The codes of digits, of small letters and of capitals. -/
theorem range_of_digit? (h : (digit? c).isSome = true) :
    (48 ≤ c.toNat ∧ c.toNat ≤ 57) ∨ (97 ≤ c.toNat ∧ c.toNat ≤ 102) ∨
      (65 ≤ c.toNat ∧ c.toNat ≤ 70) := by
  simp only [digit?, Char.isDigit_iff_toNat, Char.le_def, UInt32.le_iff_toNat_le] at h
  split_ifs at h with hdigit hsmall hcapital
  · exact .inl hdigit
  · exact .inr (.inl hsmall)
  · exact .inr (.inr hcapital)
  · contradiction

theorem not_isBlank_of_digit? (h : (digit? c).isSome = true) : Text.isBlank c = false := by
  have hrange := range_of_digit? h
  exact Text.not_isBlank_of_lt (by omega) (by omega)

theorem toLower_ne_of_digit? (h : (digit? c).isSome = true) : c.toLower ≠ 'u' := by
  intro hu
  have hrange := range_of_digit? h
  have hlower := Text.toNat_toLower c
  rw [hu, show 'u'.toNat = 117 from rfl] at hlower
  split_ifs at hlower <;> omega

theorem readHex?_append (n : Nat) (s t : List Char) :
    readHex? n (s ++ t) = (readHex? n s).bind fun m => readHex? m t := by
  induction s generalizing n with
  | nil => rfl
  | cons c s ih =>
    rw [List.cons_append, readHex?, readHex?]
    cases digit? c with
    | none => rfl
    | some d => exact ih (n * 16 + d)

theorem isSome_digit?_of_readHex? (h : readHex? n s = some m) :
    ∀ c ∈ s, (digit? c).isSome = true := by
  induction s generalizing n with
  | nil => exact fun c hc => absurd hc List.not_mem_nil
  | cons c s ih =>
    rw [readHex?] at h
    cases hc : digit? c with
    | none =>
      rw [hc] at h
      cases h
    | some d =>
      rw [hc] at h
      exact List.forall_mem_cons.2 ⟨Option.isSome_iff_exists.2 ⟨d, hc⟩, ih h⟩

theorem readHex?_zeros (k : Nat) (s : List Char) :
    readHex? 0 (List.replicate k '0' ++ s) = readHex? 0 s := by
  induction k with
  | zero => rfl
  | succ k ih =>
    rw [List.replicate_succ, List.cons_append, readHex?]
    exact ih

theorem readHex?_toDigits (n : Nat) : readHex? 0 (Nat.toDigits 16 n) = some n := by
  induction n using Nat.strongRecOn with
  | _ n ih =>
    rw [Nat.toDigits_eq_if (by decide)]
    split_ifs with hsmall
    · rw [readHex?, digit?_digitChar hsmall]
      show some (0 * 16 + n) = some n
      rw [Nat.zero_mul, Nat.zero_add]
    · have hlast : n % 16 < 16 := Nat.mod_lt n (by decide)
      rw [readHex?_append, ih (n / 16) (Nat.div_lt_self (by omega) (by decide)), Option.bind_some,
        readHex?, digit?_digitChar hlast]
      show some (n / 16 * 16 + n % 16) = some n
      rw [Nat.div_add_mod']

variable (u : Uuid)

theorem readHex?_hexDigits : readHex? 0 u.hexDigits = some u.number.val := by
  rw [hexDigits, readHex?_zeros, readHex?_toDigits]

theorem length_hexDigits : u.hexDigits.length = 32 := by
  have hlength : (Nat.toDigits 16 u.number.val).length ≤ 32 :=
    (Nat.length_toDigits_le_iff (by decide) (by decide)).2 u.number.isLt
  rw [hexDigits, List.length_append, List.length_replicate]
  omega

/-! ## Groups -/

/-- The groups of digits with a hyphen between any two. -/
def hyphenated (ns : List Nat) (s : List Char) : List Char :=
  ['-'].intercalate (splitGroups ns s)

theorem hyphenated_singleton (n : Nat) (s : List Char) : hyphenated [n] s = s.take n :=
  List.intercalate_singleton

theorem hyphenated_cons_cons (n m : Nat) (ns : List Nat) (s : List Char) :
    hyphenated (n :: m :: ns) s = s.take n ++ '-' :: hyphenated (m :: ns) (s.drop n) :=
  rfl

theorem mem_hyphenated {ns : List Nat} (h : c ∈ hyphenated ns s) : c ∈ s ∨ c = '-' := by
  induction ns generalizing s with
  | nil => cases h
  | cons n ns ih =>
    cases ns with
    | nil =>
      rw [hyphenated_singleton] at h
      exact .inl (List.mem_of_mem_take h)
    | cons m ns =>
      rw [hyphenated_cons_cons, List.mem_append, List.mem_cons] at h
      rcases h with h | rfl | h
      · exact .inl (List.mem_of_mem_take h)
      · exact .inr rfl
      · exact (ih h).imp_left List.mem_of_mem_drop

/-- Every group but one brings a hyphen. -/
theorem length_hyphenated {ns : List Nat} (h : s.length = (n :: ns).sum) :
    (hyphenated (n :: ns) s).length = s.length + ns.length := by
  induction ns generalizing n s with
  | nil =>
    rw [List.sum_singleton] at h
    rw [hyphenated_singleton, List.take_of_length_le h.le]
    rfl
  | cons m ns ih =>
    rw [List.sum_cons] at h
    have hrest : (s.drop n).length = (m :: ns).sum := by
      rw [List.length_drop]
      omega
    rw [hyphenated_cons_cons, List.length_append, List.length_cons, ih hrest, List.length_take,
      List.length_drop, List.length_cons]
    omega

theorem joinGroups?_hyphenated {ns : List Nat} (h : s.length = (n :: ns).sum) :
    joinGroups? (n :: ns) (hyphenated (n :: ns) s) = some s := by
  induction ns generalizing n s with
  | nil =>
    rw [List.sum_singleton] at h
    rw [hyphenated_singleton, List.take_of_length_le h.le, joinGroups?, if_pos h]
  | cons m ns ih =>
    rw [List.sum_cons] at h
    have hfirst : (s.take n).length = n := by
      rw [List.length_take]
      omega
    have hrest : (s.drop n).length = (m :: ns).sum := by
      rw [List.length_drop]
      omega
    rw [hyphenated_cons_cons, joinGroups?, List.drop_left' hfirst, List.take_left' hfirst]
    · show (joinGroups? (m :: ns) (hyphenated (m :: ns) (s.drop n))).map (s.take n ++ ·) = some s
      rw [ih hrest, Option.map_some, List.take_append_drop]
    · exact List.cons_ne_nil m ns

/-! ## Printed UUIDs -/

theorem toList_print : u.print.toList = hyphenated groups u.hexDigits := by
  rw [print, String.toList_intercalate, List.map_map, hyphenated]
  congr 1
  exact (List.map_congr_left fun s _ => String.toList_ofList).trans (List.map_id _)

theorem digit?_of_mem_print (h : c ∈ u.print.toList) : c = '-' ∨ (digit? c).isSome = true := by
  rw [toList_print] at h
  rcases mem_hyphenated h with h | h
  · exact .inr (isSome_digit?_of_readHex? u.readHex?_hexDigits c h)
  · exact .inl h

theorem not_isBlank_of_mem_print (h : c ∈ u.print.toList) : Text.isBlank c = false := by
  rcases u.digit?_of_mem_print h with rfl | h
  · rfl
  · exact not_isBlank_of_digit? h

theorem readHyphenated?_print : readHyphenated? u.print.toList = some u := by
  have hgroups : joinGroups? groups (hyphenated groups u.hexDigits) = some u.hexDigits :=
    joinGroups?_hyphenated u.length_hexDigits
  rw [toList_print, readHyphenated?, hgroups]
  show (readHex? 0 u.hexDigits).bind (fun n => some (ofNat n)) = some u
  rw [readHex?_hexDigits, Option.bind_some, ofNat]
  exact congrArg (fun n => some (Uuid.mk n)) (Fin.ext (Nat.mod_eq_of_lt u.number.isLt))

theorem not_isPrefixOf_urn (h : c.toLower ≠ 'u') :
    ¬ urn.isPrefixOf ((c :: s).map Char.toLower) = true := by
  have hurn : urn = 'u' :: "rn:uuid:".toList := rfl
  rw [hurn, List.map_cons, List.isPrefixOf_cons_cons, Bool.and_eq_true, beq_iff_eq]
  exact fun hu => h hu.1.symm

/-- The longer forms begin with a letter that is no digit, or with a brace. -/
theorem read?_eq_readHyphenated? (hlength : (c :: s).length ≠ 32) (hurn : c.toLower ≠ 'u')
    (hbrace : c ≠ '\x7b') : read? (c :: s) = readHyphenated? (c :: s) := by
  rw [read?, if_neg hlength, if_neg (not_isPrefixOf_urn hurn), if_neg]
  simp [hbrace]

theorem length_print : u.print.toList.length = 36 := by
  rw [toList_print, groups, length_hyphenated u.length_hexDigits, length_hexDigits]
  rfl

theorem read?_print : read? u.print.toList = some u := by
  have hlength := u.length_print
  have hread := u.readHyphenated?_print
  have hchars : ∀ c ∈ u.print.toList, c = '-' ∨ (digit? c).isSome = true := fun c =>
    u.digit?_of_mem_print
  generalize u.print.toList = s at hlength hread hchars
  cases s with
  | nil => contradiction
  | cons c r =>
    have hlong : (c :: r).length ≠ 32 := by omega
    rw [← hread]
    rcases hchars c List.mem_cons_self with rfl | hdigit
    · exact read?_eq_readHyphenated? hlong (by decide) (by decide)
    · refine read?_eq_readHyphenated? hlong (toLower_ne_of_digit? hdigit) ?_
      rintro rfl
      contradiction

end RecordFilter.Uuid
