import Mathlib.Data.List.TakeWhile
import Mathlib.Tactic.SplitIfs
import RecordFilter.Json.Reader
import RecordFilter.Literal
import RecordFilter.Proofs.Text.Trim

/-!
# Numerals

How JSON writes a number: a minus sign or none, digits, a fraction or none, an exponent or none.
What the reader takes for a number is written just so (`writes_of_ofText?`).
-/

namespace RecordFilter

namespace Json

/-- One digit or more. -/
def IsDigits (s : List Char) : Prop :=
  s ≠ [] ∧ ∀ c ∈ s, c.isDigit = true

/-- The digits of a fraction, behind their point. -/
inductive WritesFraction : List Char → List Char → Prop
  | absent : WritesFraction [] []
  | point {ds : List Char} (h : IsDigits ds) : WritesFraction ds ('.' :: ds)

/-- How a sign of an exponent is written, and whether it is a minus. -/
inductive WritesSign : Bool → List Char → Prop
  | absent : WritesSign false []
  | plus : WritesSign false ['+']
  | minus : WritesSign true ['-']

/-- An exponent behind its letter. -/
inductive WritesExponent : Option (Bool × List Char) → List Char → Prop
  | absent : WritesExponent none []
  | letter {c : Char} (hc : c = 'e' ∨ c = 'E') {negative : Bool} {sign ds : List Char}
    (hsign : WritesSign negative sign) (h : IsDigits ds) :
    WritesExponent (some (negative, ds)) (c :: (sign ++ ds))

/-- The text of a number without its sign. -/
structure WritesMagnitude (r : RawNumber) (s : List Char) : Prop where
  whole : IsDigits r.whole
  parts : ∃ f e, WritesFraction r.fraction f ∧ WritesExponent r.exponent e ∧ s = r.whole ++ f ++ e

/-- The text of a number. -/
inductive Writes (r : RawNumber) : List Char → Prop
  | plain (hsign : r.negative = false) {s : List Char} (h : WritesMagnitude r s) : Writes r s
  | minus (hsign : r.negative = true) {s : List Char} (h : WritesMagnitude r s) :
    Writes r ('-' :: s)

namespace Raw

/-! ## What the reader takes for a number -/

theorem readMark_eq_some {s : List Char} {c : Char} {r : { r : List Char // r.length < s.length }}
    (h : readMark s = some (c, r)) : skipBlanks s = c :: r.1 := by
  unfold readMark at h
  split at h
  · cases h
  · cases h
    assumption

theorem readDigits_eq_some {s ds : List Char} {r : { r : List Char // r.length < s.length }}
    (h : readDigits s = some (ds, r)) : s = ds ++ r.1 ∧ IsDigits ds := by
  unfold readDigits at h
  dsimp only at h
  split_ifs at h with hlength
  cases h
  refine ⟨?_, fun hnil => hlength (List.length_eq_zero_iff.2 hnil), fun c hc => ?_⟩
  · have hprefix := List.prefix_iff_eq_append.1 (List.takeWhile_prefix (l := s) Char.isDigit)
    exact hprefix.symm
  · exact List.all_eq_true.1 List.all_takeWhile c hc

theorem readWhole_eq_some {s ds : List Char} {r : { r : List Char // r.length < s.length }}
    (h : readWhole s = some (ds, r)) : s = ds ++ r.1 ∧ IsDigits ds := by
  unfold readWhole at h
  split at h
  · cases h
    exact ⟨rfl, List.cons_ne_nil _ _, List.forall_mem_singleton.2 rfl⟩
  · exact readDigits_eq_some h

theorem readFraction_eq_some {s ds : List Char} {r : { r : List Char // r.length ≤ s.length }}
    (h : readFraction s = some (ds, r)) : ∃ f, s = f ++ r.1 ∧ WritesFraction ds f := by
  unfold readFraction at h
  split at h
  · obtain ⟨⟨es, q⟩, hdigits, hq⟩ := Option.bind_eq_some_iff.1 h
    cases hq
    obtain ⟨hs, hds⟩ := readDigits_eq_some hdigits
    exact ⟨'.' :: ds, congrArg ('.' :: ·) hs, .point hds⟩
  · cases h
    exact ⟨[], rfl, .absent⟩

theorem readExponent_eq_some {s : List Char} {e : Option (Bool × List Char)}
    {r : { r : List Char // r.length ≤ s.length }} (h : readExponent s = some (e, r)) :
    ∃ t, s = t ++ r.1 ∧ WritesExponent e t := by
  unfold readExponent at h
  split at h
  · cases h
    exact ⟨[], rfl, .absent⟩
  · split_ifs at h with hc
    · split at h
      all_goals
        obtain ⟨⟨es, q⟩, hdigits, hq⟩ := Option.bind_eq_some_iff.1 h
        cases hq
        obtain ⟨hs, hds⟩ := readDigits_eq_some hdigits
      · exact ⟨_ :: '-' :: es, congrArg (_ :: '-' :: ·) hs, .letter hc .minus hds⟩
      · exact ⟨_ :: '+' :: es, congrArg (_ :: '+' :: ·) hs, .letter hc .plus hds⟩
      · exact ⟨_ :: es, congrArg (_ :: ·) hs, .letter hc .absent hds⟩
    · cases h
      exact ⟨[], rfl, .absent⟩

theorem readMagnitude_eq_some {negative : Bool} {s : List Char} {n : RawNumber}
    {r : { r : List Char // r.length < s.length }} (h : readMagnitude negative s = some (n, r)) :
    n.negative = negative ∧ ∃ t, s = t ++ r.1 ∧ WritesMagnitude n t := by
  unfold readMagnitude at h
  obtain ⟨⟨whole, q⟩, hwhole, h⟩ := Option.bind_eq_some_iff.1 h
  obtain ⟨⟨fraction, t⟩, hfraction, h⟩ := Option.bind_eq_some_iff.1 h
  obtain ⟨⟨exponent, u⟩, hexponent, h⟩ := Option.bind_eq_some_iff.1 h
  cases h
  obtain ⟨hs, hwhole⟩ := readWhole_eq_some hwhole
  obtain ⟨f, hq, hf⟩ := readFraction_eq_some hfraction
  obtain ⟨e, ht, he⟩ := readExponent_eq_some hexponent
  refine ⟨rfl, whole ++ f ++ e, ?_, hwhole, f, e, hf, he, rfl⟩
  calc
    s = whole ++ q.1 := hs
    _ = whole ++ (f ++ t.1) := congrArg (whole ++ ·) hq
    _ = whole ++ (f ++ (e ++ u.1)) := congrArg (fun u => whole ++ (f ++ u)) ht
    _ = whole ++ f ++ e ++ u.1 := by simp only [List.append_assoc]

theorem readNumber_eq_some {s : List Char} {n : RawNumber}
    {r : { r : List Char // r.length < s.length }} (h : readNumber s = some (n, r)) :
    ∃ t, skipBlanks s = t ++ r.1 ∧ Writes n t := by
  unfold readNumber at h
  obtain ⟨⟨c, q⟩, hmark, h⟩ := Option.bind_eq_some_iff.1 h
  have hs := readMark_eq_some hmark
  dsimp only at h
  split_ifs at h with hc
  all_goals
    obtain ⟨⟨m, u⟩, hmagnitude, hu⟩ := Option.bind_eq_some_iff.1 h
    cases hu
    obtain ⟨hnegative, t, ht, hwrites⟩ := readMagnitude_eq_some hmagnitude
  · refine ⟨'-' :: t, ?_, .minus hnegative hwrites⟩
    rw [hs, hc]
    exact congrArg ('-' :: ·) ht
  · exact ⟨t, hs.trans ht, .plain hnegative hwrites⟩

/-- A value that is a number was read by the reader of numbers: the other readers give values of
other kinds. -/
theorem readNumber_of_read {s : List Char} {n : RawNumber}
    {r : { r : List Char // r.length < s.length }} (h : read s = some (.number n, r)) :
    readNumber s = some (n, r) := by
  unfold read at h
  obtain ⟨⟨c, q⟩, -, h⟩ := Option.bind_eq_some_iff.1 h
  dsimp only at h
  split_ifs at h with hquote hbracket hbrace
  case neg =>
    obtain ⟨p, hp, h⟩ := Option.bind_eq_some_iff.1 h
    cases h
    exact hp
  all_goals obtain ⟨p, -, h⟩ := Option.bind_eq_some_iff.1 h
  · cases h
  iterate 2
    split_ifs at h
    · cases h
    · obtain ⟨items, -, h⟩ := Option.bind_eq_some_iff.1 h
      cases h
  all_goals cases h

end Raw

/-! ## The characters of a numeral -/

/-- The characters that a number is written with. -/
def isNumeral (c : Char) : Bool :=
  c.isDigit || c == '-' || c == '+' || c == '.' || c == 'e' || c == 'E'

theorem IsDigits.isNumeral {s : List Char} (h : IsDigits s) : ∀ c ∈ s, isNumeral c = true := by
  intro c hc
  simp only [Json.isNumeral, h.2 c hc, Bool.true_or]

theorem WritesSign.mem {negative : Bool} {sign : List Char} (h : WritesSign negative sign) {c : Char}
    (hc : c ∈ sign) : c = '+' ∨ c = '-' := by
  cases h with
  | absent => exact absurd hc List.not_mem_nil
  | plus => exact .inl (List.mem_singleton.1 hc)
  | minus => exact .inr (List.mem_singleton.1 hc)

theorem WritesFraction.isNumeral {ds s : List Char} (h : WritesFraction ds s) :
    ∀ c ∈ s, isNumeral c = true := by
  cases h with
  | absent => exact fun c hc => absurd hc List.not_mem_nil
  | point h => exact List.forall_mem_cons.2 ⟨rfl, h.isNumeral⟩

theorem WritesExponent.isNumeral {e : Option (Bool × List Char)} {s : List Char}
    (h : WritesExponent e s) : ∀ c ∈ s, isNumeral c = true := by
  cases h with
  | absent => exact fun c hc => absurd hc List.not_mem_nil
  | letter hc hsign h =>
    refine List.forall_mem_cons.2 ⟨?_, List.forall_mem_append.2 ⟨?_, h.isNumeral⟩⟩
    · rcases hc with rfl | rfl <;> rfl
    · intro c hc
      rcases hsign.mem hc with rfl | rfl <;> rfl

theorem WritesMagnitude.isNumeral {r : RawNumber} {s : List Char} (h : WritesMagnitude r s) :
    ∀ c ∈ s, isNumeral c = true := by
  obtain ⟨f, e, hf, he, rfl⟩ := h.parts
  exact List.forall_mem_append.2
    ⟨List.forall_mem_append.2 ⟨h.whole.isNumeral, hf.isNumeral⟩, he.isNumeral⟩

theorem Writes.isNumeral {r : RawNumber} {s : List Char} (h : Writes r s) :
    ∀ c ∈ s, isNumeral c = true := by
  cases h with
  | plain hsign h => exact h.isNumeral
  | minus hsign h => exact List.forall_mem_cons.2 ⟨rfl, h.isNumeral⟩

theorem not_isBlank_of_isNumeral {c : Char} (h : isNumeral c = true) : Text.isBlank c = false := by
  simp only [isNumeral, Bool.or_eq_true, beq_iff_eq] at h
  rcases h with ((((h | rfl) | rfl) | rfl) | rfl) | rfl
  · exact Text.not_isBlank_of_isDigit h
  all_goals rfl

theorem not_isStructural_of_isNumeral {c : Char} (h : isNumeral c = true) :
    Literal.isStructural c = false := by
  rw [← Bool.not_eq_true]
  intro hc
  simp only [Literal.isStructural, Bool.or_eq_true, beq_iff_eq] at hc
  rcases hc with (((((rfl | rfl) | rfl) | rfl) | rfl) | rfl) | rfl <;> exact absurd h (by decide)

theorem escapeTail_of_isNumeral {s : List Char} (h : ∀ c ∈ s, isNumeral c = true) :
    Literal.escapeTail s = s := by
  induction s with
  | nil => rfl
  | cons c s ih =>
    have hc := h c List.mem_cons_self
    rw [Literal.escapeTail, not_isStructural_of_isNumeral hc, not_isBlank_of_isNumeral hc,
      ih fun d hd => h d (List.mem_cons_of_mem c hd)]
    rfl

/-- Nothing of a number has to be escaped. -/
theorem escape_of_isNumeral {s : List Char} (h : ∀ c ∈ s, isNumeral c = true) :
    Literal.escape s = s := by
  have hnull : s ≠ Literal.nullWord.toList := by
    rintro rfl
    exact absurd (h 'n' (by decide)) (by decide)
  have htail := escapeTail_of_isNumeral h
  cases s with
  | nil => rfl
  | cons c s =>
    have hc := h c List.mem_cons_self
    have hstar : (c == '*') = false := by
      rw [beq_eq_false_iff_ne]
      rintro rfl
      exact absurd hc (by decide)
    rw [Literal.escape, if_neg hnull, not_isStructural_of_isNumeral hc, not_isBlank_of_isNumeral hc,
      hstar, escapeTail_of_isNumeral fun d hd => h d (List.mem_cons_of_mem c hd)]
    rfl

/-! ## Texts that are numbers -/

theorem isBlank_of_raw {c : Char} (h : Raw.isBlank c = true) : Text.isBlank c = true := by
  simp only [Raw.isBlank, Bool.or_eq_true, beq_iff_eq] at h
  rcases h with ((rfl | rfl) | rfl) | rfl <;> rfl

end Json

/-- A text that trimming leaves as it is has no blank at its beginning and none at its end. -/
theorem Text.dropWhile_eq_of_trim_eq {s : List Char} (h : trim s = s) :
    s.dropWhile isBlank = s ∧ s.reverse.dropWhile isBlank = s.reverse := by
  have hstart : trimStart s = s := by
    refine (List.dropWhile_suffix isBlank).eq_of_length_le ?_
    have hend := (List.dropWhile_suffix (l := (trimStart s).reverse) isBlank).length_le
    rw [← List.length_reverse, ← trimEnd, ← trim, h, List.length_reverse] at hend
    exact hend
  refine ⟨hstart, ?_⟩
  rw [trim, hstart, trimEnd, List.reverse_eq_iff] at h
  exact h

namespace Json

theorem not_isBlank_of_dropWhile_eq {c : Char} {s : List Char}
    (h : (c :: s).dropWhile Text.isBlank = c :: s) : Raw.isBlank c = false := by
  rw [← Bool.not_eq_true]
  intro hraw
  rw [List.dropWhile_cons_of_pos (isBlank_of_raw hraw)] at h
  have hlength := (List.dropWhile_suffix (l := s) Text.isBlank).length_le
  rw [h] at hlength
  exact Nat.not_succ_le_self _ hlength

theorem skipBlanks_eq_of_dropWhile_eq {s : List Char} (h : s.dropWhile Text.isBlank = s) :
    Raw.skipBlanks s = s := by
  cases s with
  | nil => rfl
  | cons c s =>
    rw [Raw.skipBlanks, List.dropWhile_cons_of_neg]
    rw [not_isBlank_of_dropWhile_eq h]
    exact Bool.false_ne_true

/-- A number that is read from a text without blanks around it is written as the text. -/
theorem writes_of_ofText? {text : String} {n : RawNumber}
    (htrim : Text.trim text.toList = text.toList) (h : Raw.ofText? text = some (.number n)) :
    Writes n text.toList := by
  obtain ⟨hstart, hend⟩ := Text.dropWhile_eq_of_trim_eq htrim
  unfold Raw.ofText? at h
  split at h
  · rename_i v r hr hread
    split_ifs at h with hblank
    cases h
    obtain ⟨t, ht, hwrites⟩ := Raw.readNumber_eq_some (Raw.readNumber_of_read hread)
    have ht : text.toList = t ++ r := (skipBlanks_eq_of_dropWhile_eq hstart).symm.trans ht
    rcases List.eq_nil_or_concat r with rfl | ⟨u, c, rfl⟩
    · rwa [ht, List.append_nil]
    · -- the last character would be blank, though trimming takes none away
      have hlast : Raw.isBlank c = false := by
        rw [ht, List.concat_eq_append, List.reverse_append, List.reverse_append] at hend
        exact not_isBlank_of_dropWhile_eq hend
      have hc := List.dropWhile_eq_nil_iff.1 (List.isEmpty_iff.1 hblank) c (by simp)
      rw [hlast] at hc
      cases hc
  · cases h

end Json

end RecordFilter
