import Mathlib.Data.List.Infix
import RecordFilter.Text.Lowercase

/-!
# Lowercase in a context

The small form of a character does not depend on what stands around it, but for the capital sigma:
it becomes the final one if the nearest characters that are not case-ignorable are cased before it
and not after it. So the small form of a text may change inside a longer one, but only in a sigma
that has nothing but case-ignorable characters between itself and an end of the text.
-/

namespace RecordFilter.Text

/-- Whether a capital sigma becomes the final one; `before` is in reverse. -/
def isFinalBetween (before after : List Char) : Bool :=
  meetsCased before && !meetsCased after

/-- The lowercase form of a text between two others; `before` is in reverse. -/
def lowerBetween (before : List Char) : List Char → List Char → List Char
  | [], _ => []
  | c :: r, after =>
    (if c = 'Σ' then [if isFinalBetween before (r ++ after) then 'ς' else 'σ'] else lowerChar c) ++
      lowerBetween (c :: before) r after

theorem lowerFrom_eq (before s : List Char) : lowerFrom before s = lowerBetween before s [] := by
  induction s generalizing before with
  | nil => rfl
  | cons c r ih => rw [lowerFrom, lowerBetween, ih, List.append_nil, isFinalBetween]

theorem lowercase_eq (s : List Char) : lowercase s = lowerBetween [] s [] :=
  lowerFrom_eq [] s

theorem lowerBetween_append (before s t after : List Char) :
    lowerBetween before (s ++ t) after =
      lowerBetween before s (t ++ after) ++ lowerBetween (s.reverse ++ before) t after := by
  induction s generalizing before with
  | nil => rfl
  | cons c r ih =>
    simp only [List.cons_append, lowerBetween, ih, List.append_assoc, List.reverse_cons,
      List.nil_append]

/-- The lowercase form of three texts put together. -/
theorem lowercase_append (b s a : List Char) :
    lowercase (b ++ s ++ a) =
      lowerBetween [] b (s ++ a) ++ lowerBetween b.reverse s a ++
        lowerFrom (s.reverse ++ b.reverse) a := by
  rw [lowercase_eq, List.append_assoc, lowerBetween_append, lowerBetween_append, lowerFrom_eq]
  simp only [List.append_nil, List.append_assoc]

/-! ## What a sigma sees -/

theorem meetsCased_append_of_mem {s : List Char} (t : List Char)
    (h : ∃ c ∈ s, isCaseIgnorable c = false) : meetsCased (s ++ t) = meetsCased s := by
  induction s with
  | nil => simp at h
  | cons c r ih =>
    unfold meetsCased at ih ⊢
    rw [List.cons_append]
    by_cases hc : isCaseIgnorable c = true
    · rw [List.dropWhile_cons_of_pos hc, List.dropWhile_cons_of_pos hc]
      refine ih ?_
      obtain ⟨d, hd, hplain⟩ := h
      rcases List.mem_cons.1 hd with rfl | hd
      · rw [hc] at hplain
        cases hplain
      · exact ⟨d, hd, hplain⟩
    · rw [List.dropWhile_cons_of_neg hc, List.dropWhile_cons_of_neg hc]
      rfl

theorem meetsCased_append_of_forall {s : List Char} (t : List Char)
    (h : ∀ c ∈ s, isCaseIgnorable c = true) : meetsCased (s ++ t) = meetsCased t := by
  unfold meetsCased
  rw [List.dropWhile_append_of_pos h]

theorem meetsCased_of_forall {s : List Char} (h : ∀ c ∈ s, isCaseIgnorable c = true) :
    meetsCased s = false := by
  have happend := meetsCased_append_of_forall [] h
  rw [List.append_nil] at happend
  rw [happend]
  rfl

theorem exists_of_meetsCased {s : List Char} (h : meetsCased s = true) :
    ∃ c ∈ s, isCaseIgnorable c = false := by
  by_contra hnone
  simp only [not_exists, not_and, Bool.not_eq_false] at hnone
  rw [meetsCased_of_forall hnone] at h
  cases h

theorem not_ignorable_sigma : isCaseIgnorable 'Σ' = false := by decide +kernel

/-- The small form of a text changes with its context only by the form of its sigmas. -/
theorem lowerBetween_congr {s b b' a a' : List Char}
    (h : ∀ u w, s = u ++ 'Σ' :: w →
      isFinalBetween (u.reverse ++ b) (w ++ a) = isFinalBetween (u.reverse ++ b') (w ++ a')) :
    lowerBetween b s a = lowerBetween b' s a' := by
  induction s generalizing b b' with
  | nil => rfl
  | cons c r ih =>
    have htail : lowerBetween (c :: b) r a = lowerBetween (c :: b') r a' := by
      refine ih fun u w hr => ?_
      have hsplit := h (c :: u) w (by rw [hr, List.cons_append])
      simpa only [List.reverse_cons, List.append_assoc, List.singleton_append] using hsplit
    rw [lowerBetween, lowerBetween, htail]
    by_cases hc : c = 'Σ'
    · have hhead := h [] r (by rw [hc, List.nil_append])
      rw [if_pos hc, if_pos hc, show isFinalBetween b (r ++ a) = isFinalBetween b' (r ++ a') from
        hhead]
    · rw [if_neg hc, if_neg hc]

theorem lowerBetween_of_forall {s : List Char} (h : ∀ c ∈ s, isCaseIgnorable c = true)
    (b b' a a' : List Char) : lowerBetween b s a = lowerBetween b' s a' := by
  refine lowerBetween_congr fun u w hs => ?_
  have hsigma := h 'Σ' (by rw [hs]; exact List.mem_append_right u List.mem_cons_self)
  rw [not_ignorable_sigma] at hsigma
  cases hsigma

/-- No sigma sees past another one. -/
theorem lowerBetween_sigma (b u w a : List Char) :
    lowerBetween b (u ++ 'Σ' :: w) a =
      lowerBetween b u ['Σ'] ++ (if isFinalBetween (u.reverse ++ b) (w ++ a) then 'ς' else 'σ') ::
        lowerBetween ['Σ'] w a := by
  have hsees : ∀ s t : List Char, meetsCased (s ++ 'Σ' :: t) = meetsCased (s ++ ['Σ']) := by
    intro s t
    have hmem : ∃ c ∈ s ++ ['Σ'], isCaseIgnorable c = false := ⟨'Σ', by simp, not_ignorable_sigma⟩
    rw [List.append_cons, meetsCased_append_of_mem t hmem]
  have hleft : lowerBetween b u ('Σ' :: w ++ a) = lowerBetween b u ['Σ'] := by
    refine lowerBetween_congr fun u' w' hu => ?_
    rw [isFinalBetween, isFinalBetween, List.cons_append, hsees w' (w ++ a)]
  have hright : lowerBetween ('Σ' :: (u.reverse ++ b)) w a = lowerBetween ['Σ'] w a := by
    refine lowerBetween_congr fun u' w' hw => ?_
    rw [isFinalBetween, isFinalBetween, hsees u'.reverse (u.reverse ++ b)]
  rw [lowerBetween_append, hleft, lowerBetween, if_pos rfl, hright]
  rfl

/-! ## Where the form of a sigma is open -/

/-- The text ends in a sigma that is final there but not if a cased character follows. -/
def EndsInFinalSigma (s : List Char) : Prop :=
  ∃ u w, s = u ++ 'Σ' :: w ∧ meetsCased u.reverse = true ∧ ∀ c ∈ w, isCaseIgnorable c = true

/-- The text begins with a sigma that is not final there but is if a cased character precedes. -/
def BeginsWithMedialSigma (s : List Char) : Prop :=
  ∃ u w, s = u ++ 'Σ' :: w ∧ (∀ c ∈ u, isCaseIgnorable c = true) ∧ meetsCased w = false

/-- A text keeps its small form in a context that cannot touch the sigmas at its ends. -/
theorem lowerBetween_eq_lowercase {b s a : List Char} (hb : b = [] ∨ ¬BeginsWithMedialSigma s)
    (ha : a = [] ∨ ¬EndsInFinalSigma s) : lowerBetween b s a = lowercase s := by
  rw [lowercase_eq]
  refine lowerBetween_congr fun u w hs => ?_
  rw [List.append_nil, List.append_nil]
  unfold isFinalBetween
  by_cases hu : ∃ c ∈ u.reverse, isCaseIgnorable c = false
  · rw [meetsCased_append_of_mem b hu]
    cases hcased : meetsCased u.reverse with
    | false => rfl
    | true =>
      rcases ha with rfl | ha
      · rw [List.append_nil]
      · have hw : ∃ c ∈ w, isCaseIgnorable c = false := by
          by_contra hnone
          simp only [not_exists, not_and, Bool.not_eq_false] at hnone
          exact ha ⟨u, w, hs, hcased, hnone⟩
        rw [meetsCased_append_of_mem a hw]
  · simp only [not_exists, not_and, Bool.not_eq_false] at hu
    rw [meetsCased_of_forall hu, meetsCased_append_of_forall b hu]
    rcases hb with rfl | hb
    · rfl
    · have hw : meetsCased w = true := by
        by_contra hnone
        rw [Bool.not_eq_true] at hnone
        exact hb ⟨u, w, hs, fun c hc => hu c (List.mem_reverse.2 hc), hnone⟩
      rw [meetsCased_append_of_mem a (exists_of_meetsCased hw), hw]
      exact Bool.and_false _

/-! ## Parts of texts -/

section Parts

variable {s : List Char}

theorem lowercase_prefix (h : ¬EndsInFinalSigma s) (t : List Char) :
    lowercase s <+: lowercase (s ++ t) := by
  have happend := lowercase_append [] s t
  rw [List.nil_append, List.reverse_nil, lowerBetween_eq_lowercase (.inl rfl) (.inr h)] at happend
  exact ⟨_, happend.symm⟩

theorem lowercase_suffix (h : ¬BeginsWithMedialSigma s) (t : List Char) :
    lowercase s <:+ lowercase (t ++ s) := by
  have happend := lowercase_append t s []
  rw [List.append_nil, lowerBetween_eq_lowercase (.inr h) (.inl rfl), lowerFrom,
    List.append_nil] at happend
  exact ⟨_, happend.symm⟩

theorem lowercase_infix (hb : ¬BeginsWithMedialSigma s) (he : ¬EndsInFinalSigma s)
    (t u : List Char) : lowercase s <:+: lowercase (t ++ s ++ u) := by
  have happend := lowercase_append t s u
  rw [lowerBetween_eq_lowercase (.inr hb) (.inr he)] at happend
  exact ⟨_, _, happend.symm⟩

/-- No part of a text has a character more often than the text. -/
theorem not_infix_of_swap {x y : Char} (hxy : x ≠ y) {a b u w : List Char} (ha : x ∉ a)
    (hb : x ∉ b) : ¬u ++ x :: w <:+: a ++ (u ++ y :: w) ++ b := by
  intro h
  have hcount := h.sublist.count_le x
  simp only [List.count_append, List.count_cons_self, List.count_cons_of_ne hxy.symm,
    List.count_eq_zero_of_not_mem ha, List.count_eq_zero_of_not_mem hb] at hcount
  omega

/-- A small letter, which stays as it is and is seen by every sigma next to it. -/
theorem lowerBetween_letter (b a : List Char) : lowerBetween b ['a'] a = ['a'] := rfl

theorem meetsCased_letter : meetsCased ['a'] = true := by decide +kernel

/-- The final sigma is not found before a cased letter. -/
theorem exists_not_infix_of_endsInFinalSigma (h : EndsInFinalSigma s) :
    ∃ t, ¬lowercase s <:+: lowercase (s ++ t) := by
  obtain ⟨u, w, rfl, hu, hw⟩ := h
  have hfinal : isFinalBetween u.reverse w = true := by
    rw [isFinalBetween, hu, meetsCased_of_forall hw]
    rfl
  have hmedial : isFinalBetween u.reverse (w ++ ['a']) = false := by
    rw [isFinalBetween, hu, meetsCased_append_of_forall _ hw, meetsCased_letter]
    rfl
  have halone : lowercase (u ++ 'Σ' :: w) =
      lowerBetween [] u ['Σ'] ++ 'ς' :: lowerBetween ['Σ'] w [] := by
    rw [lowercase_eq, lowerBetween_sigma, List.append_nil, List.append_nil, if_pos hfinal]
  have hinside : lowercase (u ++ 'Σ' :: w ++ ['a']) =
      [] ++ (lowerBetween [] u ['Σ'] ++ 'σ' :: lowerBetween ['Σ'] w []) ++ ['a'] := by
    rw [lowercase_eq, lowerBetween_append, lowerBetween_letter, List.append_nil,
      lowerBetween_sigma, List.append_nil, hmedial, lowerBetween_of_forall hw ['Σ'] ['Σ'] ['a'] []]
    rfl
  refine ⟨['a'], ?_⟩
  rw [halone, hinside]
  exact not_infix_of_swap (by decide) (by decide) (by decide)

/-- The medial sigma is not found behind a cased letter. -/
theorem exists_not_infix_of_beginsWithMedialSigma (h : BeginsWithMedialSigma s) :
    ∃ t, ¬lowercase s <:+: lowercase (t ++ s) := by
  obtain ⟨u, w, rfl, hu, hw⟩ := h
  have hu' : ∀ c ∈ u.reverse, isCaseIgnorable c = true := fun c hc => hu c (List.mem_reverse.1 hc)
  have hmedial : isFinalBetween u.reverse w = false := by
    rw [isFinalBetween, meetsCased_of_forall hu']
    rfl
  have hfinal : isFinalBetween (u.reverse ++ ['a']) w = true := by
    rw [isFinalBetween, hw, meetsCased_append_of_forall _ hu', meetsCased_letter]
    rfl
  have halone : lowercase (u ++ 'Σ' :: w) =
      lowerBetween [] u ['Σ'] ++ 'σ' :: lowerBetween ['Σ'] w [] := by
    rw [lowercase_eq, lowerBetween_sigma, List.append_nil, List.append_nil, hmedial]
    rfl
  have hinside : lowercase (['a'] ++ (u ++ 'Σ' :: w)) =
      ['a'] ++ (lowerBetween [] u ['Σ'] ++ 'ς' :: lowerBetween ['Σ'] w []) ++ [] := by
    rw [lowercase_eq, lowerBetween_append, lowerBetween_letter, List.append_nil, List.append_nil,
      lowerBetween_sigma, List.append_nil, List.reverse_singleton, if_pos hfinal,
      lowerBetween_of_forall hu ['a'] [] ['Σ'] ['Σ']]
  refine ⟨['a'], ?_⟩
  rw [halone, hinside]
  exact not_infix_of_swap (by decide) (by decide) (by decide)

end Parts

end RecordFilter.Text
