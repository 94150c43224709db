import Mathlib.Data.List.TakeWhile
import RecordFilter.Proofs.Text.Trim
import RecordFilter.Text.Lowercase

/-!
# Small letters of ASCII

Only the 26 capital letters have a small form in ASCII, so a text keeps its blanks, and its
characters outside ASCII, when it is lowered.
-/

namespace RecordFilter.Text

theorem toNat_toLower (c : Char) :
    c.toLower.toNat = if 65 ≤ c.toNat ∧ c.toNat ≤ 90 then c.toNat + 32 else c.toNat := by
  have hrange : ('A'.val ≤ c.val ∧ c.val ≤ 'Z'.val) ↔ 65 ≤ c.toNat ∧ c.toNat ≤ 90 := by
    simp only [UInt32.le_iff_toNat_le]
    rfl
  unfold Char.toLower
  by_cases h : 65 ≤ c.toNat ∧ c.toNat ≤ 90
  · rw [dif_pos (hrange.2 h), if_pos h]
    show (c.val + 32).toNat = c.val.toNat + 32
    have hle : c.val.toNat ≤ 90 := h.2
    rw [UInt32.toNat_add]
    exact Nat.mod_eq_of_lt (by simp; omega)
  · rw [dif_neg (mt hrange.1 h), if_neg h]

theorem toNat_toLower_lt_iff {c : Char} : c.toLower.toNat < 128 ↔ c.toNat < 128 := by
  rw [toNat_toLower]
  split_ifs <;> omega

theorem isBlank_toLower (c : Char) : isBlank c.toLower = isBlank c := by
  have hlower := toNat_toLower c
  split_ifs at hlower with h
  · rw [not_isBlank_of_lt (c := c) (by omega) (by omega), not_isBlank_of_lt (by omega) (by omega)]
  · rw [Char.toNat_inj.1 hlower]

theorem trim_map_toLower (s : List Char) :
    trim (s.map Char.toLower) = (trim s).map Char.toLower := by
  have hblank : isBlank ∘ Char.toLower = isBlank := funext isBlank_toLower
  simp only [trim, trimStart, trimEnd, List.dropWhile_map, ← List.map_reverse, hblank]

/-- Texts that differ in case only have blanks at their ends alike. -/
theorem trim_eq_self_of_map_toLower {s t : List Char}
    (h : s.map Char.toLower = t.map Char.toLower) (ht : trim t = t) : trim s = s := by
  have hsub : (trim s).Sublist s :=
    (List.rdropWhile_prefix isBlank (trimStart s)).sublist.trans (List.dropWhile_sublist isBlank)
  have hlength : (trim s).length = s.length := by
    rw [← List.length_map Char.toLower, ← trim_map_toLower, h, trim_map_toLower, ht, ← h,
      List.length_map]
  exact hsub.eq_of_length hlength

end RecordFilter.Text
