import Mathlib.Data.String.Basic
import Mathlib.Tactic.SplitIfs
import RecordFilter.Value

/-!
# The order of texts

Texts are compared by their characters, and that is the order of their bytes in UTF-8.
-/

namespace RecordFilter

namespace Text

/-- The bytes of a text in UTF-8. -/
def bytes (s : String) : List UInt8 :=
  s.toByteArray.data.toList

theorem bytes_eq (s : String) : bytes s = s.toList.flatMap String.utf8EncodeChar := by
  rw [bytes, ← String.utf8Encode_toList, List.utf8Encode, List.toList_data_toByteArray]

section Lexicographic

variable {l m : List UInt8}

theorem compare_cons_eq_lt_iff {a b : Nat} (ha : a < 256) (hb : b < 256) :
    compare (UInt8.ofNat a :: l) (UInt8.ofNat b :: m) = .lt ↔
      a < b ∨ a = b ∧ compare l m = .lt := by
  have hlt : UInt8.ofNat a < UInt8.ofNat b ↔ a < b := by
    rw [UInt8.lt_iff_toNat_lt, UInt8.toNat_ofNat_of_lt' ha, UInt8.toNat_ofNat_of_lt' hb]
  have heq : UInt8.ofNat a = UInt8.ofNat b ↔ a = b := by
    rw [← UInt8.toNat_inj, UInt8.toNat_ofNat_of_lt' ha, UInt8.toNat_ofNat_of_lt' hb]
  rw [List.compare_cons_cons, Ordering.then_eq_lt, Std.compare_eq_lt, hlt,
    Std.LawfulEqOrd.compare_eq_iff_eq, heq]

theorem compare_append_left (k : List UInt8) : compare (k ++ l) (k ++ m) = compare l m := by
  induction k with
  | nil => rfl
  | cons a k ih =>
    rw [List.cons_append, List.cons_append, List.compare_cons_cons, ih,
      Std.ReflOrd.compare_self]
    rfl

/-- The first byte of a character tells how many there are, and they all keep the order. -/
theorem compare_utf8EncodeChar {c d : Char} (h : c < d) :
    compare (String.utf8EncodeChar c ++ l) (String.utf8EncodeChar d ++ m) = .lt := by
  have hlt : c.val.toNat < d.val.toNat := h
  have hd : d.val.toNat < 1114112 := by
    have := d.valid
    simp only [UInt32.isValidChar, Nat.isValidChar] at this
    omega
  -- what the four bytes carry is the whole number
  have hsum : ∀ v < 1114112, v = v / 262144 % 8 * 262144 + v / 4096 % 64 * 4096 +
      v / 64 % 64 * 64 + v % 64 := by omega
  have hcsum := hsum c.val.toNat (by omega)
  have hdsum := hsum d.val.toNat hd
  unfold String.utf8EncodeChar
  dsimp only
  split_ifs <;> try omega
  all_goals
    simp (disch := omega) only [List.cons_append, List.nil_append, compare_cons_eq_lt_iff]
    omega

theorem compare_flatMap {s t : List Char} (h : s < t) :
    compare (s.flatMap String.utf8EncodeChar) (t.flatMap String.utf8EncodeChar) = .lt := by
  induction h with
  | @nil d t =>
    obtain ⟨b, k, hk⟩ := List.exists_cons_of_ne_nil String.utf8EncodeChar_ne_nil
    rw [List.flatMap_cons, hk]
    rfl
  | cons h ih =>
    rw [List.flatMap_cons, List.flatMap_cons, compare_append_left]
    exact ih
  | rel h =>
    rw [List.flatMap_cons, List.flatMap_cons]
    exact compare_utf8EncodeChar h

end Lexicographic

/-- Texts are in the order of their bytes. -/
theorem compare_bytes (s t : String) : compare (bytes s) (bytes t) = compare s t := by
  rcases lt_trichotomy s t with h | rfl | h
  · rw [compare_lt_iff_lt.2 h, bytes_eq, bytes_eq]
    exact compare_flatMap h
  · rw [Std.ReflOrd.compare_self, Std.ReflOrd.compare_self]
  · rw [compare_gt_iff_gt.2 h, bytes_eq, bytes_eq, Std.OrientedOrd.eq_swap, compare_flatMap h]
    rfl

end Text

end RecordFilter
