import Mathlib.Tactic.SplitIfs

/-!
# Splitting at a separator

The texts between separators hold none, and every function that begins a new text at each separator
is the splitting of lists.
-/

namespace RecordFilter.Text

variable {sep : Char} {s : List Char}

theorem not_mem_of_mem_splitOn {part : List Char} (h : part ∈ s.splitOn sep) : sep ∉ part := by
  induction s generalizing part with
  | nil =>
    rw [List.splitOn_nil, List.mem_singleton] at h
    exact h ▸ List.not_mem_nil
  | cons c r ih =>
    rw [List.splitOn_cons_eq_if_modifyHead] at h
    split_ifs at h with hc
    · rcases List.mem_cons.1 h with rfl | h
      · exact List.not_mem_nil
      · exact ih h
    · obtain ⟨first, rest, hr⟩ := List.exists_cons_of_ne_nil (List.splitOn_ne_nil sep r)
      rw [hr, List.modifyHead_cons] at h
      rcases List.mem_cons.1 h with rfl | h
      · rw [List.mem_cons, not_or]
        exact ⟨fun heq => hc (beq_iff_eq.2 heq.symm), ih (hr ▸ List.mem_cons_self)⟩
      · exact ih (hr ▸ List.mem_cons_of_mem first h)

theorem eq_splitOn {split : List Char → List (List Char)} (hnil : split [] = [[]])
    (hcons : ∀ c r, split (c :: r) =
      if c = sep then [] :: split r
      else match split r with
        | [] => [[c]]
        | t :: ts => (c :: t) :: ts) (s : List Char) : split s = s.splitOn sep := by
  induction s with
  | nil => exact hnil
  | cons c r ih =>
    rw [hcons, ih, List.splitOn_cons_eq_if_modifyHead]
    obtain ⟨first, rest, hr⟩ := List.exists_cons_of_ne_nil (List.splitOn_ne_nil sep r)
    by_cases hc : c = sep
    · rw [if_pos hc, if_pos (beq_iff_eq.2 hc)]
    · rw [if_neg hc, if_neg (mt beq_iff_eq.1 hc), hr]
      rfl

end RecordFilter.Text
