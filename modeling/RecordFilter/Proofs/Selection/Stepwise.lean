import Mathlib.Tactic.SplitIfs
import RecordFilter.Selection

/-!
# Selecting at once and step by step

The records that match are selected in their order, each once (`Predicate.map_getElem?_positions`).
Asked for the next one again and again, a selection gives the same records, then nothing, and has
always read its source just up to the record that it gave last (`Selection.calls_eq`).
-/

namespace RecordFilter

variable {α : Type}

namespace Predicate

variable (p : Predicate α)

/-! ## Places -/

theorem positions_eq (xs : List α) :
    p.positions xs = (xs.zipIdx.filter fun e => p.holds e.1).map Prod.snd := by
  unfold positions
  rw [← List.filterMap_eq_map, List.filterMap_filter]
  rfl

theorem pairwise_positions (xs : List α) : (p.positions xs).Pairwise (· < ·) := by
  have hall : (xs.zipIdx.map Prod.snd).Pairwise (· < ·) := by
    rw [List.zipIdx_map_snd]
    exact List.pairwise_lt_range' 1
  rw [positions_eq]
  exact hall.sublist (List.filter_sublist.map _)

theorem mem_positions_iff (xs : List α) (i : Nat) :
    i ∈ p.positions xs ↔ ∃ x, xs[i]? = some x ∧ p.holds x = true := by
  rw [positions_eq, List.mem_map]
  constructor
  · rintro ⟨e, he, rfl⟩
    obtain ⟨hmem, hholds⟩ := List.mem_filter.1 he
    exact ⟨e.1, List.mem_zipIdx_iff_getElem?.1 hmem, hholds⟩
  · rintro ⟨x, hx, hholds⟩
    exact ⟨(x, i), List.mem_filter.2 ⟨List.mem_zipIdx_iff_getElem?.2 hx, hholds⟩, rfl⟩

/-- At the places of the records that match stand the records that are selected. -/
theorem map_getElem?_positions (xs : List α) :
    (p.positions xs).map (xs[·]?) = (p.select xs).map some := by
  have hselect : p.select xs = (xs.zipIdx.filter fun e => p.holds e.1).map Prod.fst := by
    have hfilter := List.filter_map (f := Prod.fst) (p := p.holds) (l := xs.zipIdx)
    rwa [List.zipIdx_map_fst] at hfilter
  rw [positions_eq, hselect, List.map_map, List.map_map]
  refine List.map_congr_left fun e he => ?_
  exact List.mem_zipIdx_iff_getElem?.1 (List.mem_filter.1 he).1

theorem positions_append (xs ys : List α) :
    p.positions (xs ++ ys) = p.positions xs ++ (p.positions ys).map (xs.length + ·) := by
  have hshift : ys.zipIdx xs.length = ys.zipIdx.map fun e => (e.1, xs.length + e.2) :=
    List.zipIdx_eq_map_add
  rw [positions_eq, positions_eq, positions_eq, List.zipIdx_append, Nat.zero_add, hshift,
    List.filter_append, List.map_append, List.filter_map, List.map_map, List.map_map]
  rfl

/-! ## The first record that matches -/

section First

variable {skipped : List α} (hskipped : ∀ y ∈ skipped, p.holds y = false)
include hskipped

theorem select_of_forall : p.select skipped = [] :=
  List.filter_eq_nil_iff.2 fun y hy => Bool.eq_false_iff.1 (hskipped y hy)

theorem positions_of_forall : p.positions skipped = [] := by
  have hmap := p.map_getElem?_positions skipped
  rw [p.select_of_forall hskipped] at hmap
  exact List.map_eq_nil_iff.1 hmap

variable {x : α} (hx : p.holds x = true) (rest : List α)
include hx

theorem select_append_cons : p.select (skipped ++ x :: rest) = x :: p.select rest := by
  unfold select
  rw [List.filter_append, List.filter_cons_of_pos hx]
  exact congrArg (· ++ _) (p.select_of_forall hskipped)

theorem positions_append_cons : p.positions (skipped ++ x :: rest) =
    skipped.length :: (p.positions rest).map (skipped.length + 1 + ·) := by
  have hone : p.positions [x] = [0] := by simp [positions, hx]
  rw [← List.singleton_append, positions_append, positions_append, hone,
    p.positions_of_forall hskipped, List.map_append, List.map_map]
  simp only [List.nil_append, List.map_cons, List.map_nil, List.singleton_append, Nat.add_zero,
    List.length_singleton]
  exact congrArg _ (List.map_congr_left fun i _ => (Nat.add_assoc _ 1 i).symm)

end First

/-- How far a list has been read when `k` records that match were asked for: up to the last of them
that there is, or to the end if there are fewer. -/
def reading (xs : List α) : Nat → Nat
  | 0 => 0
  | k + 1 =>
    match (p.positions xs)[k]? with
    | some i => i + 1
    | none => xs.length

section Reading

variable {skipped : List α} (hskipped : ∀ y ∈ skipped, p.holds y = false)
include hskipped

theorem drop_reading_of_forall (k : Nat) : skipped.drop (p.reading skipped (k + 1)) = [] := by
  rw [reading, p.positions_of_forall hskipped]
  exact List.drop_length

theorem drop_reading_append_cons {x : α} (hx : p.holds x = true) (rest : List α) (k : Nat) :
    (skipped ++ x :: rest).drop (p.reading (skipped ++ x :: rest) (k + 1)) =
      rest.drop (p.reading rest k) := by
  have hreading : p.reading (skipped ++ x :: rest) (k + 1) =
      skipped.length + 1 + p.reading rest k := by
    rw [reading, p.positions_append_cons hskipped hx]
    cases k with
    | zero => rfl
    | succ k =>
      rw [List.getElem?_cons_succ, List.getElem?_map, reading]
      cases (p.positions rest)[k]? with
      | some i => rfl
      | none =>
        rw [List.length_append, List.length_cons]
        show skipped.length + (rest.length + 1) = skipped.length + 1 + rest.length
        omega
  rw [hreading, ← List.drop_drop, ← List.drop_drop, List.drop_left]
  rfl

end Reading

end Predicate

namespace Selection

variable (p : Predicate α)

/-! ## Steps -/

/-- Either no record of the source matches, and all of it is read, or the next record is the first
one that does, and the source is read up to it. -/
theorem next_cases (xs : List α) :
    next ⟨p, xs⟩ = (none, ⟨p, []⟩) ∧ (∀ y ∈ xs, p.holds y = false) ∨
      ∃ skipped x rest, xs = skipped ++ x :: rest ∧ (∀ y ∈ skipped, p.holds y = false) ∧
        p.holds x = true ∧ next ⟨p, xs⟩ = (some x, ⟨p, rest⟩) := by
  induction xs with
  | nil => exact .inl ⟨rfl, fun y hy => absurd hy List.not_mem_nil⟩
  | cons x xs ih =>
    cases hx : p.holds x with
    | true =>
      refine .inr ⟨[], x, xs, rfl, fun y hy => absurd hy List.not_mem_nil, hx, ?_⟩
      rw [next, find, if_pos hx]
    | false =>
      have hnext : next ⟨p, x :: xs⟩ = next ⟨p, xs⟩ := by
        rw [next, find, if_neg (Bool.eq_false_iff.1 hx)]
        rfl
      rw [hnext]
      rcases ih with ⟨hnone, hall⟩ | ⟨skipped, z, rest, rfl, hskipped, hz, hsome⟩
      · exact .inl ⟨hnone, List.forall_mem_cons.2 ⟨hx, hall⟩⟩
      · exact .inr ⟨x :: skipped, z, rest, rfl, List.forall_mem_cons.2 ⟨hx, hskipped⟩, hz, hsome⟩

/-! ## Runs -/

/-- The answers to `k` questions for the next record, and what is left after them. -/
def calls (s : Selection α) : Nat → List (Option α) × Selection α
  | 0 => ([], s)
  | k + 1 =>
    let (found, t) := s.next
    let (answers, u) := t.calls k
    (found :: answers, u)

theorem calls_succ {s t : Selection α} {found : Option α} (h : s.next = (found, t)) (k : Nat) :
    s.calls (k + 1) = (found :: (t.calls k).1, (t.calls k).2) := by
  rw [calls, h]

/-- The answers are the records that match, one after another, and then nothing. -/
theorem calls_eq (k : Nat) (xs : List α) : calls ⟨p, xs⟩ k =
    ((List.range k).map ((p.select xs)[·]?), ⟨p, xs.drop (p.reading xs k)⟩) := by
  induction k generalizing xs with
  | zero => rfl
  | succ k ih =>
    rw [List.range_succ_eq_map, List.map_cons, List.map_map]
    rcases next_cases p xs with ⟨hnext, hall⟩ | ⟨skipped, x, rest, rfl, hskipped, hx, hnext⟩
    · rw [calls_succ hnext, ih, p.select_of_forall hall, p.drop_reading_of_forall hall,
        List.drop_nil]
      rfl
    · rw [calls_succ hnext, ih, p.select_append_cons hskipped hx,
        p.drop_reading_append_cons hskipped hx]
      rfl

/-- The records still to come are those that were not given yet. -/
theorem select_drop_reading (k : Nat) (xs : List α) :
    p.select (xs.drop (p.reading xs k)) = (p.select xs).drop k := by
  induction k generalizing xs with
  | zero => rfl
  | succ k ih =>
    rcases next_cases p xs with ⟨-, hall⟩ | ⟨skipped, x, rest, rfl, hskipped, hx, -⟩
    · rw [p.drop_reading_of_forall hall, p.select_of_forall hall]
      rfl
    · rw [p.drop_reading_append_cons hskipped hx, p.select_append_cons hskipped hx, ih]
      rfl

/-! ## Bounds -/

/-- The number is not below the lower bound, and not above the upper one if there is one. -/
def Encloses (bounds : Nat × Option Nat) (n : Nat) : Prop :=
  bounds.1 ≤ n ∧ ∀ upper ∈ bounds.2, n ≤ upper

/-- Bounds on the source give bounds on the records of it that match. -/
theorem encloses_sizeBounds (xs : List α) {bounds : Nat × Option Nat}
    (h : Encloses bounds xs.length) :
    Encloses (sizeBounds ⟨p, xs⟩ bounds.2) (p.select xs).length :=
  ⟨Nat.zero_le _, fun upper hupper => Nat.le_trans (List.length_filter_le _ _) (h.2 upper hupper)⟩

end Selection

/-- What selecting from a list gives, at once, as places and step by step. -/
structure Predicate.SelectsAlike (p : Predicate α) (xs : List α) : Prop where
  pairwise : (p.positions xs).Pairwise (· < ·)
  mem_iff : ∀ i, i ∈ p.positions xs ↔ ∃ x, xs[i]? = some x ∧ p.holds x = true
  getElem? : (p.positions xs).map (xs[·]?) = (p.select xs).map some
  calls : ∀ k, Selection.calls ⟨p, xs⟩ k =
    ((List.range k).map ((p.select xs)[·]?), ⟨p, xs.drop (p.reading xs k)⟩)
  bounds : ∀ k bounds, Selection.Encloses bounds (Selection.calls ⟨p, xs⟩ k).2.source.length →
    Selection.Encloses ((Selection.calls ⟨p, xs⟩ k).2.sizeBounds bounds.2)
      ((p.select xs).length - k)

theorem Predicate.selectsAlike (p : Predicate α) (xs : List α) : p.SelectsAlike xs where
  pairwise := p.pairwise_positions xs
  mem_iff := p.mem_positions_iff xs
  getElem? := p.map_getElem?_positions xs
  calls k := Selection.calls_eq p k xs
  bounds k bounds h := by
    rw [Selection.calls_eq] at h ⊢
    rw [← List.length_drop, ← Selection.select_drop_reading]
    exact Selection.encloses_sizeBounds p _ h

/-- A filter text is refused in all three ways with one error, whatever the records are, or all
three select the same records. -/
theorem Mapper.selects_alike (m : Mapper α) (filter : String) :
    (∃ e, m.compile filter = .error e ∧ ∀ xs, m.apply filter xs = .error e ∧
      m.positions filter xs = .error e ∧ m.selection filter xs = .error e) ∨
    ∃ p, m.compile filter = .ok p ∧ ∀ xs, m.apply filter xs = .ok (p.select xs) ∧
      m.positions filter xs = .ok (p.positions xs) ∧ m.selection filter xs = .ok ⟨p, xs⟩ ∧
      p.SelectsAlike xs := by
  unfold Mapper.apply Mapper.positions Mapper.selection
  cases m.compile filter with
  | error e => exact .inl ⟨e, rfl, fun xs => ⟨rfl, rfl, rfl⟩⟩
  | ok p => exact .inr ⟨p, rfl, fun xs => ⟨rfl, rfl, rfl, p.selectsAlike xs⟩⟩

end RecordFilter
