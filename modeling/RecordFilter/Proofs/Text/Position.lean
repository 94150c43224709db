import Mathlib
import RecordFilter.Text.Position

/-!
# Places and lines

A place is the same whether it is reached step by step or found from the text before it
(`after_behind`), and its line and column are those of its byte offset (`lineColumn_byteLength`).
The line with that number begins with what stands before the place on its line, and goes on with
what stands behind it (`line_at`).
-/

namespace RecordFilter.Text

/-! ## Bytes -/

@[simp] theorem byteLength_nil : byteLength [] = 0 := rfl

theorem byteLength_cons (c : Char) (s : List Char) :
    byteLength (c :: s) = c.utf8Size + byteLength s := rfl

theorem byteLength_eq_utf8Len (s : List Char) : byteLength s = String.utf8Len s := by
  induction s with
  | nil => rfl
  | cons c s ih => rw [byteLength_cons, String.utf8Len_cons, ih, Nat.add_comm]

theorem byteLength_append (s t : List Char) :
    byteLength (s ++ t) = byteLength s + byteLength t := by
  rw [byteLength_eq_utf8Len, String.utf8Len_append, ← byteLength_eq_utf8Len,
    ← byteLength_eq_utf8Len]

theorem byteLength_toList (s : String) : byteLength s.toList = s.utf8ByteSize := by
  rw [byteLength_eq_utf8Len, String.utf8Len_toList]

theorem byteLength_pos {s : List Char} (h : s ≠ []) : 0 < byteLength s := by
  cases s with
  | nil => exact absurd rfl h
  | cons c s =>
    rw [byteLength_cons]
    exact Nat.add_pos_left c.utf8Size_pos _

theorem byteLength_of_ascii {s : List Char} (h : ∀ c ∈ s, c.toNat < 128) :
    byteLength s = s.length := by
  induction s with
  | nil => rfl
  | cons c s ih =>
    obtain ⟨hc, hs⟩ := List.forall_mem_cons.1 h
    have hle : c.val.toNat ≤ 127 := by
      have hlt : c.val.toNat < 128 := hc
      omega
    have hsize : c.utf8Size = 1 := Char.utf8Size_eq_one_iff.2 (UInt32.le_iff_toNat_le.2 hle)
    rw [byteLength_cons, ih hs, hsize, List.length_cons, Nat.add_comm]

/-- Of two beginnings of a text the one with fewer bytes is a beginning of the other. -/
theorem exists_append_of_byteLength_le {s t u v : List Char} (h : s ++ u = t ++ v)
    (hle : byteLength s ≤ byteLength t) : ∃ w, t = s ++ w ∧ u = w ++ v := by
  rcases List.append_eq_append_iff.1 h with ⟨w, ht, hu⟩ | ⟨w, hs, hv⟩
  · exact ⟨w, ht, hu⟩
  · rw [hs, byteLength_append] at hle
    have hw : w = [] := by
      by_contra hne
      have hpos := byteLength_pos hne
      omega
    rw [hw, List.append_nil] at hs
    rw [hw, List.nil_append] at hv
    exact ⟨[], by rw [hs, List.append_nil], hv.symm⟩

section Split

variable {input : String} {before rest : List Char} (h : input.toList = before ++ rest)
include h

theorem eq_of_split : input = String.ofList (before ++ rest) := by
  rw [← h, String.ofList_toList]

/-- Between two characters is a boundary. -/
theorem isValid_byteLength : String.Pos.Raw.IsValid input ⟨byteLength before⟩ := by
  refine String.Pos.Raw.isValid_iff_exists_append.2
    ⟨String.ofList before, String.ofList rest, ?_, ?_⟩
  · rw [eq_of_split h, String.ofList_append]
  · rw [byteLength_eq_utf8Len, String.rawEndPos_ofList]

theorem get?_byteLength : String.Pos.Raw.get? input ⟨byteLength before⟩ = rest.head? := by
  rw [eq_of_split h, byteLength_eq_utf8Len]
  exact String.get?_of_valid before rest

theorem extract_byteLength :
    String.Pos.Raw.extract input 0 ⟨byteLength before⟩ = String.ofList before := by
  have hextract := String.extract_of_valid [] before rest
  rw [List.nil_append, String.utf8Len_nil, Nat.zero_add, ← byteLength_eq_utf8Len] at hextract
  rw [eq_of_split h]
  exact hextract

end Split

theorem extract_between {input : String} {before lexeme rest : List Char}
    (h : input.toList = before ++ (lexeme ++ rest)) :
    String.Pos.Raw.extract input ⟨byteLength before⟩ ⟨byteLength before + byteLength lexeme⟩ =
      String.ofList lexeme := by
  rw [eq_of_split h, ← List.append_assoc, byteLength_eq_utf8Len, byteLength_eq_utf8Len]
  exact String.extract_of_valid before lexeme rest

/-- Every boundary is between two characters. -/
theorem exists_split_of_isValid {input : String} {n : Nat}
    (h : String.Pos.Raw.IsValid input ⟨n⟩) :
    ∃ before rest, input.toList = before ++ rest ∧ byteLength before = n := by
  obtain ⟨s, t, rfl, hn⟩ := String.Pos.Raw.isValid_iff_exists_append.1 h
  refine ⟨s.toList, t.toList, String.toList_append, ?_⟩
  rw [byteLength_toList]
  exact (congrArg String.Pos.Raw.byteIdx hn).symm

/-! ## Slices -/

theorem slice?_between {s : String} {front cut rest : List Char}
    (h : s.toList = front ++ (cut ++ rest)) :
    slice? s (byteLength front) (byteLength front + byteLength cut) =
      some (String.ofList cut) := by
  have hstop : s.toList = (front ++ cut) ++ rest := by rw [h, List.append_assoc]
  rw [slice?, if_pos, extract_between h]
  refine ⟨isValid_byteLength h, ?_, Nat.le_add_right _ _⟩
  rw [← byteLength_append]
  exact isValid_byteLength hstop

theorem slice?_front {s : String} {front rest : List Char} (h : s.toList = front ++ rest) :
    slice? s 0 (byteLength front) = some (String.ofList front) := by
  have hslice := @slice?_between s [] front rest h
  rwa [byteLength_nil, Nat.zero_add] at hslice

/-! ## Places -/

namespace Position

theorem columnBehind_concat (s : List Char) (c : Char) :
    columnBehind (s ++ [c]) = if c = '\n' then 1 else columnBehind s + 1 := by
  unfold columnBehind
  rw [List.reverse_append, List.reverse_singleton, List.singleton_append, List.takeWhile_cons]
  split_ifs <;> simp_all

theorem behind_step (s : List Char) (c : Char) : (behind s).step c = behind (s ++ [c]) := by
  unfold step behind lineBehind
  rw [byteLength_append, columnBehind_concat, List.count_append]
  split_ifs with hc
  · simp [hc, byteLength_cons]
  · simp [hc, byteLength_cons]

/-- A place is found step by step as from the whole text before it. -/
theorem after_behind (s t : List Char) : (behind s).after t = behind (s ++ t) := by
  induction t generalizing s with
  | nil => rw [List.append_nil]; rfl
  | cons c t ih =>
    show ((behind s).step c).after t = _
    rw [behind_step, ih, List.append_assoc, List.singleton_append]

end Position

theorem lineColumn_byteLength {input : String} {before rest : List Char}
    (h : input.toList = before ++ rest) :
    lineColumn input (byteLength before) =
      (Position.lineBehind before, Position.columnBehind before) := by
  unfold lineColumn
  rw [if_pos (String.Pos.Raw.isValid_eq_true_iff.2 (isValid_byteLength h)), extract_byteLength h]
  simp only [String.toList_ofList]

/-! ## Lines -/

theorem lines_newline (s : List Char) : lines ('\n' :: s) = [] :: lines s := by
  rw [lines]

/-- A character ends a line, belongs to the end of line behind it, or stands on the line. -/
theorem lines_cons_cases (c : Char) (s : List Char) :
    c = '\n' ∨
    (c = '\r' ∧ s.head? = some '\n' ∧ lines (c :: s) = lines s) ∨
    (c ≠ '\n' ∧ lines (c :: s) = (c :: (lines s).headD []) :: (lines s).tail) := by
  by_cases hc : c = '\n'
  · exact .inl hc
  by_cases hs : c = '\r' ∧ s.head? = some '\n'
  · obtain ⟨rfl, hs⟩ := hs
    obtain ⟨r, rfl⟩ := List.head?_eq_some_iff.1 hs
    refine .inr (.inl ⟨rfl, hs, ?_⟩)
    rw [lines_newline, lines]
  · refine .inr (.inr ⟨hc, ?_⟩)
    rw [lines]
    · cases lines s <;> rfl
    · exact fun h => hc h
    · rintro r rfl rfl
      exact hs ⟨rfl, rfl⟩

/-- A character that is part of no end of line is the first of its line. -/
theorem head?_first_line {c : Char} (hn : c ≠ '\n') (hr : c ≠ '\r') (s : List Char) :
    ((lines (c :: s)).headD []).head? = some c := by
  rcases lines_cons_cases c s with hc | ⟨hc, -⟩ | ⟨-, hlines⟩
  · exact absurd hc hn
  · exact absurd hc hr
  · rw [hlines]
    rfl

/-- No line holds a line feed. -/
theorem newline_not_mem_of_mem_lines (s : List Char) : ∀ l ∈ lines s, '\n' ∉ l := by
  induction s with
  | nil => exact fun l hl => absurd hl List.not_mem_nil
  | cons c s ih =>
    rcases lines_cons_cases c s with rfl | ⟨-, -, hlines⟩ | ⟨hc, hlines⟩
    · rw [lines_newline]
      exact List.forall_mem_cons.2 ⟨List.not_mem_nil, ih⟩
    · rwa [hlines]
    · rw [hlines]
      refine List.forall_mem_cons.2 ⟨?_, fun l hl => ih l (List.mem_of_mem_tail hl)⟩
      have hhead : '\n' ∉ (lines s).headD [] := by
        cases hl : lines s with
        | nil => exact List.not_mem_nil
        | cons l ls => exact ih l (hl ▸ List.mem_cons_self)
      exact List.not_mem_cons_of_ne_of_not_mem (Ne.symm hc) hhead

/-- What stands on the last line of a text, which is empty behind a line feed. -/
def lastLine (s : List Char) : List Char :=
  (s.reverse.takeWhile (· ≠ '\n')).reverse

theorem columnBehind_eq (s : List Char) : Position.columnBehind s = (lastLine s).length + 1 := by
  rw [lastLine, List.length_reverse]
  rfl

theorem lastLine_of_not_mem {s : List Char} (h : '\n' ∉ s) : lastLine s = s := by
  have hall : ∀ c ∈ s.reverse, decide (c ≠ '\n') = true := by
    intro c hc
    exact decide_eq_true fun hn => h (hn ▸ List.mem_reverse.1 hc)
  rw [lastLine, List.takeWhile_eq_self_iff.2 hall, List.reverse_reverse]

theorem lastLine_append_newline (s t : List Char) : lastLine (s ++ '\n' :: t) = lastLine t := by
  unfold lastLine
  rw [List.reverse_append, List.reverse_cons, List.append_assoc, List.takeWhile_append]
  split_ifs with hlen
  · rw [(List.takeWhile_prefix _).eq_of_length hlen]
    simp
  · rfl

theorem lastLine_cons_of_mem {s : List Char} (h : '\n' ∈ s) (c : Char) :
    lastLine (c :: s) = lastLine s := by
  obtain ⟨l, r, rfl⟩ := List.append_of_mem h
  rw [lastLine_append_newline, ← List.cons_append, lastLine_append_newline]

/-- The line that a place is on, for a place not in front of a line feed. -/
theorem line_at (before : List Char) {rest : List Char} (h : rest.head? ≠ some '\n') :
    ((lines (before ++ rest))[before.count '\n']?).getD [] =
      lastLine before ++ (lines rest).headD [] := by
  induction before with
  | nil =>
    show ((lines rest)[0]?).getD [] = (lines rest).headD []
    cases lines rest <;> rfl
  | cons c b ih =>
    rw [List.cons_append]
    rcases lines_cons_cases c (b ++ rest) with rfl | ⟨rfl, hhead, hlines⟩ | ⟨hc, hlines⟩
    · rw [lines_newline, List.count_cons_self, List.getElem?_cons_succ, ih]
      exact congrArg (· ++ _) (lastLine_append_newline [] b).symm
    · have hmem : '\n' ∈ b := by
        cases b with
        | nil => exact absurd hhead h
        | cons d b =>
          cases hhead
          exact List.mem_cons_self
      rw [hlines, List.count_cons_of_ne (by decide), ih, lastLine_cons_of_mem hmem]
    · rw [hlines, List.count_cons_of_ne hc]
      by_cases hmem : '\n' ∈ b
      · obtain ⟨n, hn⟩ := Nat.exists_eq_succ_of_ne_zero (List.count_pos_iff.2 hmem).ne'
        rw [hn] at ih ⊢
        rw [List.getElem?_cons_succ, List.getElem?_tail, ih, lastLine_cons_of_mem hmem]
      · rw [List.count_eq_zero_of_not_mem hmem] at ih ⊢
        rw [lastLine_of_not_mem hmem] at ih
        rw [lastLine_of_not_mem (List.not_mem_cons_of_ne_of_not_mem (Ne.symm hc) hmem),
          List.cons_append, ← ih]
        cases lines (b ++ rest) <;> rfl

end RecordFilter.Text
