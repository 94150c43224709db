import RecordFilter.Proofs.Number.Digits
import RecordFilter.Proofs.Token.Condition
import RecordFilter.Proofs.Token.Places

/-!
# Texts that end early

A lexeme is never longer in a text that ends earlier, and the lexeme of a lexeme is all of it. So to
end a text behind a lexeme leaves the lexeme as it is (`Steady`), and a text that ends somewhere
behind the place where cutting stopped is cut into the same pieces (`cut_consumed_append`). The
error of a scan therefore stands where the longest beginning of the text ends that is accepted
(`longest_prefix_of_scan_eq_error`).
-/

namespace RecordFilter

namespace Token

/-! ## Lexemes of texts that end early -/

theorem fieldTail_prefix_append (s t : List Char) : fieldTail s <+: fieldTail (s ++ t) := by
  induction s using fieldTail.induct with
  | case1 => exact List.nil_prefix
  | case2 c hc =>
    rw [List.singleton_append, fieldTail, if_pos hc, fieldTail_part hc]
    exact (List.prefix_cons_inj c).2 List.nil_prefix
  | case3 c hc =>
    rw [fieldTail, if_neg hc]
    exact List.nil_prefix
  | case4 c d r hc ih =>
    rw [List.cons_append, fieldTail_part hc, fieldTail_part hc]
    exact (List.prefix_cons_inj c).2 ih
  | case5 c d r hc hdot ih =>
    obtain ⟨hdot, hd⟩ := Bool.and_eq_true_iff.1 hdot
    rw [eq_of_beq hdot, List.cons_append, List.cons_append, fieldTail_dot hd, fieldTail_dot hd]
    exact (List.prefix_cons_inj '.').2 ((List.prefix_cons_inj d).2 ih)
  | case6 c d r hc hdot =>
    rw [fieldTail, if_neg hc, if_neg hdot]
    exact List.nil_prefix

theorem fieldLexeme_prefix_append (s t : List Char) : fieldLexeme s <+: fieldLexeme (s ++ t) := by
  cases s with
  | nil => exact List.nil_prefix
  | cons c r =>
    rw [List.cons_append, fieldLexeme, fieldLexeme]
    split_ifs
    · exact (List.prefix_cons_inj c).2 (fieldTail_prefix_append r t)
    · exact List.nil_prefix

theorem fieldLexeme_fieldLexeme (s : List Char) : fieldLexeme (fieldLexeme s) = fieldLexeme s := by
  by_cases h : fieldLexeme s = []
  · rw [h]
    rfl
  · exact (isFieldName_fieldLexeme h).fieldLexeme_eq

theorem literalLexeme_prefix_append (s t : List Char) :
    literalLexeme s <+: literalLexeme (s ++ t) := by
  induction s using literalLexeme.induct with
  | case1 => exact List.nil_prefix
  | case2 c hs =>
    rw [literalLexeme, if_pos hs]
    exact List.nil_prefix
  | case3 c hs =>
    have hplain := Bool.eq_false_iff.2 hs
    rw [List.singleton_append, literalLexeme, if_neg hs, literalLexeme_plain hplain]
    exact (List.prefix_cons_inj c).2 List.nil_prefix
  | case4 c d r hc ih =>
    rw [eq_of_beq hc, List.cons_append, List.cons_append, literalLexeme_escaped,
      literalLexeme_escaped]
    exact (List.prefix_cons_inj '\\').2 ((List.prefix_cons_inj d).2 ih)
  | case5 c d r hc hs =>
    rw [literalLexeme, if_neg hc, if_pos hs]
    exact List.nil_prefix
  | case6 c d r hc hs ih =>
    have hplain := Bool.eq_false_iff.2 hs
    rw [List.cons_append, literalLexeme_plain hplain, literalLexeme_plain hplain]
    exact (List.prefix_cons_inj c).2 ih

theorem literalLexeme_literalLexeme (s : List Char) :
    literalLexeme (literalLexeme s) = literalLexeme s := by
  induction s using literalLexeme.induct with
  | case1 => rfl
  | case2 c hs =>
    rw [literalLexeme, if_pos hs]
    rfl
  | case3 c hs =>
    rw [literalLexeme, if_neg hs, literalLexeme, if_neg hs]
  | case4 c d r hc ih => rw [eq_of_beq hc, literalLexeme_escaped, literalLexeme_escaped, ih]
  | case5 c d r hc hs =>
    rw [literalLexeme, if_neg hc, if_pos hs]
    rfl
  | case6 c d r hc hs ih =>
    have hplain := Bool.eq_false_iff.2 hs
    rw [literalLexeme_plain hplain, literalLexeme_plain hplain, ih]

section Longest

variable {f : List Char → List Char} (hgrow : ∀ s t, f s <+: f (s ++ t))
include hgrow

theorem eq_nil_of_isPrefix {s t : List Char} (h : f s = []) (ht : t <+: s) : f t = [] := by
  obtain ⟨u, rfl⟩ := ht
  have hle := hgrow t u
  rw [h] at hle
  exact List.prefix_nil.1 hle

/-- What is no longer in a shorter text and is all of itself is the same in between. -/
theorem append_eq_of_isPrefix {l r t : List Char} (hself : f l = l) (h : f (l ++ r) = l)
    (ht : t <+: r) : f (l ++ t) = l := by
  obtain ⟨u, rfl⟩ := ht
  have hge : l <+: f (l ++ t) := by
    have hshort := hgrow l t
    rwa [hself] at hshort
  have hle : f (l ++ t) <+: l := by
    have hlong := hgrow (l ++ t) u
    rwa [List.append_assoc, h] at hlong
  exact hle.eq_of_length_le hge.length_le

end Longest

/-- Behind its first character a symbol depends on one more character at most. -/
theorem longestAt?_append_cons {s : List Char} (hs : s ≠ []) (d : Char) (t r : List Char) :
    Operator.longestAt? (s ++ d :: t) = Operator.longestAt? (s ++ d :: r) := by
  match s with
  | [] => exact absurd rfl hs
  | [c] => exact longestAt?_two c d t r
  | c :: e :: s => exact longestAt?_two c e _ _

theorem longestAt?_append_of_isPrefix {op : Operator} {r t : List Char}
    (h : Operator.longestAt? (op.symbol.toList ++ r) = some op) (ht : t <+: r) :
    Operator.longestAt? (op.symbol.toList ++ t) = some op := by
  cases t with
  | nil => rw [List.append_nil, Operator.longestAt?_symbol]
  | cons d t =>
    obtain ⟨u, rfl⟩ := ht
    rw [← h]
    exact longestAt?_append_cons op.symbol_ne_nil d t (t ++ u)

theorem longestAt?_eq_none_of_isPrefix {s t : List Char} (h : Operator.longestAt? s = none)
    (ht : t <+: s) : Operator.longestAt? t = none := by
  obtain ⟨u, rfl⟩ := ht
  match t with
  | [] => rfl
  | [c] =>
    have hc : c ≠ '=' ∧ c ≠ '>' ∧ c ≠ '<' := by
      refine ⟨?_, ?_, ?_⟩ <;>
      · rintro rfl
        unfold Operator.longestAt? at h
        split at h <;> simp_all
    simp [Operator.longestAt?, hc]
  | c :: d :: t =>
    rw [← h]
    exact longestAt?_two c d t (t ++ u)

/-! ## Pieces of texts that end early -/

/-- A reader of the next token that finds the same token if the text ends somewhere behind it, and
finds none where it found none before. -/
structure Steady (f : List Char → Option (TokenKind × List Char)) : Prop where
  some_of_isPrefix : ∀ {k l r t}, f (l ++ r) = some (k, l) → t <+: r → f (l ++ t) = some (k, l)
  none_of_isPrefix : ∀ {s t}, f s = none → t <+: s → f t = none

theorem Steady.or {f g : List Char → Option (TokenKind × List Char)} (hf : Steady f)
    (hg : Steady g) : Steady fun s => (f s).or (g s) where
  some_of_isPrefix := by
    intro k l r t h ht
    rcases Option.or_eq_some_iff.1 h with h | ⟨hnone, h⟩
    · exact Option.or_eq_some_iff.2 (.inl (hf.some_of_isPrefix h ht))
    · have hlong : l ++ t <+: l ++ r := (List.prefix_append_right_inj l).2 ht
      have hnone' := hf.none_of_isPrefix hnone hlong
      exact Option.or_eq_some_iff.2 (.inr ⟨hnone', hg.some_of_isPrefix h ht⟩)
  none_of_isPrefix := by
    intro s t h ht
    obtain ⟨hf', hg'⟩ := Option.or_eq_none_iff.1 h
    exact Option.or_eq_none_iff.2 ⟨hf.none_of_isPrefix hf' ht, hg.none_of_isPrefix hg' ht⟩

theorem steady_element? : Steady element? where
  some_of_isPrefix := by
    intro k l r t h ht
    obtain ⟨c, l, rfl⟩ := List.exists_cons_of_ne_nil (element?_ne_nil h)
    rw [List.cons_append, element?] at h ⊢
    split_ifs at h ⊢ <;> try exact h
    split at h
    · cases h
    · obtain ⟨rfl, hname⟩ := Prod.mk.inj (Option.some.inj h)
      have hself := fieldLexeme_fieldLexeme (c :: (l ++ r))
      rw [hname] at hself ⊢
      have hsame := append_eq_of_isPrefix fieldLexeme_prefix_append hself hname ht
      rw [← List.cons_append, hsame]
  none_of_isPrefix := by
    intro s t h ht
    cases t with
    | nil => rfl
    | cons c t =>
      obtain ⟨u, rfl⟩ := ht
      rw [List.cons_append, element?] at h
      rw [element?]
      split_ifs at h ⊢
      split at h
      · next hname =>
        rw [eq_nil_of_isPrefix fieldLexeme_prefix_append hname (List.prefix_append (c :: t) u)]
      · cases h

theorem steady_operator? : Steady operator? where
  some_of_isPrefix := by
    intro k l r t h ht
    obtain ⟨op, hop, hk⟩ := Option.map_eq_some_iff.1 h
    cases hk
    exact Option.map_eq_some_iff.2 ⟨op, longestAt?_append_of_isPrefix hop ht, rfl⟩
  none_of_isPrefix := by
    intro s t h ht
    exact Option.map_eq_none_iff.2 (longestAt?_eq_none_of_isPrefix (Option.map_eq_none_iff.1 h) ht)

theorem steady_literal? : Steady literal? where
  some_of_isPrefix := by
    intro k l r t h ht
    obtain ⟨c, l, rfl⟩ := List.exists_cons_of_ne_nil (literal?_ne_nil h)
    unfold literal? at h ⊢
    split at h
    · cases h
    · obtain ⟨rfl, hraw⟩ := Prod.mk.inj (Option.some.inj h)
      have hself := literalLexeme_literalLexeme (c :: l ++ r)
      rw [hraw] at hself
      rw [append_eq_of_isPrefix literalLexeme_prefix_append hself hraw ht, hraw]
  none_of_isPrefix := by
    intro s t h ht
    unfold literal? at h ⊢
    split at h
    · next hraw => rw [eq_nil_of_isPrefix literalLexeme_prefix_append hraw ht]
    · cases h

theorem steady_first? (a : Awaiting) : Steady (first? a) := by
  cases a with
  | element => exact steady_element?
  | operator => exact steady_operator?.or steady_element?
  | literal => exact steady_literal?.or steady_element?

/-! ## Cutting texts that end early -/

theorem dropWhile_append_eq {gap s : List Char} (hgap : ∀ c ∈ gap, isSeparator c = true)
    (hs : ∀ c ∈ s.head?, isSeparator c = false) : (gap ++ s).dropWhile isSeparator = s := by
  rw [List.dropWhile_append_of_pos hgap]
  cases s with
  | nil => rfl
  | cons c s => exact List.dropWhile_cons_of_neg (by simp [hs c rfl])

theorem Cut.consumed_prepend (p : Piece) (c : Cut) :
    (c.prepend p).consumed = p.text ++ c.consumed := by
  simp [Cut.prepend, Cut.consumed]

theorem head?_of_isPrefix {s t : List Char} (h : t <+: s) : ∀ c ∈ t.head?, c ∈ s.head? := by
  obtain ⟨u, rfl⟩ := h
  cases t with
  | nil => exact fun c hc => by cases hc
  | cons d t => exact fun c hc => hc

/-- A text that ends in the rest that was left when cutting stopped is cut into the same pieces. By
the length of the text, as cutting goes on behind a lexeme. -/
theorem cut_consumed_append (s : List Char) : ∀ a {t}, t <+: (cut a s).rest →
    cut a ((cut a s).consumed ++ t) = { cut a s with rest := t } := by
  induction hn : s.length using Nat.strongRecOn generalizing s with
  | _ n ih =>
    subst hn
    intro a t ht
    have hgap : ∀ c ∈ s.takeWhile isSeparator, isSeparator c = true :=
      fun c hc => List.mem_takeWhile_imp hc
    cases hf : first? a (s.dropWhile isSeparator) with
    | none =>
      rw [cut_of_first?_none hf] at ht ⊢
      have hhead : ∀ c ∈ t.head?, isSeparator c = false := by
        intro c hc
        have hnot := List.head?_dropWhile_not isSeparator s
        rw [head?_of_isPrefix ht c hc] at hnot
        simpa using hnot
      have hdrop := dropWhile_append_eq hgap hhead
      show cut a (s.takeWhile isSeparator ++ t) = ⟨[], s.takeWhile isSeparator, t⟩
      rw [cut_of_first?_none (hdrop.symm ▸ (steady_first? a).none_of_isPrefix hf ht), hdrop,
        takeWhile_append_eq hgap hhead]
    | some kl =>
      obtain ⟨k, l⟩ := kl
      obtain ⟨c, l, r, rfl, hc, hr, hlen⟩ := exists_split_of_first? hf
      rw [cut_of_first? hf] at ht ⊢
      rw [hr] at hf
      rw [hr, List.drop_left] at ht ⊢
      rw [Cut.consumed_prepend, Piece.text, List.append_assoc, List.append_assoc]
      have hu : (cut (.after k) r).consumed ++ t <+: r := by
        have hrest : t <+: (cut (.after k) r).rest := ht
        have hlong := (List.prefix_append_right_inj (cut (.after k) r).consumed).2 hrest
        rwa [← (covers_cut r (.after k)).eq] at hlong
      have hhead : ∀ d ∈ (c :: l ++ ((cut (.after k) r).consumed ++ t)).head?,
          isSeparator d = false := by
        rintro d ⟨⟩
        exact hc
      have hdrop := dropWhile_append_eq hgap hhead
      have hfirst := (steady_first? a).some_of_isPrefix hf hu
      rw [cut_of_first? (hdrop.symm ▸ hfirst), hdrop, takeWhile_append_eq hgap hhead,
        List.drop_left, ih r.length hlen r rfl (.after k) ht]
      rfl

/-! ## Where scanning stops -/

theorem scan_eq_ok_of_rest {s : List Char} (h : (cut .element s).rest = []) :
    ∃ ts, scan (String.ofList s) = .ok ts := by
  have hlex : Lexes .element (String.ofList s).toList ((cut .element s).pieces.map Piece.kind) := by
    rw [String.toList_ofList]
    exact lexes_of_cut s .element h
  obtain ⟨ts, hts, -⟩ := scan_of_lexes hlex
  exact ⟨ts, hts⟩

theorem scan_eq_error_of_rest {s : List Char} (h : (cut .element s).rest ≠ []) :
    ∃ e, scan (String.ofList s) = .error e := by
  cases hscan : scan (String.ofList s) with
  | error e => exact ⟨e, rfl⟩
  | ok ts =>
    obtain ⟨ks, hlex, -⟩ := lexes_of_scan hscan
    rw [String.toList_ofList] at hlex
    exact absurd (cut_of_lexes hlex).1 h

/-- If the backslashes at the end of a text pair up and the text is rejected, the error is of one
character, the text up to there is accepted, and no longer beginning of the text is. -/
theorem longest_prefix_of_scan_eq_error {input : String} {e : SyntaxError}
    (h : scan input = .error e)
    (heven : Even (input.toList.reverse.takeWhile (· == '\\')).length) :
    e.span.start < input.utf8ByteSize ∧
    (String.Pos.Raw.IsValid input ⟨e.span.start⟩ ∧
      ∃ c, String.Pos.Raw.get? input ⟨e.span.start⟩ = some c ∧
        e.span.stop = e.span.start + c.utf8Size) ∧
    (∃ ts, scan (String.Pos.Raw.extract input 0 ⟨e.span.start⟩) = .ok ts) ∧
    ∀ n, String.Pos.Raw.IsValid input ⟨n⟩ → e.span.start < n →
      ∃ e', scan (String.Pos.Raw.extract input 0 ⟨n⟩) = .error e' := by
  have hopen : hasDanglingBackslash input.toList = false := by
    rw [hasDanglingBackslash, Nat.even_iff.1 heven]
    rfl
  have hcovers := (covers_cut input.toList .element).eq
  unfold scan at h
  dsimp only at h
  rw [hopen, if_neg Bool.false_ne_true] at h
  split at h
  · cases h
  · next d r hrest =>
    cases h
    rw [hrest] at hcovers
    have hcut : ∀ t, t <+: d :: r →
        (cut .element ((cut .element input.toList).consumed ++ t)).rest = t := by
      intro t ht
      rw [cut_consumed_append input.toList .element (by rwa [hrest])]
    have hsize : input.utf8ByteSize =
        Text.byteLength (cut .element input.toList).consumed + Text.byteLength (d :: r) := by
      rw [← Text.byteLength_toList, ← Text.byteLength_append, ← hcovers]
    have hpos : 0 < Text.byteLength (d :: r) := Text.byteLength_pos (List.cons_ne_nil d r)
    refine ⟨?_, ⟨Text.isValid_byteLength hcovers, d, Text.get?_byteLength hcovers, rfl⟩, ?_, ?_⟩
    · show Text.byteLength _ < _
      omega
    · have hempty := hcut [] List.nil_prefix
      rw [List.append_nil] at hempty
      show ∃ ts, scan (String.Pos.Raw.extract input 0 ⟨Text.byteLength _⟩) = .ok ts
      rw [Text.extract_byteLength hcovers]
      exact scan_eq_ok_of_rest hempty
    · intro n hn hlt
      obtain ⟨before, rest, hsplit, rfl⟩ := Text.exists_split_of_isValid hn
      obtain ⟨t, rfl, ht⟩ :=
        Text.exists_append_of_byteLength_le (hcovers.symm.trans hsplit) (Nat.le_of_lt hlt)
      rw [Text.extract_byteLength hsplit]
      refine scan_eq_error_of_rest ?_
      rw [hcut t ⟨rest, ht.symm⟩]
      rintro rfl
      rw [List.append_nil] at hlt
      exact lt_irrefl _ hlt

/-- The first equals sign behind the operator is escaped, and the second one is not. -/
theorem longest_prefix_of_scan_eq_error_second_equals_sign :
    scan "A==ü\\=b=c" = .error ⟨.unexpectedCharacter '=', ⟨8, 9, 1, 8⟩⟩ ∧
    (∃ ts, scan (String.Pos.Raw.extract "A==ü\\=b=c" 0 ⟨8⟩) = .ok ts) ∧
    ∀ n, String.Pos.Raw.IsValid "A==ü\\=b=c" ⟨n⟩ → 8 < n →
      ∃ e, scan (String.Pos.Raw.extract "A==ü\\=b=c" 0 ⟨n⟩) = .error e := by
  have hchars : "A==ü\\=b=c".toList = ['A', '=', '=', 'ü', '\\', '=', 'b', '=', 'c'] := by decide
  have hscan : scan "A==ü\\=b=c" = .error ⟨.unexpectedCharacter '=', ⟨8, 9, 1, 8⟩⟩ := by
    unfold scan
    rw [hchars]
    cbv
  have hstop := longest_prefix_of_scan_eq_error hscan (by rw [hchars]; decide)
  exact ⟨hscan, hstop.2.2⟩

end Token

end RecordFilter
