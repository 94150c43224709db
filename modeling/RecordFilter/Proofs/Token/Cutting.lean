import RecordFilter.Proofs.Token.Next

/-!
# What a filter text is cut into

`Lexes a s ks` holds if the whole of `s` is cut into tokens of the kinds `ks`, where `a` is what may
come first. It says what cutting does without its places, and it is what texts are put together
with. A text is scanned exactly if it is cut so.
-/

namespace RecordFilter

namespace Token

inductive Lexes : Awaiting → List Char → List TokenKind → Prop where
  | nil {a : Awaiting} : Lexes a [] []
  | separator {a : Awaiting} {c : Char} {s : List Char} {ks : List TokenKind}
      (hc : isSeparator c = true) (hs : Lexes a s ks) : Lexes a (c :: s) ks
  | piece {a : Awaiting} {c : Char} {l s : List Char} {k : TokenKind} {ks : List TokenKind}
      (hc : isSeparator c = false) (hfirst : first? a (c :: l ++ s) = some (k, c :: l))
      (hs : Lexes (.after k) s ks) : Lexes a (c :: l ++ s) (k :: ks)

/-! ## Cutting -/

/-- The cut reached the end of the text, and its tokens are of these kinds. -/
def Cut.Yields (c : Cut) (ks : List TokenKind) : Prop :=
  c.rest = [] ∧ c.pieces.map Piece.kind = ks

theorem Cut.yields_prepend {p : Piece} {c : Cut} {ks : List TokenKind} (h : c.Yields ks) :
    (c.prepend p).Yields (p.kind :: ks) :=
  ⟨h.1, congrArg (p.kind :: ·) h.2⟩

theorem cut_of_first? {a : Awaiting} {s l : List Char} {k : TokenKind}
    (h : first? a (s.dropWhile isSeparator) = some (k, l)) :
    cut a s = (cut (.after k) ((s.dropWhile isSeparator).drop l.length)).prepend
      ⟨s.takeWhile isSeparator, k, l⟩ := by
  rw [cut]
  split
  · next hn => rw [h] at hn; cases hn
  · next k' l' hk => rw [h] at hk; cases hk; rfl

theorem cut_of_first?_none {a : Awaiting} {s : List Char}
    (h : first? a (s.dropWhile isSeparator) = none) :
    cut a s = ⟨[], s.takeWhile isSeparator, s.dropWhile isSeparator⟩ := by
  rw [cut]
  split
  · rfl
  · next k' l' hk => rw [h] at hk; cases hk

theorem cut_separator {a : Awaiting} {c : Char} {s : List Char} {ks : List TokenKind}
    (hc : isSeparator c = true) (h : (cut a s).Yields ks) : (cut a (c :: s)).Yields ks := by
  have hdrop : (c :: s).dropWhile isSeparator = s.dropWhile isSeparator :=
    List.dropWhile_cons_of_pos hc
  cases hf : first? a (s.dropWhile isSeparator) with
  | none =>
    rw [cut_of_first?_none hf] at h
    rw [cut_of_first?_none (hdrop ▸ hf), hdrop]
    exact h
  | some kl =>
    obtain ⟨k, l⟩ := kl
    rw [cut_of_first? hf] at h
    rw [cut_of_first? (hdrop ▸ hf), hdrop]
    exact h

theorem cut_of_lexes {a : Awaiting} {s : List Char} {ks : List TokenKind} (h : Lexes a s ks) :
    (cut a s).Yields ks := by
  induction h with
  | @nil a =>
    rw [cut_of_first?_none (first?_nil a)]
    exact ⟨rfl, rfl⟩
  | separator hc hs ih => exact cut_separator hc ih
  | @piece a c l s k ks hc hfirst hs ih =>
    have hdrop : (c :: l ++ s).dropWhile isSeparator = c :: l ++ s :=
      List.dropWhile_cons_of_neg (by rw [hc]; exact Bool.false_ne_true)
    have hcut := cut_of_first? (hdrop.symm ▸ hfirst)
    rw [hdrop, List.drop_left] at hcut
    rw [hcut]
    exact Cut.yields_prepend ih

theorem Lexes.separators {a : Awaiting} {gap s : List Char} {ks : List TokenKind}
    (hgap : ∀ c ∈ gap, isSeparator c = true) (h : Lexes a s ks) : Lexes a (gap ++ s) ks := by
  induction gap with
  | nil => exact h
  | cons c gap ih =>
    have htail := ih fun d hd => hgap d (List.mem_cons_of_mem c hd)
    exact .separator (hgap c List.mem_cons_self) htail

theorem Lexes.of_dropWhile {a : Awaiting} {s : List Char} {ks : List TokenKind}
    (h : Lexes a (s.dropWhile isSeparator) ks) : Lexes a s ks := by
  have hall := h.separators fun c (hc : c ∈ s.takeWhile isSeparator) => List.mem_takeWhile_imp hc
  rwa [List.takeWhile_append_dropWhile] at hall

/-- A lexeme stands behind the separators, starts with none itself, and leaves less of the text. -/
theorem exists_split_of_first? {a : Awaiting} {s l : List Char} {k : TokenKind}
    (h : first? a (s.dropWhile isSeparator) = some (k, l)) :
    ∃ c t r, l = c :: t ∧ isSeparator c = false ∧ s.dropWhile isSeparator = c :: t ++ r ∧
      r.length < s.length := by
  obtain ⟨r, hr⟩ := (begins_of_first? h).isPrefix
  obtain ⟨c, t, rfl⟩ := List.exists_cons_of_ne_nil (first?_ne_nil h)
  refine ⟨c, t, r, rfl, ?_, hr.symm, ?_⟩
  · have hhead := List.head?_dropWhile_not isSeparator s
    rw [← hr] at hhead
    simpa using hhead
  · have hlen : (c :: t ++ r).length ≤ s.length := by
      rw [hr]
      exact (List.dropWhile_suffix isSeparator).length_le
    rw [List.length_append, List.length_cons] at hlen
    omega

/-- By the length of the text, as cutting goes on behind a lexeme. -/
theorem lexes_of_cut (s : List Char) :
    ∀ a, (cut a s).rest = [] → Lexes a s ((cut a s).pieces.map Piece.kind) := by
  induction hn : s.length using Nat.strongRecOn generalizing s with
  | _ n ih =>
    subst hn
    intro a hrest
    refine .of_dropWhile ?_
    cases hf : first? a (s.dropWhile isSeparator) with
    | none =>
      rw [cut_of_first?_none hf] at hrest ⊢
      have hs : s.dropWhile isSeparator = [] := hrest
      rw [hs]
      exact .nil
    | some kl =>
      obtain ⟨k, l⟩ := kl
      rw [cut_of_first? hf] at hrest ⊢
      obtain ⟨c, t, r, rfl, hc, hr, hlen⟩ := exists_split_of_first? hf
      rw [hr] at hf
      rw [hr, List.drop_left] at hrest ⊢
      exact .piece hc hf (ih r.length hlen r rfl _ hrest)

theorem lexes_iff_cut {a : Awaiting} {s : List Char} {ks : List TokenKind} :
    Lexes a s ks ↔ (cut a s).Yields ks := by
  constructor
  · exact cut_of_lexes
  · rintro ⟨hrest, rfl⟩
    exact lexes_of_cut s a hrest

/-- A text is cut in one way. -/
theorem Lexes.unique {a : Awaiting} {s : List Char} {ks ks' : List TokenKind} (h : Lexes a s ks)
    (h' : Lexes a s ks') : ks = ks' := by
  rw [← (cut_of_lexes h).2, ← (cut_of_lexes h').2]

/-- A separator in front of a text takes no part in cutting it. -/
theorem Lexes.of_separator {a : Awaiting} {c : Char} {s : List Char} {ks : List TokenKind}
    (hc : isSeparator c = true) (h : Lexes a (c :: s) ks) : Lexes a s ks := by
  generalize ht : c :: s = t at h
  cases h with
  | nil => cases ht
  | separator hd hs =>
    cases ht
    exact hs
  | piece hd hfirst hs =>
    cases ht
    rw [hc] at hd
    cases hd

theorem Lexes.of_separators {a : Awaiting} {gap s : List Char} {ks : List TokenKind}
    (hgap : ∀ c ∈ gap, isSeparator c = true) (h : Lexes a (gap ++ s) ks) : Lexes a s ks := by
  induction gap with
  | nil => exact h
  | cons c gap ih =>
    have htail := h.of_separator (hgap c List.mem_cons_self)
    exact ih (fun d hd => hgap d (List.mem_cons_of_mem c hd)) htail

/-- Behind its first lexeme a text is cut on its own. -/
theorem Lexes.of_piece {a : Awaiting} {c : Char} {l s : List Char} {k : TokenKind}
    {ms : List TokenKind} (hc : isSeparator c = false)
    (hfirst : first? a (c :: l ++ s) = some (k, c :: l)) (h : Lexes a (c :: l ++ s) ms) :
    ∃ ks, Lexes (.after k) s ks ∧ ms = k :: ks := by
  generalize ht : c :: l ++ s = t at h hfirst
  cases h with
  | nil => cases ht
  | separator hd hs =>
    cases ht
    rw [hc] at hd
    cases hd
  | piece hd hfirst' hs =>
    rw [hfirst'] at hfirst
    cases hfirst
    rw [List.append_cancel_left ht]
    exact ⟨_, hs, rfl⟩

theorem Lexes.ne_eof {a : Awaiting} {s : List Char} {ks : List TokenKind} (h : Lexes a s ks) :
    ∀ k ∈ ks, k ≠ .eof := by
  induction h with
  | nil => exact fun k hk => absurd hk List.not_mem_nil
  | separator hc hs ih => exact ih
  | piece hc hfirst hs ih =>
    intro k hk
    rcases List.mem_cons.1 hk with rfl | hk
    · exact (begins_of_first? hfirst).ne_eof
    · exact ih k hk

end Token

end RecordFilter
