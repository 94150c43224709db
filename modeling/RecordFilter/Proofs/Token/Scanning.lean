import RecordFilter.Proofs.Token.Places

/-!
# The tokens of a text, one behind the other

`Scans a before s ts` says that `ts` are the tokens of the text `s` that stands behind `before`,
where `a` is what may come first. It keeps, for each token, its place, the separators in front of it
and what follows it, so whatever holds of the tokens of a text is shown by induction on it.
-/

namespace RecordFilter

namespace Token

inductive Scans : Awaiting → List Char → List Char → List Token → Prop
  | stop {a : Awaiting} {before gap : List Char} (hgap : ∀ c ∈ gap, isSeparator c = true) :
    Scans a before gap [endAt (.behind (before ++ gap))]
  | piece {a : Awaiting} {before gap l rest : List Char} {c : Char} {k : TokenKind}
    {ts : List Token} (hgap : ∀ c ∈ gap, isSeparator c = true) (hc : isSeparator c = false)
    (hfirst : first? a (c :: l ++ rest) = some (k, c :: l))
    (hrest : Scans (.after k) (before ++ gap ++ c :: l) rest ts) :
    Scans a before (gap ++ (c :: l ++ rest))
      (⟨k, String.ofList (c :: l), spanAt (.behind (before ++ gap)) (c :: l)⟩ :: ts)

/-- By the length of the text, as cutting goes on behind a lexeme. -/
theorem scans_of_cut (s : List Char) : ∀ a before, (cut a s).rest = [] →
    Scans a before s (tokensBehind before (cut a s).gap (cut a s).pieces) := by
  induction hn : s.length using Nat.strongRecOn generalizing s with
  | _ n ih =>
    subst hn
    intro a before hrest
    have hgap : ∀ c ∈ s.takeWhile isSeparator, isSeparator c = true :=
      fun c hc => List.mem_takeWhile_imp hc
    have hs : s = s.takeWhile isSeparator ++ s.dropWhile isSeparator :=
      List.takeWhile_append_dropWhile.symm
    cases hf : first? a (s.dropWhile isSeparator) with
    | none =>
      rw [cut_of_first?_none hf] at hrest ⊢
      have hempty : s.dropWhile isSeparator = [] := hrest
      rw [hempty, List.append_nil] at hs
      show Scans a before s [endAt (.behind (before ++ s.takeWhile isSeparator))]
      rw [← hs]
      rw [← hs] at hgap
      exact .stop hgap
    | some kl =>
      obtain ⟨k, l⟩ := kl
      obtain ⟨c, l, r, rfl, hc, hr, hlen⟩ := exists_split_of_first? hf
      rw [cut_of_first? hf, hr, List.drop_left] at hrest ⊢
      rw [hr] at hf
      have hpiece : Scans a before _ _ := .piece hgap hc hf (ih r.length hlen r rfl _ _ hrest)
      rwa [← hr, ← hs] at hpiece

theorem scans_of_scan {input : String} {ts : List Token} (h : scan input = .ok ts) :
    Scans .element [] input.toList ts := by
  obtain ⟨hrest, rfl⟩ := cut_of_scan h
  exact scans_of_cut input.toList .element [] hrest

/-- The first token of the text `s` that stands behind `before`: the separators in front of it, its
lexeme, and what follows it. -/
structure Opens (a : Awaiting) (before s : List Char) (t : Token) (gap l rest : List Char) :
    Prop where
  eq : s = gap ++ (l ++ rest)
  separators : ∀ c ∈ gap, isSeparator c = true
  solid : ∃ c r, l = c :: r ∧ isSeparator c = false
  first : first? a (l ++ rest) = some (t.kind, l)
  span_eq : t.span = spanAt (.behind (before ++ gap)) l

/-- Any token but the last is one that the text opens with. -/
theorem Scans.exists_opens {a : Awaiting} {before s : List Char} {t : Token} {ts : List Token}
    (h : Scans a before s (t :: ts)) (hts : ts ≠ []) :
    ∃ gap l rest, Opens a before s t gap l rest ∧
      Scans (.after t.kind) (before ++ gap ++ l) rest ts := by
  generalize hus : t :: ts = us at h
  cases h with
  | stop =>
    cases hus
    exact absurd rfl hts
  | piece hgap hc hfirst hrest =>
    cases hus
    exact ⟨_, _, _, ⟨rfl, hgap, ⟨_, _, rfl, hc⟩, hfirst, rfl⟩, hrest⟩

theorem Scans.lexes {a : Awaiting} {before s : List Char} {ts : List Token}
    (h : Scans a before s ts) : ∃ ks, Lexes a s ks ∧ ts.map Token.kind = ks ++ [.eof] := by
  induction h with
  | @stop a before gap hgap =>
    have hlex := (Lexes.nil (a := a)).separators hgap
    rw [List.append_nil] at hlex
    exact ⟨[], hlex, rfl⟩
  | piece hgap hc hfirst hrest ih =>
    obtain ⟨ks, hks, hts⟩ := ih
    exact ⟨_, (Lexes.piece hc hfirst hks).separators hgap, congrArg (_ :: ·) hts⟩

end Token

end RecordFilter
