import RecordFilter.Proofs.Text.Tracker
import RecordFilter.Proofs.Token.Cutting

/-!
# Where tokens stand

Cutting covers the text: the pieces, the separators between them and the rest together are the text,
and neither a lexeme nor the rest starts with a separator (`covers_cut`). The lines and the columns
that are looked up for the tokens in turn are those of the text in front of each
(`place_eq_tokensBehind`). So whatever a scan returns, its tokens or its error, stands in front of a
character that is no separator, or at the end (`Marks`).
-/

namespace RecordFilter

namespace Token

/-! ## What cutting covers -/

/-- The lexeme is there, and starts with no separator. -/
def Piece.Solid (p : Piece) : Prop :=
  ∃ c l, p.lexeme = c :: l ∧ isSeparator c = false

structure Cut.Covers (c : Cut) (s : List Char) : Prop where
  eq : s = c.consumed ++ c.rest
  solid : ∀ p ∈ c.pieces, p.Solid
  rest : ∀ d r, c.rest = d :: r → isSeparator d = false

theorem Cut.Covers.prepend {c : Cut} {s : List Char} (h : c.Covers s) {p : Piece} (hp : p.Solid) :
    (c.prepend p).Covers (p.text ++ s) where
  eq := by
    rw [h.eq]
    simp [Cut.prepend, Cut.consumed]
  solid := List.forall_mem_cons.2 ⟨hp, h.solid⟩
  rest := h.rest

/-- By the length of the text, as cutting goes on behind a lexeme. -/
theorem covers_cut (s : List Char) : ∀ a, (cut a s).Covers s := by
  induction hn : s.length using Nat.strongRecOn generalizing s with
  | _ n ih =>
    subst hn
    intro a
    cases hf : first? a (s.dropWhile isSeparator) with
    | none =>
      rw [cut_of_first?_none hf]
      refine ⟨List.takeWhile_append_dropWhile.symm, fun p hp => absurd hp List.not_mem_nil, ?_⟩
      intro d r hrest
      have hhead := List.head?_dropWhile_not isSeparator s
      rw [show s.dropWhile isSeparator = d :: r from hrest] at hhead
      simpa using hhead
    | some kl =>
      obtain ⟨k, l⟩ := kl
      obtain ⟨c, t, r, rfl, hc, hr, hlen⟩ := exists_split_of_first? hf
      rw [cut_of_first? hf, hr, List.drop_left]
      have hs : s = (⟨s.takeWhile isSeparator, k, c :: t⟩ : Piece).text ++ r := by
        rw [Piece.text, List.append_assoc, ← hr, List.takeWhile_append_dropWhile]
      have hcovers := (ih r.length hlen r rfl (.after k)).prepend
        (p := ⟨s.takeWhile isSeparator, k, c :: t⟩) ⟨c, t, rfl, hc⟩
      rwa [← hs] at hcovers

/-! ## Places of pieces -/

/-- The tokens of the pieces that stand behind the text `before`, and the end token past `gap`. -/
def tokensBehind (before gap : List Char) : List Piece → List Token
  | [] => [endAt (.behind (before ++ gap))]
  | piece :: rest =>
    ⟨piece.kind, String.ofList piece.lexeme, spanAt (.behind (before ++ piece.gap)) piece.lexeme⟩ ::
      tokensBehind (before ++ piece.gap ++ piece.lexeme) gap rest

section Places

variable {input : String} {gap : List Char}

/-- A look-up behind a beginning of the text finds the place behind that. -/
theorem eq_behind_of_tracks {t : Text.Tracker} (h : t.Tracks input) {before s rest : List Char}
    (hs : input.toList = before ++ (s ++ rest)) :
    (⟨Text.byteLength before + Text.byteLength s,
      (t.locate (Text.byteLength before + Text.byteLength s)).1.1,
      (t.locate (Text.byteLength before + Text.byteLength s)).1.2⟩ : Text.Position) =
      .behind (before ++ s) := by
  rw [← List.append_assoc] at hs
  rw [h.fst_locate, ← Text.byteLength_append, Text.lineColumn_byteLength hs]
  rfl

theorem place_eq_tokensBehind (pieces : List Piece) :
    ∀ (t : Text.Tracker) (before : List Char), t.Tracks input →
      input.toList = before ++ (pieces.flatMap Piece.text ++ gap) →
      place t (Text.byteLength before) gap pieces = tokensBehind before gap pieces := by
  induction pieces with
  | nil =>
    intro t before ht hs
    rw [List.flatMap_nil, List.nil_append, ← List.append_nil gap] at hs
    rw [place, tokensBehind, ← eq_behind_of_tracks ht hs]
  | cons p ps ih =>
    intro t before ht hs
    have hgap : input.toList =
        before ++ (p.gap ++ (p.lexeme ++ (ps.flatMap Piece.text ++ gap))) := by
      rw [hs]
      simp [Piece.text]
    have hrest : input.toList =
        before ++ p.gap ++ p.lexeme ++ (ps.flatMap Piece.text ++ gap) := by
      rw [hgap]
      simp only [List.append_assoc]
    rw [place, tokensBehind, ← eq_behind_of_tracks ht hgap,
      ← ih _ _ (ht.snd_locate (Text.byteLength before + Text.byteLength p.gap)) hrest,
      Text.byteLength_append, Text.byteLength_append]

/-- A text that is accepted is cut to its end, and each token stands behind the text in front of
it. -/
theorem cut_of_scan {ts : List Token} (h : scan input = .ok ts) :
    (cut .element input.toList).rest = [] ∧ ts =
      tokensBehind [] (cut .element input.toList).gap (cut .element input.toList).pieces := by
  unfold scan at h
  dsimp only at h
  split_ifs at h
  split at h
  · next hrest =>
    cases h
    have hcovers := (covers_cut input.toList .element).eq
    rw [hrest, List.append_nil] at hcovers
    exact ⟨hrest, place_eq_tokensBehind _ _ [] (Text.Tracker.tracks_start input) hcovers⟩
  · cases h

end Places

/-! ## Marks -/

/-- The span of a stretch of the text that no separator begins, or of the end of the text. -/
def Marks (s : List Char) (span : Span) : Prop :=
  ∃ before lexeme rest, s = before ++ (lexeme ++ rest) ∧ span = spanAt (.behind before) lexeme ∧
    ∀ c ∈ (lexeme ++ rest).head?, isSeparator c = false

theorem marks_end (s : List Char) : Marks s (spanAt (.behind s) []) :=
  ⟨s, [], [], (List.append_nil s).symm, rfl, fun c hc => by cases hc⟩

/-- What stands behind `before` marks the whole text. -/
theorem marks_tokensBehind {s gap : List Char} (pieces : List Piece) :
    ∀ before, s = before ++ (pieces.flatMap Piece.text ++ gap) → (∀ p ∈ pieces, p.Solid) →
      ∀ t ∈ tokensBehind before gap pieces, Marks s t.span := by
  induction pieces with
  | nil =>
    intro before hs _ t ht
    rw [tokensBehind] at ht
    rw [List.mem_singleton.1 ht, hs]
    exact marks_end _
  | cons p ps ih =>
    intro before hs hsolid t ht
    obtain ⟨hp, hps⟩ := List.forall_mem_cons.1 hsolid
    rw [tokensBehind] at ht
    have hsplit : s = (before ++ p.gap) ++ (p.lexeme ++ (ps.flatMap Piece.text ++ gap)) := by
      rw [hs]
      simp [Piece.text]
    rcases List.mem_cons.1 ht with rfl | ht
    · refine ⟨_, _, _, hsplit, rfl, ?_⟩
      obtain ⟨c, l, hl, hc⟩ := hp
      rw [hl]
      rintro d ⟨⟩
      exact hc
    · exact ih (before ++ p.gap ++ p.lexeme) (by rw [hsplit]; simp) hps t ht

theorem exists_eof_tokensBehind (before gap : List Char) (pieces : List Piece) :
    ∃ t ∈ tokensBehind before gap pieces, t.kind = .eof := by
  induction pieces generalizing before with
  | nil => exact ⟨_, List.mem_singleton.2 rfl, rfl⟩
  | cons piece rest ih =>
    obtain ⟨t, ht, hkind⟩ := ih (before ++ piece.gap ++ piece.lexeme)
    exact ⟨t, List.mem_cons_of_mem _ ht, hkind⟩

theorem marks_stuckAt (before : List Char) {c : Char} (rest : List Char)
    (hc : isSeparator c = false) : Marks (before ++ c :: rest) (stuckAt before c).span := by
  refine ⟨before, [c], rest, rfl, rfl, ?_⟩
  rintro d ⟨⟩
  exact hc

theorem eq_dropLast_append_of_dangling {s : List Char} (h : hasDanglingBackslash s = true) :
    s = s.dropLast ++ ['\\'] := by
  unfold hasDanglingBackslash at h
  cases hr : s.reverse with
  | nil =>
    rw [hr] at h
    cases h
  | cons c r =>
    rw [hr] at h
    have hs : s = r.reverse ++ [c] := by
      rw [← List.reverse_reverse s, hr, List.reverse_cons]
    have hc : c = '\\' := by
      by_contra hc
      rw [List.takeWhile_cons_of_neg (by simpa using hc)] at h
      cases h
    rw [hs, hc, List.dropLast_concat]

/-- The tokens of a scan mark the text, and one of them is its end. -/
theorem marks_of_scan {input : String} {ts : List Token} (h : scan input = .ok ts) :
    (∀ t ∈ ts, Marks input.toList t.span) ∧ ∃ t ∈ ts, t.kind = .eof := by
  obtain ⟨hrest, rfl⟩ := cut_of_scan h
  have hcovers := covers_cut input.toList .element
  refine ⟨marks_tokensBehind _ [] ?_ hcovers.solid, exists_eof_tokensBehind ..⟩
  have heq := hcovers.eq
  rw [hrest, List.append_nil] at heq
  exact heq

/-- Whatever offsets are looked up in turn, each is found on the line and in the column that are
counted anew for it. So every token of a scan, its end included, has the line and the column of its
start. -/
theorem located_as_counted (input : String) :
    (∀ offsets : List Nat,
      (Text.Tracker.start input).locateAll offsets = offsets.map (Text.lineColumn input)) ∧
    ∀ ts, scan input = .ok ts → (∃ t ∈ ts, t.kind = .eof) ∧
      ∀ t ∈ ts, (t.span.line, t.span.column) = Text.lineColumn input t.span.start := by
  refine ⟨(Text.Tracker.tracks_start input).locateAll_eq, fun ts h => ?_⟩
  obtain ⟨hmarks, hend⟩ := marks_of_scan h
  refine ⟨hend, fun t ht => ?_⟩
  obtain ⟨before, lexeme, rest, hsplit, hspan, -⟩ := hmarks t ht
  rw [hspan]
  exact (Text.lineColumn_byteLength hsplit).symm

/-- A literal of two bytes goes on with a line feed, so the connector begins the second line. -/
theorem located_as_counted_second_line :
    let ts : List Token := [⟨.field "A", "A", ⟨0, 1, 1, 1⟩⟩,
      ⟨.operator .equalIgnoringCase, "=", ⟨1, 2, 1, 2⟩⟩, ⟨.value "ü", "ü\n", ⟨2, 5, 1, 3⟩⟩,
      ⟨.or, "|", ⟨5, 6, 2, 1⟩⟩, ⟨.field "B", "B", ⟨6, 7, 2, 2⟩⟩, ⟨.eof, "", ⟨7, 7, 2, 3⟩⟩]
    scan "A=ü\n|B" = .ok ts ∧
    (∀ t ∈ ts, (t.span.line, t.span.column) = Text.lineColumn "A=ü\n|B" t.span.start) ∧
    (Text.Tracker.start "A=ü\n|B").locateAll [0, 4, 4, 5, 7] =
      [0, 4, 4, 5, 7].map (Text.lineColumn "A=ü\n|B") := by
  intro ts
  have hchars : "A=ü\n|B".toList = ['A', '=', 'ü', '\n', '|', 'B'] := by decide
  have hscan : scan "A=ü\n|B" = .ok ts := by
    unfold scan
    rw [hchars]
    cbv
  obtain ⟨hoffsets, htokens⟩ := located_as_counted "A=ü\n|B"
  exact ⟨hscan, (htokens ts hscan).2, hoffsets [0, 4, 4, 5, 7]⟩

/-- The error of a scan marks the text. -/
theorem marks_of_scan_eq_error {input : String} {e : SyntaxError} (h : scan input = .error e) :
    Marks input.toList e.span := by
  unfold scan at h
  dsimp only at h
  split_ifs at h with hdangling
  · cases h
    have hmarks := marks_stuckAt input.toList.dropLast [] (show isSeparator '\\' = false by decide)
    rwa [← eq_dropLast_append_of_dangling hdangling] at hmarks
  · have hcovers := covers_cut input.toList .element
    split at h
    · cases h
    · next d r hrest =>
      cases h
      have hmarks := marks_stuckAt (cut .element input.toList).consumed r (hcovers.rest d r hrest)
      rwa [← hrest, ← hcovers.eq] at hmarks

end Token

end RecordFilter
