import RecordFilter.Proofs.Token.Scanning
import RecordFilter.Proofs.Token.Truncation

/-!
# Tokens tile the text

The lexemes of a text that is accepted, with nothing but separators between them, are the text
(`Lays`), and each is the longest of its class that stands there (`Munches`). So every character is
in the span of just one token or is a separator, and a token is what stands in its span
(`tiles_of_scan`).
-/

namespace RecordFilter

/-- The part of the text that a span is. -/
def Span.slice (span : Span) (input : String) : String :=
  String.Pos.Raw.extract input ⟨span.start⟩ ⟨span.stop⟩

/-- What follows a span in the text. -/
def Span.rest (span : Span) (input : String) : List Char :=
  (String.Pos.Raw.extract input ⟨span.stop⟩ ⟨input.utf8ByteSize⟩).toList

namespace Token

/-! ## The longest lexeme of a class -/

/-- A text in which structural characters stand only behind a backslash, and in which every
backslash that is not behind another has a character behind it. -/
inductive IsRaw : List Char → Prop
  | nil : IsRaw []
  | plain {c : Char} {s : List Char} (hc : Literal.isStructural c = false) (hs : IsRaw s) :
    IsRaw (c :: s)
  | escaped {c : Char} {s : List Char} (hs : IsRaw s) : IsRaw ('\\' :: c :: s)

theorem isRaw_literalLexeme (s : List Char) : IsRaw (literalLexeme s) := by
  induction s using literalLexeme.induct with
  | case1 => exact .nil
  | case2 c hs =>
    rw [literalLexeme, if_pos hs]
    exact .nil
  | case3 c hs =>
    rw [literalLexeme, if_neg hs]
    exact .plain (Bool.eq_false_iff.2 hs) .nil
  | case4 c d r hc ih =>
    rw [eq_of_beq hc, literalLexeme_escaped]
    exact .escaped ih
  | case5 c d r hc hs =>
    rw [literalLexeme, if_neg hc, if_pos hs]
    exact .nil
  | case6 c d r hc hs ih =>
    have hplain := Bool.eq_false_iff.2 hs
    rw [literalLexeme_plain hplain]
    exact .plain hplain ih

/-- A literal ends with the text, in front of a structural character, or in front of a backslash
with nothing behind it. -/
theorem exists_literalLexeme_append (s : List Char) :
    ∃ rest, s = literalLexeme s ++ rest ∧
      (rest = ['\\'] ∨ ∀ c ∈ rest.head?, Literal.isStructural c = true ∧ c ≠ '\\') := by
  induction s using literalLexeme.induct with
  | case1 => exact ⟨[], rfl, .inr fun c hc => by cases hc⟩
  | case2 c hs =>
    rw [literalLexeme, if_pos hs]
    refine ⟨[c], rfl, ?_⟩
    by_cases hc : c = '\\'
    · exact .inl (by rw [hc])
    · refine .inr ?_
      rintro d ⟨⟩
      exact ⟨hs, hc⟩
  | case3 c hs =>
    rw [literalLexeme, if_neg hs]
    exact ⟨[], rfl, .inr fun c hc => by cases hc⟩
  | case4 c d r hc ih =>
    obtain ⟨rest, hrest, hstop⟩ := ih
    rw [eq_of_beq hc, literalLexeme_escaped]
    exact ⟨rest, congrArg ('\\' :: d :: ·) hrest, hstop⟩
  | case5 c d r hc hs =>
    rw [literalLexeme, if_neg hc, if_pos hs]
    refine ⟨c :: d :: r, rfl, .inr ?_⟩
    rintro e ⟨⟩
    exact ⟨hs, ne_of_beq_false (Bool.eq_false_iff.2 hc)⟩
  | case6 c d r hc hs ih =>
    obtain ⟨rest, hrest, hstop⟩ := ih
    rw [literalLexeme_plain (Bool.eq_false_iff.2 hs)]
    exact ⟨rest, congrArg (c :: ·) hrest, hstop⟩

theorem symbol_one_or_two (op : Operator) :
    op.symbol.toList.length = 1 ∨ ∃ c d, op.symbol.toList = [c, d] := by
  cases op <;> simp [Operator.symbol]

/-- Of all symbols that a text begins with the longest one is found. -/
theorem length_symbol_le {s : List Char} {op op' : Operator}
    (h : Operator.longestAt? s = some op) (h' : op'.symbol.toList <+: s) :
    op'.symbol.toList.length ≤ op.symbol.toList.length := by
  rcases symbol_one_or_two op' with hone | ⟨c, d, htwo⟩
  · rw [hone]
    exact List.length_pos_iff.2 op.symbol_ne_nil
  · obtain ⟨t, rfl⟩ := h'
    have hself := op'.longestAt?_symbol
    rw [htwo] at h hself
    have hsame := longestAt?_two c d t []
    rw [hself] at hsame
    cases h.symm.trans hsame
    exact le_rfl

/-- The lexeme of a token and what follows it: a field name and an operator are the longest that
stand there, and a literal goes on to the next structural character that is not escaped. -/
def Munches (lexeme rest : List Char) : TokenKind → Prop
  | .field name => name.toList = lexeme ∧ IsFieldName lexeme ∧
      ∀ m, IsFieldName m → m <+: lexeme ++ rest → m.length ≤ lexeme.length
  | .operator op => op.symbol.toList = lexeme ∧
      ∀ op' : Operator, op'.symbol.toList <+: lexeme ++ rest →
        op'.symbol.toList.length ≤ lexeme.length
  | .value text => Literal.ofRaw lexeme = .text text ∧ IsRaw lexeme ∧
      ∀ c ∈ rest.head?, Literal.isStructural c = true ∧ c ≠ '\\'
  | .null => Literal.ofRaw lexeme = .null ∧ IsRaw lexeme ∧
      ∀ c ∈ rest.head?, Literal.isStructural c = true ∧ c ≠ '\\'
  | .and => lexeme = ['&']
  | .or => lexeme = ['|']
  | .leftParen => lexeme = ['(']
  | .rightParen => lexeme = [')']
  | .eof => lexeme = [] ∧ rest = []

theorem munches_field {s rest : List Char} (hne : fieldLexeme s ≠ [])
    (hs : s = fieldLexeme s ++ rest) :
    Munches (fieldLexeme s) rest (.field (String.ofList (fieldLexeme s))) := by
  refine ⟨String.toList_ofList, isFieldName_fieldLexeme hne, fun m hm hprefix => ?_⟩
  rw [← hs] at hprefix
  obtain ⟨t, ht⟩ := hprefix
  have hlong := fieldLexeme_prefix_append m t
  rw [hm.fieldLexeme_eq, ht] at hlong
  exact hlong.length_le

/-- If no backslash is left open behind it, a literal goes on to a structural character. -/
theorem isStructural_behind_literalLexeme {s rest : List Char} (hs : s = literalLexeme s ++ rest)
    (hopen : hasDanglingBackslash rest = false) :
    ∀ c ∈ rest.head?, Literal.isStructural c = true ∧ c ≠ '\\' := by
  obtain ⟨rest', hrest', hstop⟩ := exists_literalLexeme_append s
  obtain rfl := List.append_cancel_left (hs.symm.trans hrest')
  refine hstop.resolve_left ?_
  rintro rfl
  cases hopen

theorem munches_literal {s rest : List Char} (hs : s = literalLexeme s ++ rest)
    (hopen : hasDanglingBackslash rest = false) :
    Munches (literalLexeme s) rest (.ofLiteral (.ofRaw (literalLexeme s))) := by
  have hstop := isStructural_behind_literalLexeme hs hopen
  have hraw := isRaw_literalLexeme s
  cases hliteral : Literal.ofRaw (literalLexeme s) with
  | text t => exact ⟨hliteral, hraw, hstop⟩
  | null => exact ⟨hliteral, hraw, hstop⟩

theorem munches_of_begins {s l rest : List Char} {k : TokenKind} (h : Begins s k l)
    (hs : s = l ++ rest) (hopen : hasDanglingBackslash rest = false) : Munches l rest k := by
  cases h with
  | delimiter _ hc =>
    rcases delimiter?_cases hc with ⟨rfl, rfl⟩ | ⟨rfl, rfl⟩ | ⟨rfl, rfl⟩ | ⟨rfl, rfl⟩ <;> rfl
  | field hne => exact munches_field hne hs
  | operator hop =>
    refine ⟨rfl, fun op' h => ?_⟩
    rw [← hs] at h
    exact length_symbol_le hop h
  | literal => exact munches_literal hs hopen

/-! ## Tokens behind one another -/

/-- The tokens of the text that stands behind `before`: each behind its separators and in its place,
and the end token last. -/
inductive Lays : List Char → List Char → List Token → Prop
  | stop {before gap : List Char} (hgap : ∀ c ∈ gap, isSeparator c = true) :
    Lays before gap [endAt (.behind (before ++ gap))]
  | piece {before gap l rest : List Char} {k : TokenKind} {ts : List Token}
    (hgap : ∀ c ∈ gap, isSeparator c = true) (hl : l ≠ []) (hk : k ≠ .eof)
    (hmunches : Munches l rest k) (hrest : Lays (before ++ gap ++ l) rest ts) :
    Lays before (gap ++ (l ++ rest))
      (⟨k, String.ofList l, spanAt (.behind (before ++ gap)) l⟩ :: ts)

theorem Scans.lays {a : Awaiting} {before s : List Char} {ts : List Token}
    (h : Scans a before s ts) : Lays before s ts := by
  induction h with
  | stop hgap => exact .stop hgap
  | @piece a before gap l rest c k ts hgap hc hfirst hrest ih =>
    obtain ⟨ks, hks, -⟩ := hrest.lexes
    have hbegins := begins_of_first? hfirst
    have hmunches := munches_of_begins hbegins rfl hks.not_dangling
    exact .piece hgap (List.cons_ne_nil c l) hbegins.ne_eof hmunches ih

theorem lays_of_scan {input : String} {ts : List Token} (h : scan input = .ok ts) :
    Lays [] input.toList ts :=
  (scans_of_scan h).lays

/-- The token is what stands in its span, and as long as its class goes. -/
def Stands (s : List Char) (t : Token) : Prop :=
  ∃ before rest, s = before ++ (t.lexeme.toList ++ rest) ∧
    t.span = spanAt (.behind before) t.lexeme.toList ∧ Munches t.lexeme.toList rest t.kind

section Lays

variable {before s : List Char} {ts : List Token}

theorem Lays.stands (h : Lays before s ts) : ∀ t ∈ ts, Stands (before ++ s) t := by
  induction h with
  | @stop before gap hgap =>
    intro t ht
    rw [List.mem_singleton.1 ht]
    refine ⟨before ++ gap, [], (List.append_nil _).symm, rfl, rfl, rfl⟩
  | @piece before gap l rest k ts hgap hl hk hmunches hrest ih =>
    intro t ht
    rcases List.mem_cons.1 ht with rfl | ht
    · refine ⟨before ++ gap, rest, ?_, ?_, ?_⟩
      · rw [String.toList_ofList, List.append_assoc]
      · rw [String.toList_ofList]
      · rwa [String.toList_ofList]
    · have hstands := ih t ht
      rwa [List.append_assoc, List.append_assoc] at hstands

/-- No span starts before the text does. -/
theorem Lays.byteLength_le (h : Lays before s ts) :
    ∀ t ∈ ts, Text.byteLength before ≤ t.span.start := by
  induction h with
  | @stop before gap hgap =>
    intro t ht
    rw [List.mem_singleton.1 ht]
    show _ ≤ Text.byteLength (before ++ gap)
    rw [Text.byteLength_append]
    exact Nat.le_add_right _ _
  | @piece before gap l rest k ts hgap hl hk hmunches hrest ih =>
    intro t ht
    rcases List.mem_cons.1 ht with rfl | ht
    · show _ ≤ Text.byteLength (before ++ gap)
      rw [Text.byteLength_append]
      exact Nat.le_add_right _ _
    · have hle := ih t ht
      rw [Text.byteLength_append, Text.byteLength_append] at hle
      omega

/-- Spans follow one another, and only the one of the end is empty. -/
theorem Lays.pairwise (h : Lays before s ts) :
    ts.Pairwise fun t u => t.span.start < t.span.stop ∧ t.span.stop ≤ u.span.start := by
  induction h with
  | stop => exact List.pairwise_singleton _ _
  | @piece before gap l rest k ts hgap hl hk hmunches hrest ih =>
    refine List.pairwise_cons.2 ⟨fun u hu => ⟨?_, ?_⟩, ih⟩
    · exact Nat.lt_add_of_pos_right (Text.byteLength_pos hl)
    · have hle := hrest.byteLength_le u hu
      rwa [Text.byteLength_append] at hle

theorem Lays.exists_end (h : Lays before s ts) :
    ∃ us, ts = us ++ [endAt (.behind (before ++ s))] ∧ ∀ t ∈ us, t.kind ≠ .eof := by
  induction h with
  | stop => exact ⟨[], rfl, fun t ht => absurd ht List.not_mem_nil⟩
  | @piece before gap l rest k ts hgap hl hk hmunches hrest ih =>
    obtain ⟨us, rfl, hus⟩ := ih
    refine ⟨⟨k, String.ofList l, spanAt (.behind (before ++ gap)) l⟩ :: us, ?_,
      List.forall_mem_cons.2 ⟨hk, hus⟩⟩
    rw [List.append_assoc, List.append_assoc]
    rfl

/-- A character that is in no span is a separator. -/
theorem Lays.isSeparator (h : Lays before s ts) {b r : List Char} {c : Char}
    (hsplit : before ++ s = b ++ c :: r) (hle : Text.byteLength before ≤ Text.byteLength b)
    (hfree : ∀ t ∈ ts, ¬(t.span.start ≤ Text.byteLength b ∧ Text.byteLength b < t.span.stop)) :
    isSeparator c = true := by
  induction h with
  | @stop before gap hgap =>
    obtain ⟨w, -, hw⟩ := Text.exists_append_of_byteLength_le hsplit hle
    exact hgap c (hw ▸ List.mem_append_right w List.mem_cons_self)
  | @piece before gap l rest k ts hgap hl hk hmunches hrest ih =>
    obtain ⟨hhead, hfree⟩ := List.forall_mem_cons.1 hfree
    rcases Nat.lt_or_ge (Text.byteLength b) (Text.byteLength (before ++ gap)) with hlt | hge
    · obtain ⟨w, rfl, hw⟩ := Text.exists_append_of_byteLength_le hsplit hle
      rw [Text.byteLength_append, Text.byteLength_append, Nat.add_lt_add_iff_left] at hlt
      obtain ⟨v, rfl, hv⟩ := Text.exists_append_of_byteLength_le hw.symm (Nat.le_of_lt hlt)
      cases v with
      | nil =>
        rw [List.append_nil] at hlt
        exact absurd hlt (lt_irrefl _)
      | cons d v =>
        cases hv
        exact hgap c (List.mem_append_right w List.mem_cons_self)
    · refine ih ?_ ?_ hfree
      · rw [← hsplit]
        simp only [List.append_assoc]
      · rw [Text.byteLength_append]
        exact not_lt.1 fun hlt => hhead ⟨hge, hlt⟩

end Lays

/-! ## Spans and the text in them -/

section Span

variable {input : String} {before l rest : List Char} (h : input.toList = before ++ (l ++ rest))
include h

theorem isValid_spanAt : String.Pos.Raw.IsValid input ⟨(spanAt (.behind before) l).start⟩ ∧
    String.Pos.Raw.IsValid input ⟨(spanAt (.behind before) l).stop⟩ := by
  refine ⟨Text.isValid_byteLength h, ?_⟩
  show String.Pos.Raw.IsValid input ⟨Text.byteLength before + Text.byteLength l⟩
  rw [← Text.byteLength_append]
  exact Text.isValid_byteLength (by rw [h, List.append_assoc])

theorem slice_spanAt : (spanAt (.behind before) l).slice input = String.ofList l :=
  Text.extract_between h

end Span

/-! ## Tilings of a text -/

structure Tiles (input : String) (ts : List Token) : Prop where
  /-- The spans lie between characters. -/
  isValid : ∀ t ∈ ts, String.Pos.Raw.IsValid input ⟨t.span.start⟩ ∧
    String.Pos.Raw.IsValid input ⟨t.span.stop⟩
  /-- The spans follow one another, and only the last may be empty. -/
  pairwise : ts.Pairwise fun t u => t.span.start < t.span.stop ∧ t.span.stop ≤ u.span.start
  lexeme_eq : ∀ t ∈ ts, t.lexeme = t.span.slice input
  /-- A character that is in no span is a separator. -/
  separator : ∀ n c, String.Pos.Raw.IsValid input ⟨n⟩ → String.Pos.Raw.get? input ⟨n⟩ = some c →
    (∀ t ∈ ts, ¬(t.span.start ≤ n ∧ n < t.span.stop)) → c ∈ [' ', '\t', '\r', '\n']
  /-- The end token stands at the end of the text, and nowhere else. -/
  ends : ∃ us e, ts = us ++ [e] ∧ (∀ t ∈ us, t.kind ≠ .eof) ∧ e.kind = .eof ∧ e.lexeme = "" ∧
    e.span.start = input.utf8ByteSize ∧ e.span.stop = input.utf8ByteSize
  munches : ∀ t ∈ ts, Munches t.lexeme.toList (t.span.rest input) t.kind

section Stands

variable {input : String} {t : Token} (h : Stands input.toList t)
include h

theorem Stands.isValid : String.Pos.Raw.IsValid input ⟨t.span.start⟩ ∧
    String.Pos.Raw.IsValid input ⟨t.span.stop⟩ := by
  obtain ⟨before, rest, hs, hspan, -⟩ := h
  rw [hspan]
  exact isValid_spanAt hs

theorem Stands.lexeme_eq : t.lexeme = t.span.slice input := by
  obtain ⟨before, rest, hs, hspan, -⟩ := h
  rw [hspan, slice_spanAt hs, String.ofList_toList]

theorem Stands.munches : Munches t.lexeme.toList (t.span.rest input) t.kind := by
  obtain ⟨before, rest, hs, hspan, hmunches⟩ := h
  have hsplit : input.toList = (before ++ t.lexeme.toList) ++ (rest ++ []) := by
    rw [hs, List.append_nil, List.append_assoc]
  have hsize : input.utf8ByteSize =
      Text.byteLength (before ++ t.lexeme.toList) + Text.byteLength rest := by
    rw [← Text.byteLength_toList, hsplit, Text.byteLength_append, List.append_nil]
  have hrest : t.span.rest input = rest := by
    have hextract := Text.extract_between hsplit
    rw [← hsize, Text.byteLength_append] at hextract
    rw [hspan]
    exact (congrArg String.toList hextract).trans String.toList_ofList
  rwa [hrest]

end Stands

/-- The tokens of a text tile it, and each is the longest of its class where it starts. -/
theorem tiles_of_scan {input : String} {ts : List Token} (h : scan input = .ok ts) :
    Tiles input ts := by
  have hlays := lays_of_scan h
  have hstands := hlays.stands
  refine
    { isValid := fun t ht => (hstands t ht).isValid
      pairwise := hlays.pairwise
      lexeme_eq := fun t ht => (hstands t ht).lexeme_eq
      separator := fun n c hn hc hfree => ?_
      ends := ?_
      munches := fun t ht => (hstands t ht).munches }
  · obtain ⟨b, r, hsplit, rfl⟩ := Text.exists_split_of_isValid hn
    rw [Text.get?_byteLength hsplit] at hc
    obtain ⟨r, rfl⟩ := List.head?_eq_some_iff.1 hc
    have hsep := hlays.isSeparator hsplit (Nat.zero_le _) hfree
    simpa [Token.isSeparator, or_assoc] using hsep
  · obtain ⟨us, hts, hus⟩ := hlays.exists_end
    have hsize : Text.byteLength ([] ++ input.toList) = input.utf8ByteSize :=
      Text.byteLength_toList input
    exact ⟨us, _, hts, hus, rfl, rfl, hsize, hsize⟩

/-- The space in front of the literal is in no span, and the one behind it belongs to it. -/
theorem tiles_of_scan_spaced_literal :
    let ts : List Token := [⟨.field "A.b", "A.b", ⟨0, 3, 1, 1⟩⟩,
      ⟨.operator .greaterOrEqual, ">=", ⟨3, 5, 1, 4⟩⟩, ⟨.value "x|y", "x\\|y ", ⟨6, 11, 1, 7⟩⟩,
      ⟨.rightParen, ")", ⟨11, 12, 1, 12⟩⟩, ⟨.eof, "", ⟨12, 12, 1, 13⟩⟩]
    scan "A.b>= x\\|y )" = .ok ts ∧ Tiles "A.b>= x\\|y )" ts := by
  intro ts
  have hchars : "A.b>= x\\|y )".toList =
      ['A', '.', 'b', '>', '=', ' ', 'x', '\\', '|', 'y', ' ', ')'] := by decide
  have hscan : scan "A.b>= x\\|y )" = .ok ts := by
    unfold scan
    rw [hchars]
    cbv
  exact ⟨hscan, tiles_of_scan hscan⟩

end Token

end RecordFilter
