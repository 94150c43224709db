import RecordFilter.Proofs.Token.Cutting

/-!
# Putting texts together at a delimiter

A parenthesis or a connector ends whatever stands before it: no lexeme runs over it, since the only
way to carry it into a literal is a backslash, and no text that is cut to its end leaves a backslash
open. So two texts with a delimiter between them are cut as each of them is alone
(`Lexes.append`, `scan_push_append`).
-/

namespace RecordFilter

namespace Token

/-! ## Backslashes at the end -/

theorem hasDanglingBackslash_append {x : List Char} (hx : hasDanglingBackslash x = false)
    (y : List Char) : hasDanglingBackslash (x ++ y) = hasDanglingBackslash y := by
  unfold hasDanglingBackslash at hx ⊢
  rw [List.reverse_append, List.takeWhile_append]
  split_ifs with hall
  · rw [List.length_append, ← hall]
    grind
  · rfl

theorem hasDanglingBackslash_singleton (c : Char) :
    hasDanglingBackslash [c] = (c == '\\') := by
  unfold hasDanglingBackslash
  cases h : c == '\\' <;> simp [h]

theorem hasDanglingBackslash_cons {c : Char} (hc : c ≠ '\\') (s : List Char) :
    hasDanglingBackslash (c :: s) = hasDanglingBackslash s := by
  have hone : hasDanglingBackslash [c] = false := by
    rw [hasDanglingBackslash_singleton]
    exact beq_false_of_ne hc
  exact hasDanglingBackslash_append hone s

/-- A backslash and the character after it leave nothing open. -/
theorem hasDanglingBackslash_escaped (c : Char) (s : List Char) :
    hasDanglingBackslash ('\\' :: c :: s) = hasDanglingBackslash s := by
  have htwo : hasDanglingBackslash ['\\', c] = false := by
    by_cases hc : c = '\\'
    · subst hc
      rfl
    · have h : (c == '\\') = false := beq_false_of_ne hc
      simp [hasDanglingBackslash, h]
  exact hasDanglingBackslash_append htwo s

theorem not_dangling_of_not_mem {s : List Char} (h : '\\' ∉ s) :
    hasDanglingBackslash s = false := by
  induction s with
  | nil => rfl
  | cons c s ih =>
    rw [hasDanglingBackslash_cons fun hc => h (hc ▸ List.mem_cons_self)]
    exact ih fun hs => h (List.mem_cons_of_mem c hs)

/-! ## Backslashes in lexemes -/

theorem isNamePart_of_isNameStart {c : Char} (h : isNameStart c = true) : isNamePart c = true := by
  unfold isNameStart at h
  unfold isNamePart Char.isAlphanum
  grind

/-- A field name holds nothing but name characters and dots. -/
theorem mem_fieldTail {c : Char} {s : List Char} (h : c ∈ fieldTail s) :
    isNamePart c = true ∨ c = '.' := by
  induction s using fieldTail.induct with
  | case1 => cases h
  | case2 d hd =>
    rw [fieldTail, if_pos hd] at h
    exact .inl (List.mem_singleton.1 h ▸ hd)
  | case3 d hd =>
    rw [fieldTail, if_neg hd] at h
    cases h
  | case4 d e r hd ih =>
    rw [fieldTail, if_pos hd] at h
    rcases List.mem_cons.1 h with rfl | h
    · exact .inl hd
    · exact ih h
  | case5 d e r hd hdot ih =>
    rw [fieldTail, if_neg hd, if_pos hdot] at h
    obtain ⟨hdot, he⟩ := Bool.and_eq_true_iff.1 hdot
    rcases List.mem_cons.1 h with rfl | h
    · exact .inr (eq_of_beq hdot)
    rcases List.mem_cons.1 h with rfl | h
    · exact .inl (isNamePart_of_isNameStart he)
    · exact ih h
  | case6 d e r hd hdot =>
    rw [fieldTail, if_neg hd, if_neg hdot] at h
    cases h

theorem mem_fieldLexeme {c : Char} {s : List Char} (h : c ∈ fieldLexeme s) :
    isNamePart c = true ∨ c = '.' := by
  cases s with
  | nil => cases h
  | cons d r =>
    rw [fieldLexeme] at h
    split_ifs at h with hd
    · rcases List.mem_cons.1 h with rfl | h
      · exact .inl (isNamePart_of_isNameStart hd)
      · exact mem_fieldTail h
    · cases h

theorem not_dangling_fieldLexeme (s : List Char) :
    hasDanglingBackslash (fieldLexeme s) = false := by
  refine not_dangling_of_not_mem fun h => ?_
  rcases mem_fieldLexeme h with h | h
  · exact absurd h (by decide)
  · exact absurd h (by decide)

theorem not_dangling_literalLexeme (s : List Char) :
    hasDanglingBackslash (literalLexeme s) = false := by
  induction s using literalLexeme.induct with
  | case1 => rfl
  | case2 c hs =>
    rw [literalLexeme, if_pos hs]
    rfl
  | case3 c hs =>
    rw [literalLexeme, if_neg hs, hasDanglingBackslash_singleton]
    exact beq_false_of_ne fun hc => hs (hc ▸ rfl)
  | case4 c d r hc ih =>
    rw [literalLexeme, if_pos hc, eq_of_beq hc, hasDanglingBackslash_escaped]
    exact ih
  | case5 c d r hc hs =>
    rw [literalLexeme, if_neg hc, if_pos hs]
    rfl
  | case6 c d r hc hs ih =>
    rw [literalLexeme, if_neg hc, if_neg hs,
      hasDanglingBackslash_cons (ne_of_beq_false (Bool.eq_false_iff.2 hc))]
    exact ih

theorem Begins.not_dangling {s l : List Char} {k : TokenKind} (h : Begins s k l) :
    hasDanglingBackslash l = false := by
  cases h with
  | delimiter hs hc =>
    rcases delimiter?_cases hc with ⟨rfl, -⟩ | ⟨rfl, -⟩ | ⟨rfl, -⟩ | ⟨rfl, -⟩ <;> rfl
  | field => exact not_dangling_fieldLexeme s
  | @operator op hop => cases op <;> rfl
  | literal => exact not_dangling_literalLexeme s

theorem isSeparator_cases {c : Char} (h : isSeparator c = true) :
    c = ' ' ∨ c = '\t' ∨ c = '\r' ∨ c = '\n' := by
  simpa only [isSeparator, Bool.or_eq_true, beq_iff_eq, or_assoc] using h

theorem isSeparator_ne_backslash {c : Char} (h : isSeparator c = true) : c ≠ '\\' := by
  rintro rfl
  exact absurd h (by decide)

/-- A text that is cut to its end leaves no backslash open. -/
theorem Lexes.not_dangling {a : Awaiting} {s : List Char} {ks : List TokenKind}
    (h : Lexes a s ks) : hasDanglingBackslash s = false := by
  induction h with
  | nil => rfl
  | @separator a c s ks hc hs ih =>
    rw [hasDanglingBackslash_cons (isSeparator_ne_backslash hc)]
    exact ih
  | @piece a c l s k ks hc hfirst hs ih =>
    rw [hasDanglingBackslash_append (begins_of_first? hfirst).not_dangling]
    exact ih

/-! ## Where names and literals end -/

/-- A character that no field name goes on with ends the name before it. -/
theorem fieldTail_append {c : Char} (hc : isNamePart c = false) (hdot : c ≠ '.') (s t : List Char) :
    fieldTail (s ++ c :: t) = fieldTail s := by
  have hstop : fieldTail (c :: t) = [] := fieldTail_stop hc hdot t
  induction s using fieldTail.induct with
  | case1 => exact hstop
  | case2 d hd =>
    show fieldTail (d :: c :: t) = _
    rw [fieldTail_part hd, fieldTail_part hd, hstop, fieldTail]
  | case3 d hd =>
    have hstart : isNameStart c = false := by
      rw [← Bool.not_eq_true]
      exact fun h => Bool.false_ne_true (hc.symm.trans (isNamePart_of_isNameStart h))
    show fieldTail (d :: c :: t) = _
    simp [fieldTail, hd, hstart]
  | case4 d e r hd ih =>
    show fieldTail (d :: (e :: r ++ c :: t)) = _
    rw [fieldTail_part hd, fieldTail_part hd, ih]
  | case5 d e r hd hdot ih =>
    obtain ⟨hdot, he⟩ := Bool.and_eq_true_iff.1 hdot
    rw [eq_of_beq hdot]
    show fieldTail ('.' :: e :: (r ++ c :: t)) = _
    rw [fieldTail_dot he, fieldTail_dot he, ih]
  | case6 d e r hd hdot =>
    show fieldTail (d :: e :: (r ++ c :: t)) = _
    rw [fieldTail, if_neg hd, if_neg hdot, fieldTail, if_neg hd, if_neg hdot]

theorem fieldLexeme_append {c : Char} (hc : isNamePart c = false) (hdot : c ≠ '.') {s : List Char}
    (hs : s ≠ []) (t : List Char) : fieldLexeme (s ++ c :: t) = fieldLexeme s := by
  obtain ⟨d, r, rfl⟩ := List.exists_cons_of_ne_nil hs
  show fieldLexeme (d :: (r ++ c :: t)) = _
  rw [fieldLexeme, fieldLexeme, fieldTail_append hc hdot]

/-- A structural character ends the literal before it, unless a backslash is open there. -/
theorem literalLexeme_append {c : Char} (hc : Literal.isStructural c = true) (hne : c ≠ '\\')
    {s : List Char} (hs : hasDanglingBackslash s = false) (t : List Char) :
    literalLexeme (s ++ c :: t) = literalLexeme s := by
  have hstop : literalLexeme (c :: t) = [] := literalLexeme_stop hc hne t
  induction s using literalLexeme.induct with
  | case1 => exact hstop
  | case2 d hd =>
    have hd' : d ≠ '\\' := by
      rw [hasDanglingBackslash_singleton] at hs
      exact ne_of_beq_false hs
    show literalLexeme (d :: c :: t) = _
    rw [literalLexeme_stop hd hd', literalLexeme_stop hd hd']
  | case3 d hd =>
    have hd' := Bool.eq_false_iff.2 hd
    show literalLexeme (d :: c :: t) = _
    rw [literalLexeme_plain hd', literalLexeme_plain hd', hstop, literalLexeme]
  | case4 d e r hd ih =>
    rw [eq_of_beq hd] at hs ⊢
    rw [hasDanglingBackslash_escaped] at hs
    show literalLexeme ('\\' :: e :: (r ++ c :: t)) = _
    rw [literalLexeme_escaped, literalLexeme_escaped, ih hs]
  | case5 d e r hd hstruct =>
    have hd' := ne_of_beq_false (Bool.eq_false_iff.2 hd)
    show literalLexeme (d :: (e :: r ++ c :: t)) = _
    rw [literalLexeme_stop hstruct hd', literalLexeme_stop hstruct hd']
  | case6 d e r hd hstruct ih =>
    have hd' := Bool.eq_false_iff.2 hstruct
    rw [hasDanglingBackslash_cons (ne_of_beq_false (Bool.eq_false_iff.2 hd))] at hs
    show literalLexeme (d :: (e :: r ++ c :: t)) = _
    rw [literalLexeme_plain hd', literalLexeme_plain hd', ih hs]

/-! ## Where operators end -/

section Operator

variable {c d : Char}

/-- No operator has more than two characters. -/
theorem longestAt?_two (c d : Char) (s t : List Char) :
    Operator.longestAt? (c :: d :: s) = Operator.longestAt? (c :: d :: t) := by
  by_cases hc : c ∈ ['=', '!', '>', '<', '^', '*']
  · by_cases hd : d ∈ ['=', '*', '^', '$']
    · simp only [List.mem_cons, List.not_mem_nil, or_false] at hc hd
      rcases hc with rfl | rfl | rfl | rfl | rfl | rfl <;>
        rcases hd with rfl | rfl | rfl | rfl <;> rfl
    · simp only [List.mem_cons, List.not_mem_nil, or_false, not_or] at hc hd
      rcases hc with rfl | rfl | rfl | rfl | rfl | rfl <;> simp [Operator.longestAt?, hd]
  · rw [longestAt?_eq_none hc, longestAt?_eq_none hc]

/-- An operator goes on with one of four characters only. -/
theorem longestAt?_one (hd : d ∉ ['=', '*', '^', '$']) (c : Char) (s : List Char) :
    Operator.longestAt? (c :: d :: s) = Operator.longestAt? [c] := by
  by_cases hc : c ∈ ['=', '!', '>', '<', '^', '*']
  · simp only [List.mem_cons, List.not_mem_nil, or_false, not_or] at hc hd
    rcases hc with rfl | rfl | rfl | rfl | rfl | rfl <;> simp [Operator.longestAt?, hd]
  · rw [longestAt?_eq_none hc, longestAt?_eq_none hc]

end Operator

/-! ## Gluing at a delimiter -/

section Delimiter

variable {c : Char} {k : TokenKind}

theorem longestAt?_append (h : delimiter? c = some k) (s t : List Char) :
    Operator.longestAt? (s ++ c :: t) = Operator.longestAt? s := by
  have hc := delimiter?_cases h
  match s with
  | [] => rcases hc with ⟨rfl, -⟩ | ⟨rfl, -⟩ | ⟨rfl, -⟩ | ⟨rfl, -⟩ <;> rfl
  | [d] =>
    refine longestAt?_one ?_ d t
    rcases hc with ⟨rfl, -⟩ | ⟨rfl, -⟩ | ⟨rfl, -⟩ | ⟨rfl, -⟩ <;> decide
  | d :: e :: r => exact longestAt?_two d e (r ++ c :: t) r

theorem operator?_append (h : delimiter? c = some k) (s t : List Char) :
    operator? (s ++ c :: t) = operator? s := by
  unfold operator?
  rw [longestAt?_append h]

theorem literal?_append (h : delimiter? c = some k) {s : List Char}
    (hs : hasDanglingBackslash s = false) (t : List Char) :
    literal? (s ++ c :: t) = literal? s := by
  have hc : Literal.isStructural c = true ∧ c ≠ '\\' := by
    rcases delimiter?_cases h with ⟨rfl, -⟩ | ⟨rfl, -⟩ | ⟨rfl, -⟩ | ⟨rfl, -⟩ <;> decide
  unfold literal?
  rw [literalLexeme_append hc.1 hc.2 hs]

theorem element?_append (h : delimiter? c = some k) {s : List Char} (hs : s ≠ []) (t : List Char) :
    element? (s ++ c :: t) = element? s := by
  have hc : isNamePart c = false ∧ c ≠ '.' := by
    rcases delimiter?_cases h with ⟨rfl, -⟩ | ⟨rfl, -⟩ | ⟨rfl, -⟩ | ⟨rfl, -⟩ <;> decide
  have hf := fieldLexeme_append hc.1 hc.2 hs t
  obtain ⟨d, r, rfl⟩ := List.exists_cons_of_ne_nil hs
  show element? (d :: (r ++ c :: t)) = _
  rw [element?, element?, ← List.cons_append, hf]

theorem first?_append (h : delimiter? c = some k) {a : Awaiting} {s : List Char} (hs : s ≠ [])
    (hopen : hasDanglingBackslash s = false) (t : List Char) :
    first? a (s ++ c :: t) = first? a s := by
  cases a with
  | element => exact element?_append h hs t
  | operator =>
    show (operator? _).or (element? _) = (operator? s).or (element? s)
    rw [operator?_append h, element?_append h hs]
  | literal =>
    show (literal? _).or (element? _) = (literal? s).or (element? s)
    rw [literal?_append h hopen, element?_append h hs]

/-- A delimiter is no separator, and what comes behind it is no operator and no literal. -/
theorem after_delimiter (h : delimiter? c = some k) :
    isSeparator c = false ∧ Awaiting.after k = .element := by
  rcases delimiter?_cases h with ⟨rfl, rfl⟩ | ⟨rfl, rfl⟩ | ⟨rfl, rfl⟩ | ⟨rfl, rfl⟩ <;> decide

theorem Lexes.delimiter (h : delimiter? c = some k) (a : Awaiting) {s : List Char}
    {ks : List TokenKind} (hs : Lexes .element s ks) : Lexes a (c :: s) (k :: ks) := by
  obtain ⟨hc, hafter⟩ := after_delimiter h
  refine .piece (l := []) hc (first?_delimiter h a s) ?_
  rw [hafter]
  exact hs

/-- Two texts with a delimiter between them are cut as each of them is alone. -/
theorem Lexes.append (h : delimiter? c = some k) {a : Awaiting} {s t : List Char}
    {ks ks' : List TokenKind} (hs : Lexes a s ks) (ht : Lexes .element t ks') :
    Lexes a (s ++ c :: t) (ks ++ k :: ks') := by
  induction hs with
  | nil => exact ht.delimiter h _
  | separator hc hs ih => exact .separator hc ih
  | @piece a d l s k' ks hd hfirst hs ih =>
    have hall := (Lexes.piece hd hfirst hs).not_dangling
    have hfirst' := first?_append h (a := a) (List.cons_ne_nil d (l ++ s)) hall t
    rw [List.append_assoc]
    refine .piece hd ?_ ih
    rw [← List.append_assoc]
    exact hfirst'.trans hfirst

/-- Behind the delimiter a text is cut as if it stood alone. -/
theorem Lexes.of_append (h : delimiter? c = some k) {a : Awaiting} {s t : List Char}
    {ks ms : List TokenKind} (hs : Lexes a s ks) (hst : Lexes a (s ++ c :: t) ms) :
    ∃ ks', Lexes .element t ks' ∧ ms = ks ++ k :: ks' := by
  induction hs generalizing ms with
  | @nil a =>
    obtain ⟨hc, hafter⟩ := after_delimiter h
    obtain ⟨ks', ht, hms⟩ := hst.of_piece (l := []) hc (first?_delimiter h a t)
    rw [hafter] at ht
    exact ⟨ks', ht, hms⟩
  | separator hc hs ih => exact ih (hst.of_separator hc)
  | @piece a d l s k' ks hd hfirst hs ih =>
    have hall := (Lexes.piece hd hfirst hs).not_dangling
    have hfirst' := first?_append h (a := a) (List.cons_ne_nil d (l ++ s)) hall t
    rw [List.append_assoc] at hst
    rw [← List.cons_append, List.append_assoc] at hfirst'
    obtain ⟨ms, hrest, rfl⟩ := hst.of_piece hd (hfirst'.trans hfirst)
    obtain ⟨ks', ht, rfl⟩ := ih hrest
    exact ⟨ks', ht, rfl⟩

end Delimiter

/-! ## Scanning -/

theorem map_kind_place (gap : List Char) (pieces : List Piece) :
    ∀ t n, (place t n gap pieces).map Token.kind = pieces.map Piece.kind ++ [.eof] := by
  induction pieces with
  | nil => exact fun t n => rfl
  | cons piece rest ih => exact fun t n => congrArg (piece.kind :: ·) (ih _ _)

/-- A text is scanned exactly if it is cut to its end, into tokens of the same kinds. -/
theorem scan_of_lexes {input : String} {ks : List TokenKind}
    (h : Lexes .element input.toList ks) :
    ∃ ts, scan input = .ok ts ∧ ts.map Token.kind = ks ++ [.eof] := by
  obtain ⟨hrest, hkinds⟩ := cut_of_lexes h
  unfold scan
  dsimp only
  rw [h.not_dangling, if_neg Bool.false_ne_true, hrest]
  refine ⟨_, rfl, ?_⟩
  rw [map_kind_place, hkinds]

theorem lexes_of_scan {input : String} {ts : List Token} (h : scan input = .ok ts) :
    ∃ ks, Lexes .element input.toList ks ∧ ts.map Token.kind = ks ++ [.eof] := by
  unfold scan at h
  dsimp only at h
  split_ifs at h
  split at h
  · next hrest =>
    cases h
    exact ⟨_, lexes_iff_cut.2 ⟨hrest, rfl⟩, map_kind_place ..⟩
  · cases h

/-- Behind a text that is accepted, a delimiter and a second text are accepted just if the second
text is, and the tokens are those of the first without its end, the delimiter, and those of the
second. -/
theorem scan_push_append {c : Char} {k : TokenKind} (h : delimiter? c = some k) {s t : String}
    {us : List Token} (hs : scan s = .ok us) :
    ((∃ ws, scan (s.push c ++ t) = .ok ws) ↔ ∃ vs, scan t = .ok vs) ∧
    ∀ vs ws, scan t = .ok vs → scan (s.push c ++ t) = .ok ws →
      ∃ ks, us.map Token.kind = ks ++ [.eof] ∧
        ws.map Token.kind = ks ++ k :: vs.map Token.kind := by
  have htext : (s.push c ++ t).toList = s.toList ++ c :: t.toList := by simp
  obtain ⟨ks, hks, hus⟩ := lexes_of_scan hs
  refine ⟨⟨?_, ?_⟩, ?_⟩
  · rintro ⟨ws, hws⟩
    obtain ⟨ms, hms, -⟩ := lexes_of_scan hws
    rw [htext] at hms
    obtain ⟨ks', hks', -⟩ := hks.of_append h hms
    obtain ⟨vs, hvs, -⟩ := scan_of_lexes hks'
    exact ⟨vs, hvs⟩
  · rintro ⟨vs, hvs⟩
    obtain ⟨ks', hks', -⟩ := lexes_of_scan hvs
    have hall := hks.append h hks'
    rw [← htext] at hall
    obtain ⟨ws, hws, -⟩ := scan_of_lexes hall
    exact ⟨ws, hws⟩
  · intro vs ws hvs hws
    obtain ⟨ks', hks', hvs⟩ := lexes_of_scan hvs
    obtain ⟨ms, hms, hws⟩ := lexes_of_scan hws
    rw [htext] at hms
    refine ⟨ks, hus, ?_⟩
    rw [hws, hvs, hms.unique (hks.append h hks'), List.append_assoc, List.cons_append]

/-- The first text ends in an escaped parenthesis and a space, and the second has a condition
without its literal. -/
theorem scan_push_append_escaped_parenthesis :
    let ts : List Token := [⟨.field "A", "A", ⟨0, 1, 1, 1⟩⟩,
      ⟨.operator .equalIgnoringCase, "=", ⟨1, 2, 1, 2⟩⟩, ⟨.value ")", "\\) ", ⟨2, 5, 1, 3⟩⟩,
      ⟨.eof, "", ⟨5, 5, 1, 6⟩⟩]
    scan "A=\\) " = .ok ts ∧ delimiter? ')' = some .rightParen ∧
    ((∃ ws, scan ("A=\\) ".push ')' ++ "|B>") = .ok ws) ↔ ∃ vs, scan "|B>" = .ok vs) ∧
    ∀ vs ws, scan "|B>" = .ok vs → scan ("A=\\) ".push ')' ++ "|B>") = .ok ws →
      ∃ ks, ts.map Token.kind = ks ++ [.eof] ∧
        ws.map Token.kind = ks ++ .rightParen :: vs.map Token.kind := by
  intro ts
  have hchars : "A=\\) ".toList = ['A', '=', '\\', ')', ' '] := by decide
  have hscan : scan "A=\\) " = .ok ts := by
    unfold scan
    rw [hchars]
    cbv
  exact ⟨hscan, rfl, scan_push_append rfl hscan⟩

end Token

end RecordFilter
