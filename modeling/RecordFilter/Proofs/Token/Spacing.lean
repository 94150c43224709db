import RecordFilter.Proofs.Filter.Spelling
import RecordFilter.Proofs.Token.Next
import RecordFilter.Proofs.Token.Tiling

/-!
# Separators between tokens

Separators may be put in front of any token, and at the end, without a change to what a text is cut
into (`Scans.lexes_spread`). Behind a name or an operator they are skipped. A literal takes those
behind it into its lexeme, and they are trimmed again (`ofRaw_append_blanks`).
-/

namespace RecordFilter

/-! ## Blanks behind a literal -/

section Blanks

variable {raw w : List Char}

/-- What is dropped from the end of a list may be added there. -/
theorem dropEnds_append {α : Type} {p : α → Bool} {w : List α} (hw : ∀ x ∈ w, p x = true)
    (l : List α) : ((l ++ w).dropWhile p).rdropWhile p = (l.dropWhile p).rdropWhile p := by
  have hdrop : ∀ m : List α, (m ++ w).rdropWhile p = m.rdropWhile p := by
    intro m
    unfold List.rdropWhile
    rw [List.reverse_append, List.dropWhile_append_of_pos fun x hx => hw x (List.mem_reverse.1 hx)]
  rw [List.dropWhile_append]
  split_ifs with hl
  · rw [List.isEmpty_iff.1 hl, List.dropWhile_eq_nil_iff.2 hw]
  · exact hdrop _

namespace Literal

theorem letters_append (hopen : Token.hasDanglingBackslash raw = false) (s : List Char) :
    letters (raw ++ s) = letters raw ++ letters s := by
  induction raw using letters.induct with
  | case1 => rfl
  | case2 => cases hopen
  | case3 c r ih =>
    rw [Token.hasDanglingBackslash_escaped] at hopen
    rw [List.cons_append, List.cons_append, letters_escaped, letters_escaped, ih hopen,
      List.cons_append]
  | case4 c r hend hnext ih =>
    have hc := ne_backslash hend hnext
    rw [Token.hasDanglingBackslash_cons hc] at hopen
    rw [List.cons_append, letters_plain hc, letters_plain hc, ih hopen, List.cons_append]

theorem ofRaw_append_blanks (hopen : Token.hasDanglingBackslash raw = false)
    (hw : ∀ c ∈ w, Text.isBlank c = true) : ofRaw (raw ++ w) = ofRaw raw := by
  have htrim : Text.trim (raw ++ w) = Text.trim raw := dropEnds_append hw raw
  have hplain : '\\' ∉ w := fun h => absurd (hw _ h) (by decide)
  have hloose : ∀ u ∈ letters w, u.isLoose = true := by
    rw [letters_of_not_mem hplain]
    intro u hu
    obtain ⟨c, hc, rfl⟩ := List.mem_map.1 hu
    simpa [Letter.isLoose] using hw c hc
  have hunescape : unescape (raw ++ w) = unescape raw := by
    rw [unescape_eq, unescape_eq, letters_append hopen]
    exact congrArg (List.map Letter.char) (dropEnds_append hloose (letters raw))
  unfold ofRaw
  rw [htrim, hunescape]

end Literal

end Blanks

namespace Token

/-! ## Raw literals -/

theorem IsRaw.append {s t : List Char} (hs : IsRaw s) (ht : IsRaw t) : IsRaw (s ++ t) := by
  induction hs with
  | nil => exact ht
  | plain hc hs ih => exact .plain hc ih
  | escaped hs ih => exact .escaped ih

theorem IsRaw.literalLexeme_eq {s : List Char} (h : IsRaw s) : literalLexeme s = s := by
  induction h with
  | nil => rfl
  | plain hc hs ih => rw [literalLexeme_plain hc, ih]
  | escaped hs ih => rw [literalLexeme_escaped, ih]

theorem isRaw_of_separators {w : List Char} (hw : ∀ c ∈ w, isSeparator c = true) : IsRaw w := by
  induction w with
  | nil => exact .nil
  | cons c w ih =>
    have hc : Literal.isStructural c = false := by
      rcases isSeparator_cases (hw c List.mem_cons_self) with rfl | rfl | rfl | rfl <;> decide
    exact .plain hc (ih fun d hd => hw d (List.mem_cons_of_mem c hd))

/-! ## The first token in front of a wider gap -/

section Widened

variable {c : Char} {l rest w t : List Char} {ks : List TokenKind}

theorem fieldTail_eq_nil {s : List Char} (h : ∀ d ∈ s.head?, isNamePart d = false ∧ d ≠ '.') :
    fieldTail s = [] := by
  cases s with
  | nil => rfl
  | cons d s => exact fieldTail_stop (h d rfl).1 (h d rfl).2 s

/-- What follows a name in a text that is cut to its end does not go on with it. -/
theorem not_isNamePart_of_lexes (hname : fieldTail rest = []) (h : Lexes .operator rest ks) :
    ∀ d ∈ rest.head?, isNamePart d = false ∧ d ≠ '.' := by
  have hpart : ∀ d r, rest = d :: r → isNamePart d = false := by
    rintro d r rfl
    rw [← Bool.not_eq_true]
    intro hd
    rw [fieldTail_part hd] at hname
    cases hname
  cases h with
  | nil => exact fun d hd => by cases hd
  | @separator _ e s _ he hs =>
    rintro d ⟨⟩
    refine ⟨hpart e s rfl, ?_⟩
    rintro rfl
    exact absurd he (by decide)
  | @piece _ e l s k _ he hfirst hs =>
    rintro d ⟨⟩
    refine ⟨hpart e (l ++ s) rfl, ?_⟩
    rintro rfl
    have hnone : first? .operator ('.' :: l ++ s) = none := rfl
    rw [hnone] at hfirst
    cases hfirst

/-- A name is cut off in front of a wider gap. -/
theorem fieldTail_widened (hname : fieldTail (l ++ rest) = l) (hstart : isNameStart c = true)
    (hrest : Lexes .operator rest ks) (hw : ∀ d ∈ w, isSeparator d = true)
    (ht : t.head? = rest.head?) : fieldTail (l ++ (w ++ t)) = l := by
  have hlexeme : fieldLexeme (c :: l ++ rest) = c :: l := by
    rw [List.cons_append, fieldLexeme, if_pos hstart, hname]
  have hfield : IsFieldName (c :: l) := by
    rw [← hlexeme]
    exact isFieldName_fieldLexeme (by rw [hlexeme]; exact List.cons_ne_nil c l)
  have happend : ∀ u, fieldTail u = [] → fieldTail (l ++ u) = l := by
    intro u hu
    have h := hfield.fieldLexeme_append u
    rw [hu, List.append_nil, List.cons_append, fieldLexeme, if_pos hstart] at h
    exact List.cons_injective h
  have hstop : fieldTail rest = [] := by
    have h := hfield.fieldLexeme_append rest
    rw [hlexeme] at h
    simpa using h
  refine happend _ (fieldTail_eq_nil fun d hd => ?_)
  cases w with
  | nil =>
    refine not_isNamePart_of_lexes hstop hrest d ?_
    rwa [← ht]
  | cons e w =>
    cases hd
    have he := hw _ List.mem_cons_self
    rcases isSeparator_cases he with rfl | rfl | rfl | rfl <;> decide

/-- An operator is cut off in front of a wider gap. -/
theorem longestAt?_widened {op : Operator}
    (hop : Operator.longestAt? (op.symbol.toList ++ rest) = some op)
    (hw : ∀ d ∈ w, isSeparator d = true) (ht : t.head? = rest.head?) :
    Operator.longestAt? (op.symbol.toList ++ (w ++ t)) = some op := by
  cases w with
  | cons e w =>
    refine longestAt?_symbol_append op ?_
    rintro d ⟨⟩
    have he := hw _ List.mem_cons_self
    rcases isSeparator_cases he with rfl | rfl | rfl | rfl <;> decide
  | nil =>
    cases rest with
    | nil =>
      rw [List.head?_nil, List.head?_eq_none_iff] at ht
      rw [ht]
      exact hop
    | cons d r =>
      obtain ⟨t, rfl⟩ := List.head?_eq_some_iff.1 ht
      rw [← hop]
      exact longestAt?_append_cons op.symbol_ne_nil d t r

/-- A literal takes the gap behind it into its lexeme. -/
theorem literalLexeme_widened {raw : List Char} (hraw : literalLexeme (raw ++ rest) = raw)
    (hopen : hasDanglingBackslash rest = false) (hw : ∀ d ∈ w, isSeparator d = true)
    (ht : t.head? = rest.head?) : literalLexeme (raw ++ w ++ t) = raw ++ w := by
  have hself : literalLexeme (raw ++ w) = raw ++ w := by
    have hisRaw := isRaw_literalLexeme (raw ++ rest)
    rw [hraw] at hisRaw
    exact (hisRaw.append (isRaw_of_separators hw)).literalLexeme_eq
  cases t with
  | nil => rwa [List.append_nil]
  | cons d t =>
    have hd : Literal.isStructural d = true ∧ d ≠ '\\' :=
      isStructural_behind_literalLexeme (by rw [hraw]) hopen d (by rw [← ht]; rfl)
    have hclosed := not_dangling_literalLexeme (raw ++ w)
    rw [hself] at hclosed
    rw [literalLexeme_append hd.1 hd.2 hclosed, hself]

/-- A first token with more separators behind it. -/
theorem Lexes.widened {a : Awaiting} {k : TokenKind} {ms : List TokenKind}
    (hc : isSeparator c = false) (hfirst : first? a (c :: l ++ rest) = some (k, c :: l))
    (hrest : Lexes (.after k) rest ks) (hw : ∀ d ∈ w, isSeparator d = true)
    (ht : t.head? = rest.head?) (h : Lexes (.after k) (w ++ t) ms) :
    Lexes a (c :: l ++ (w ++ t)) (k :: ms) := by
  have hnext := first?_eq_some_iff.1 hfirst
  generalize hs : c :: l ++ rest = s at hnext
  generalize hl : c :: l = lexeme at hnext
  cases hnext with
  | delimiter hd =>
    cases hl
    rw [(after_delimiter hd).2] at h
    exact h.delimiter hd a
  | field ha hstart =>
    cases hs
    obtain ⟨-, hname⟩ := List.cons.inj hl
    have hwide := fieldTail_widened hname.symm hstart hrest hw ht
    have hnext : Next a (c :: (l ++ (w ++ t))) _ _ := .field ha hstart
    rw [hwide] at hnext
    rw [← hname] at h ⊢
    exact .piece hc (first?_eq_some_iff.2 hnext) h
  | @operator _ op hop =>
    rw [← hs, hl] at hop
    have hnext : Next .operator _ _ _ := .operator (longestAt?_widened hop hw ht)
    rw [← hl] at hnext ⊢
    exact .piece hc (first?_eq_some_iff.2 hnext) h
  | literal =>
    -- the gap goes into the lexeme, and what follows is cut as if it had none
    rw [← hs] at hl h hrest ⊢
    rw [← hl] at h hrest ⊢
    have hwide := literalLexeme_widened hl.symm hrest.not_dangling hw ht
    have hopen := not_dangling_literalLexeme (c :: l ++ rest)
    rw [← hl] at hopen
    have hraw := Literal.ofRaw_append_blanks hopen fun d hd => isBlank_of_isSeparator (hw d hd)
    have hne : literalLexeme (c :: l ++ w ++ t) ≠ [] := by
      rw [hwide]
      exact List.cons_ne_nil c (l ++ w)
    have hnext := Next.literal hne
    rw [hwide, hraw] at hnext
    rw [← List.append_assoc]
    exact .piece hc (first?_eq_some_iff.2 hnext) (h.of_separators hw)

end Widened

/-! ## Texts with separators put in -/

/-- The text `s` that stands at the byte `n`, with `f m` put in at each byte `m`: in front of the
character there, or at the end. -/
def spread (f : Nat → List Char) : Nat → List Char → List Char
  | n, [] => f n
  | n, c :: s => f n ++ c :: spread f (n + c.utf8Size) s

section Spread

variable {f : Nat → List Char}

/-- What is put in in front of a character leaves the character there. -/
theorem exists_spread_eq (f : Nat → List Char) (n : Nat) (s : List Char) :
    ∃ t, spread f n s = f n ++ t ∧ t.head? = s.head? := by
  cases s with
  | nil => exact ⟨[], (List.append_nil _).symm, rfl⟩
  | cons c s => exact ⟨_, rfl, rfl⟩

/-- A lexeme stays whole if nothing is put inside. -/
theorem spread_lexeme (c : Char) (l s : List Char) (n : Nat)
    (hfree : ∀ m, n < m → m < n + Text.byteLength (c :: l) → f m = []) :
    spread f n (c :: l ++ s) = f n ++ (c :: l ++ spread f (n + Text.byteLength (c :: l)) s) := by
  induction l generalizing c n with
  | nil => rfl
  | cons d l ih =>
    have hlen : n + Text.byteLength (c :: d :: l) =
        n + c.utf8Size + Text.byteLength (d :: l) := by
      rw [Text.byteLength_cons]
      omega
    have hc := c.utf8Size_pos
    have hl := Text.byteLength_pos (List.cons_ne_nil d l)
    have htail := ih d (n + c.utf8Size) fun m hm hlt => hfree m (by omega) (by omega)
    have hnone : f (n + c.utf8Size) = [] := hfree _ (by omega) (by omega)
    rw [hnone, List.nil_append] at htail
    rw [hlen]
    exact congrArg (fun u => f n ++ c :: u) htail

variable (hf : ∀ n, ∀ c ∈ f n, isSeparator c = true)
include hf

/-- A gap becomes a wider gap. -/
theorem exists_spread_separators {gap : List Char} (hgap : ∀ c ∈ gap, isSeparator c = true)
    (n : Nat) (s : List Char) : ∃ wide, (∀ c ∈ wide, isSeparator c = true) ∧
      spread f n (gap ++ s) = wide ++ spread f (n + Text.byteLength gap) s := by
  induction gap generalizing n with
  | nil => exact ⟨[], fun c hc => absurd hc List.not_mem_nil, rfl⟩
  | cons c gap ih =>
    obtain ⟨hc, hgap⟩ := List.forall_mem_cons.1 hgap
    obtain ⟨wide, hwide, heq⟩ := ih hgap (n + c.utf8Size)
    refine ⟨f n ++ c :: wide, ?_, ?_⟩
    · exact List.forall_mem_append.2 ⟨hf n, List.forall_mem_cons.2 ⟨hc, hwide⟩⟩
    · rw [List.cons_append, spread, heq, Text.byteLength_cons, Nat.add_assoc, List.append_assoc,
        List.cons_append]

/-- Separators that are put in outside of the tokens change nothing about what is cut. -/
theorem Scans.lexes_spread {a : Awaiting} {before s : List Char} {ts : List Token}
    (h : Scans a before s ts)
    (hfree : ∀ t ∈ ts, ∀ n, t.span.start < n → n < t.span.stop → f n = []) :
    ∃ ks, Lexes a (spread f (Text.byteLength before) s) ks ∧ ts.map Token.kind = ks ++ [.eof] := by
  induction h with
  | @stop a before gap hgap =>
    obtain ⟨wide, hwide, heq⟩ := exists_spread_separators hf hgap (Text.byteLength before) []
    rw [List.append_nil] at heq
    have hend := (Lexes.nil (a := a)).separators (hf (Text.byteLength before + Text.byteLength gap))
    rw [List.append_nil] at hend
    refine ⟨[], ?_, rfl⟩
    rw [heq]
    exact hend.separators hwide
  | @piece a before gap l rest c k ts hgap hc hfirst hrest ih =>
    obtain ⟨htoken, hfree⟩ := List.forall_mem_cons.1 hfree
    obtain ⟨ks, hks, hts⟩ := ih hfree
    obtain ⟨wide, hwide, heq⟩ :=
      exists_spread_separators hf hgap (Text.byteLength before) (c :: l ++ rest)
    rw [← Text.byteLength_append] at heq
    obtain ⟨t, htail, ht⟩ :=
      exists_spread_eq f (Text.byteLength (before ++ gap) + Text.byteLength (c :: l)) rest
    rw [Text.byteLength_append, htail] at hks
    obtain ⟨ms, hms, -⟩ := hrest.lexes
    have hlexeme := spread_lexeme c l rest (Text.byteLength (before ++ gap)) htoken
    refine ⟨k :: ks, ?_, congrArg (k :: ·) hts⟩
    rw [heq, hlexeme, htail]
    exact ((Lexes.widened hc hfirst hms (hf _) ht hks).separators (hf _)).separators hwide

end Spread

/-- Spaces, tabs, carriage returns and line feeds that are put in anywhere but inside of a token
leave the kinds of the tokens as they are, and so the tree, up to places, or that there is none. -/
theorem scan_spread {input : String} {ts : List Token} (h : scan input = .ok ts)
    {f : Nat → List Char} (hf : ∀ n, ∀ c ∈ f n, c ∈ [' ', '\t', '\r', '\n'])
    (hfree : ∀ t ∈ ts, ∀ n, t.span.start < n → n < t.span.stop → f n = []) :
    (∃ us, scan (String.ofList (spread f 0 input.toList)) = .ok us ∧
      us.map Token.kind = ts.map Token.kind) ∧
    ((∃ g u, Filter.parse input = .ok g ∧
        Filter.parse (String.ofList (spread f 0 input.toList)) = .ok u ∧ u.unplaced = g.unplaced) ∨
      ∃ e e', Filter.parse input = .error e ∧
        Filter.parse (String.ofList (spread f 0 input.toList)) = .error e') := by
  have hsep : ∀ n, ∀ c ∈ f n, isSeparator c = true := by
    intro n c hc
    simpa [isSeparator, or_assoc] using hf n c hc
  have hscans := scans_of_scan h
  obtain ⟨ks, hks, hts⟩ := hscans.lexes
  obtain ⟨ms, hms, hts'⟩ := hscans.lexes_spread hsep hfree
  obtain rfl := List.append_cancel_right (hts.symm.trans hts')
  have hlex : Lexes .element (String.ofList (spread f 0 input.toList)).toList ks := by
    rw [String.toList_ofList]
    exact hms
  obtain ⟨us, hscan, hus⟩ := scan_of_lexes hlex
  exact ⟨⟨us, hscan, hus.trans hts.symm⟩, Filter.parse_of_lexes hks hlex⟩

/-- The literal of the second condition ends in an escaped space, and another space is put in behind
it. -/
theorem scan_spread_escaped_space :
    let ts : List Token := [⟨.field "A", "A", ⟨0, 1, 1, 1⟩⟩, ⟨.operator .equal, "==", ⟨1, 3, 1, 2⟩⟩,
      ⟨.null, "null", ⟨3, 7, 1, 4⟩⟩, ⟨.and, "&", ⟨7, 8, 1, 8⟩⟩, ⟨.field "B", "B", ⟨8, 9, 1, 9⟩⟩,
      ⟨.operator .less, "<", ⟨9, 10, 1, 10⟩⟩, ⟨.value "x ", "x\\ ", ⟨10, 13, 1, 11⟩⟩,
      ⟨.eof, "", ⟨13, 13, 1, 14⟩⟩]
    scan "A==null&B<x\\ " = .ok ts ∧
    ∃ us, scan "A ==\nnull\t&B<\rx\\  " = .ok us ∧ us.map Token.kind = ts.map Token.kind := by
  intro ts
  have hchars : "A==null&B<x\\ ".toList =
      ['A', '=', '=', 'n', 'u', 'l', 'l', '&', 'B', '<', 'x', '\\', ' '] := by decide
  have hscan : scan "A==null&B<x\\ " = .ok ts := by
    unfold scan
    rw [hchars]
    cbv
  let f : Nat → List Char := fun n =>
    if n = 1 ∨ n = 13 then [' '] else if n = 3 then ['\n'] else if n = 7 then ['\t']
    else if n = 10 then ['\r'] else []
  have hf : ∀ n, ∀ c ∈ f n, c ∈ [' ', '\t', '\r', '\n'] := by
    intro n c hc
    simp only [f] at hc
    split_ifs at hc <;> simp_all
  have hfree : ∀ t ∈ ts, ∀ n, n < t.span.stop → t.span.start < n → f n = [] := by
    simp only [ts, f]
    decide
  have htext : String.ofList (spread f 0 "A==null&B<x\\ ".toList) = "A ==\nnull\t&B<\rx\\  " := by
    rw [hchars]
    rfl
  have hspread := (scan_spread hscan hf fun t ht n hlt hgt => hfree t ht n hgt hlt).1
  rw [htext] at hspread
  exact ⟨hscan, hspread⟩

end Token

end RecordFilter
