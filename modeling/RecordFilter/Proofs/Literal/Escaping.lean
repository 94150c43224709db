import RecordFilter.Proofs.Literal.Letters
import RecordFilter.Proofs.Token.Gluing

/-!
# Written literals read back as themselves

`escape` guards the structural characters and the blank ones at the ends, so the lexer takes all of
a written text as one literal and `unescape` gives the text back. The null literal is written as its
word, which no escaped text is mistaken for. Only the empty text has no written form.
-/

namespace RecordFilter

namespace Literal

/-! ## Letters -/

theorem ne_backslash_of_not_structural {c : Char} (hc : isStructural c = false) : c ≠ '\\' := by
  rintro rfl
  exact absurd hc (by decide)

theorem map_char_letters_escapeTail (s : List Char) :
    (letters (escapeTail s)).map Letter.char = s := by
  induction s with
  | nil => rfl
  | cons c r ih =>
    rw [escapeTail]
    split_ifs with hc
    · rw [letters_escaped, List.map_cons, ih]
    · simp only [Bool.not_eq_true, Bool.or_eq_false_iff] at hc
      rw [letters_plain (ne_backslash_of_not_structural hc.1), List.map_cons, ih]

/-- The last letter of an escaped text stays when its ends are trimmed. -/
theorem isLoose_getLast?_escapeTail (s : List Char) :
    ∀ u ∈ (letters (escapeTail s)).getLast?, u.isLoose = false := by
  induction s with
  | nil => exact fun u hu => absurd hu (by simp [escapeTail, letters])
  | cons c r ih =>
    intro u hu
    rw [escapeTail] at hu
    cases r with
    | nil =>
      split_ifs at hu with hc
      · cases hu
        rfl
      · simp only [Bool.not_eq_true, Bool.or_eq_false_iff] at hc
        rw [letters_plain (ne_backslash_of_not_structural hc.1)] at hu
        obtain rfl : ⟨c, false⟩ = u := Option.some.inj hu
        simpa [Letter.isLoose] using hc.2
    | cons d t =>
      have hne : letters (escapeTail (d :: t)) ≠ [] := by
        intro hnil
        have h := map_char_letters_escapeTail (d :: t)
        rw [hnil] at h
        cases h
      refine ih u ?_
      split_ifs at hu with hc
      · rw [letters_escaped, List.getLast?_cons_of_ne_nil hne] at hu
        exact hu
      · simp only [Bool.not_eq_true, Bool.or_eq_false_iff] at hc
        rw [letters_plain (ne_backslash_of_not_structural hc.1),
          List.getLast?_cons_of_ne_nil hne] at hu
        exact hu

theorem trimLetters_eq_self {us : List Letter} (hhead : ∀ u ∈ us.head?, u.isLoose = false)
    (hlast : ∀ u ∈ us.getLast?, u.isLoose = false) : trimLetters us = us := by
  have hdrop : us.dropWhile Letter.isLoose = us := by
    cases us with
    | nil => rfl
    | cons u us => exact List.dropWhile_cons_of_neg (by rw [hhead u rfl]; exact Bool.false_ne_true)
  show List.rdropWhile Letter.isLoose (us.dropWhile Letter.isLoose) = us
  rw [hdrop, List.rdropWhile_eq_self_iff]
  intro hne
  rw [hlast _ (List.getLast?_eq_some_getLast hne)]
  exact Bool.false_ne_true

/-- What `escape` writes for a text that is neither empty nor the word `null`: a first letter that
stays, and the rest. -/
theorem letters_escape_cons {c : Char} {r : List Char} (hnull : c :: r ≠ nullWord.toList) :
    ∃ u : Letter, u.char = c ∧ u.isLoose = false ∧
      letters (escape (c :: r)) = u :: letters (escapeTail r) := by
  unfold escape
  rw [if_neg hnull]
  dsimp only
  split_ifs with hc
  · exact ⟨⟨c, true⟩, rfl, rfl, letters_escaped c _⟩
  · simp only [Bool.not_eq_true, Bool.or_eq_false_iff] at hc
    obtain ⟨⟨hplain, hblank⟩, -⟩ := hc
    refine ⟨⟨c, false⟩, rfl, ?_, letters_plain (ne_backslash_of_not_structural hplain) _⟩
    simpa [Letter.isLoose] using hblank

theorem unescape_escape (s : List Char) : unescape (escape s) = s := by
  rw [unescape_eq]
  by_cases hnull : s = nullWord.toList
  · subst hnull
    rfl
  cases s with
  | nil => rfl
  | cons c r =>
    obtain ⟨u, rfl, hloose, hletters⟩ := letters_escape_cons hnull
    have hlast : ∀ v ∈ (u :: letters (escapeTail r)).getLast?, v.isLoose = false := by
      intro v hv
      cases hr : letters (escapeTail r) with
      | nil =>
        rw [hr] at hv
        cases hv
        exact hloose
      | cons w ws =>
        have hne : letters (escapeTail r) ≠ [] := by
          rw [hr]
          exact List.cons_ne_nil w ws
        rw [List.getLast?_cons_of_ne_nil hne] at hv
        exact isLoose_getLast?_escapeTail r v hv
    have hhead : ∀ v ∈ (u :: letters (escapeTail r)).head?, v.isLoose = false := by
      intro v hv
      cases hv
      exact hloose
    rw [hletters, trimLetters_eq_self hhead hlast, List.map_cons, map_char_letters_escapeTail]

/-! ## Raw texts -/

/-- The backslashes of a text can be paired unless the last one has no character behind it. -/
theorem pairs_letters {raw : List Char} (h : Token.hasDanglingBackslash raw = false) :
    Pairs raw (letters raw) := by
  induction raw using letters.induct with
  | case1 => exact ⟨rfl, fun u hu => absurd hu List.not_mem_nil⟩
  | case2 => cases h
  | case3 c r ih =>
    rw [Token.hasDanglingBackslash_escaped] at h
    obtain ⟨hwritten, hplain⟩ := ih h
    rw [letters_escaped]
    refine ⟨congrArg ('\\' :: c :: ·) hwritten, List.forall_mem_cons.2 ⟨?_, hplain⟩⟩
    rintro ⟨⟩
  | case4 c r hend hnext ih =>
    have hc := ne_backslash hend hnext
    rw [Token.hasDanglingBackslash_cons hc] at h
    obtain ⟨hwritten, hplain⟩ := ih h
    rw [letters_plain hc]
    exact ⟨congrArg (c :: ·) hwritten, List.forall_mem_cons.2 ⟨fun _ => hc, hplain⟩⟩

/-- Every text is read back from what is written for it. A raw text whose last backslash escapes
something stands for its letters, without the longest beginning and the longest end of unescaped
blank ones. -/
theorem unescape_reads_letters :
    (∀ s, unescape (escape s) = s) ∧
    ∀ raw, Token.hasDanglingBackslash raw = false →
      (∃ us, Pairs raw us) ∧ ∀ us, Pairs raw us →
        unescape raw =
          ((us.dropWhile Letter.isLoose).rdropWhile Letter.isLoose).map Letter.char := by
  refine ⟨unescape_escape, fun raw hraw => ⟨⟨_, pairs_letters hraw⟩, fun us hus => ?_⟩⟩
  rw [unescape_eq, hus.letters_eq]
  rfl

/-- The escaped space at the front stays, and so does the escaped backslash in front of a no-break
space, which goes. -/
theorem unescape_reads_letters_between_blanks :
    let raw := [' ', '\\', ' ', 'a', ' ', '\\', '\\', '\u00a0']
    Token.hasDanglingBackslash raw = false ∧
    Pairs raw [⟨' ', false⟩, ⟨' ', true⟩, ⟨'a', false⟩, ⟨' ', false⟩, ⟨'\\', true⟩,
      ⟨'\u00a0', false⟩] ∧
    unescape raw = [' ', 'a', ' ', '\\'] := by
  intro raw
  have hpairs : Pairs raw [⟨' ', false⟩, ⟨' ', true⟩, ⟨'a', false⟩, ⟨' ', false⟩, ⟨'\\', true⟩,
      ⟨'\u00a0', false⟩] := ⟨rfl, by decide⟩
  exact ⟨by decide, hpairs, (unescape_reads_letters.2 raw (by decide)).2 _ hpairs⟩

/-- What a written text begins with. -/
theorem head_escape (s : List Char) : ∀ c ∈ (escape s).head?,
    c = '\\' ∨ isStructural c = false ∧ Text.isBlank c = false ∧ c ≠ '*' := by
  intro c hc
  unfold escape at hc
  split_ifs at hc with hnull
  · cases hc
    exact .inl rfl
  · cases s with
    | nil => cases hc
    | cons d r =>
      dsimp only at hc
      split_ifs at hc with hd
      · cases hc
        exact .inl rfl
      · cases hc
        simp only [Bool.not_eq_true, Bool.or_eq_false_iff] at hd
        obtain ⟨⟨hplain, hblank⟩, hstar⟩ := hd
        exact .inr ⟨hplain, hblank, ne_of_beq_false hstar⟩

theorem escape_eq_nil {s : List Char} : escape s = [] ↔ s = [] := by
  constructor
  · intro h
    rw [← unescape_escape s, h]
    rfl
  · rintro rfl
    rfl

/-! ## The word `null` -/

theorem mem_trim {c : Char} {s : List Char} (hc : Text.isBlank c = false) (h : c ∈ s) :
    c ∈ Text.trim s := by
  have hdrop : ∀ t : List Char, c ∈ t → c ∈ t.dropWhile Text.isBlank := by
    intro t ht
    rw [← List.takeWhile_append_dropWhile (p := Text.isBlank) (l := t), List.mem_append] at ht
    rcases ht with ht | ht
    · have hblank := List.mem_takeWhile_imp ht
      rw [hc] at hblank
      cases hblank
    · exact ht
  unfold Text.trim Text.trimEnd Text.trimStart
  rw [List.mem_reverse]
  exact hdrop _ (List.mem_reverse.2 (hdrop s h))

theorem letters_of_not_mem {s : List Char} (h : '\\' ∉ s) :
    letters s = s.map fun c => ⟨c, false⟩ := by
  induction s with
  | nil => rfl
  | cons c s ih =>
    have hc : c ≠ '\\' := fun hc => h (hc ▸ List.mem_cons_self)
    rw [letters_plain hc, ih fun hs => h (List.mem_cons_of_mem c hs), List.map_cons]

/-- Without backslashes a literal stands for its trimmed self. -/
theorem unescape_of_not_mem {s : List Char} (h : '\\' ∉ s) : unescape s = Text.trim s := by
  have hloose : (Letter.isLoose ∘ fun c => ⟨c, false⟩) = Text.isBlank := by
    funext c
    simp [Letter.isLoose]
  rw [unescape_eq]
  unfold trimLetters List.rdropWhile Text.trim Text.trimEnd Text.trimStart
  rw [letters_of_not_mem h, List.dropWhile_map, hloose, ← List.map_reverse, List.dropWhile_map,
    hloose, ← List.map_reverse, List.map_map]
  exact List.map_id _

/-- An escaped text is never the bare word: it would unescape to it, and `null` gets a backslash. -/
theorem trim_escape_ne_null (s : List Char) : Text.trim (escape s) ≠ nullWord.toList := by
  intro h
  have hmem : '\\' ∉ escape s := by
    intro hmem
    have htrim := mem_trim (by decide) hmem
    rw [h] at htrim
    exact absurd htrim (by decide)
  have hs : s = nullWord.toList := by
    rw [← unescape_escape s, unescape_of_not_mem hmem, h]
  subst hs
  exact absurd h (by decide)

/-- A written text reads back as itself. -/
theorem ofRaw_escape (s : String) : ofRaw (escape s.toList) = text s := by
  unfold ofRaw
  rw [if_neg (trim_escape_ne_null s.toList), unescape_escape, String.ofList_toList]

theorem ofRaw_render (l : Literal) : ofRaw l.render.toList = l := by
  cases l with
  | text s =>
    show ofRaw (String.ofList (escape s.toList)).toList = _
    rw [String.toList_ofList, ofRaw_escape]
  | null => rfl

/-! ## One lexeme -/

theorem literalLexeme_escapeTail (s : List Char) :
    Token.literalLexeme (escapeTail s) = escapeTail s := by
  induction s with
  | nil => rfl
  | cons c r ih =>
    rw [escapeTail]
    split_ifs with hc
    · rw [Token.literalLexeme_escaped, ih]
    · simp only [Bool.not_eq_true, Bool.or_eq_false_iff] at hc
      rw [Token.literalLexeme_plain hc.1, ih]

theorem literalLexeme_escape (s : List Char) : Token.literalLexeme (escape s) = escape s := by
  unfold escape
  split_ifs with hnull
  · subst hnull
    rfl
  · cases s with
    | nil => rfl
    | cons c r =>
      dsimp only
      split_ifs with hc
      · rw [Token.literalLexeme_escaped, literalLexeme_escapeTail]
      · simp only [Bool.not_eq_true, Bool.or_eq_false_iff] at hc
        rw [Token.literalLexeme_plain hc.1.1, literalLexeme_escapeTail]

theorem literalLexeme_render (l : Literal) :
    Token.literalLexeme l.render.toList = l.render.toList := by
  cases l with
  | text s =>
    show Token.literalLexeme (String.ofList (escape s.toList)).toList = _
    rw [String.toList_ofList, literalLexeme_escape]
    exact String.toList_ofList.symm
  | null => rfl

end Literal

end RecordFilter
