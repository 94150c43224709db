import Mathlib
import RecordFilter.Token.Lexer

/-!
# The next token of a text

`Next a s k l` says that `s` begins with a token of the kind `k` with the lexeme `l`, where `a` is
what may come: a delimiter anywhere, a field name unless a literal may come, an operator or a
literal only where it may. It is the same as `first?`, without the order in which the readers are
asked (`first?_eq_some_iff`).
-/

namespace RecordFilter

/-- A parenthesis, a connector or the end: no part of a condition. -/
def TokenKind.isDelimiter : TokenKind → Bool
  | and | or | leftParen | rightParen | eof => true
  | _ => false

namespace Token

/-! ## How lexemes go on -/

section Lexeme

variable {c : Char}

theorem fieldTail_part (hc : isNamePart c = true) (s : List Char) :
    fieldTail (c :: s) = c :: fieldTail s := by
  cases s <;> simp [fieldTail, hc]

theorem fieldTail_dot (hc : isNameStart c = true) (s : List Char) :
    fieldTail ('.' :: c :: s) = '.' :: c :: fieldTail s := by
  have hdot : isNamePart '.' = false := by decide
  simp [fieldTail, hdot, hc]

theorem fieldTail_stop (hc : isNamePart c = false) (hdot : c ≠ '.') (s : List Char) :
    fieldTail (c :: s) = [] := by
  cases s <;> simp [fieldTail, hc, hdot]

theorem literalLexeme_escaped (c : Char) (s : List Char) :
    literalLexeme ('\\' :: c :: s) = '\\' :: c :: literalLexeme s := by
  rw [literalLexeme, if_pos (beq_self_eq_true '\\')]

theorem literalLexeme_plain (hc : Literal.isStructural c = false) (s : List Char) :
    literalLexeme (c :: s) = c :: literalLexeme s := by
  have hne : c ≠ '\\' := by
    rintro rfl
    exact absurd hc (by decide)
  cases s <;> simp [literalLexeme, hc, hne]

theorem literalLexeme_stop (hc : Literal.isStructural c = true) (hne : c ≠ '\\') (s : List Char) :
    literalLexeme (c :: s) = [] := by
  cases s <;> simp [literalLexeme, hc, hne]

end Lexeme

/-! ## The first lexeme -/

theorem fieldTail_isPrefix (s : List Char) : fieldTail s <+: s := by
  induction s using fieldTail.induct with
  | case1 => exact List.prefix_rfl
  | case2 c hc =>
    rw [fieldTail, if_pos hc]
  | case3 c hc =>
    rw [fieldTail, if_neg hc]
    exact List.nil_prefix
  | case4 c d r hc ih =>
    rw [fieldTail, if_pos hc]
    exact (List.prefix_cons_inj c).2 ih
  | case5 c d r hc hdot ih =>
    rw [fieldTail, if_neg hc, if_pos hdot]
    exact (List.prefix_cons_inj c).2 ((List.prefix_cons_inj d).2 ih)
  | case6 c d r hc hdot =>
    rw [fieldTail, if_neg hc, if_neg hdot]
    exact List.nil_prefix

theorem fieldLexeme_isPrefix (s : List Char) : fieldLexeme s <+: s := by
  cases s with
  | nil => exact List.prefix_rfl
  | cons c r =>
    rw [fieldLexeme]
    split_ifs
    · exact (List.prefix_cons_inj c).2 (fieldTail_isPrefix r)
    · exact List.nil_prefix

theorem literalLexeme_isPrefix (s : List Char) : literalLexeme s <+: s := by
  induction s using literalLexeme.induct with
  | case1 => exact List.prefix_rfl
  | case2 c hs =>
    rw [literalLexeme, if_pos hs]
    exact List.nil_prefix
  | case3 c hs =>
    rw [literalLexeme, if_neg hs]
  | case4 c d r hc ih =>
    rw [literalLexeme, if_pos hc]
    exact (List.prefix_cons_inj c).2 ((List.prefix_cons_inj d).2 ih)
  | case5 c d r hc hs =>
    rw [literalLexeme, if_neg hc, if_pos hs]
    exact List.nil_prefix
  | case6 c d r hc hs ih =>
    rw [literalLexeme, if_neg hc, if_neg hs]
    exact (List.prefix_cons_inj c).2 ih

theorem symbol_isPrefix_of_longestAt? {s : List Char} {op : Operator}
    (h : Operator.longestAt? s = some op) : op.symbol.toList <+: s := by
  unfold Operator.longestAt? at h
  split at h <;> cases h <;> exact ⟨_, rfl⟩

/-- The token that a delimiter is, if the character is one. -/
def delimiter? : Char → Option TokenKind
  | '(' => some .leftParen
  | ')' => some .rightParen
  | '|' => some .or
  | '&' => some .and
  | _ => none

theorem delimiter?_cases {c : Char} {k : TokenKind} (h : delimiter? c = some k) :
    c = '(' ∧ k = .leftParen ∨ c = ')' ∧ k = .rightParen ∨ c = '|' ∧ k = .or ∨
      c = '&' ∧ k = .and := by
  unfold delimiter? at h
  split at h <;> cases h <;> simp

theorem isDelimiter_of_delimiter? {c : Char} {k : TokenKind} (h : delimiter? c = some k) :
    k.isDelimiter = true := by
  rcases delimiter?_cases h with ⟨-, rfl⟩ | ⟨-, rfl⟩ | ⟨-, rfl⟩ | ⟨-, rfl⟩ <;> rfl

/-! ## The next token -/

inductive Next : Awaiting → List Char → TokenKind → List Char → Prop
  | delimiter {a : Awaiting} {c : Char} {s : List Char} {k : TokenKind}
    (hc : delimiter? c = some k) : Next a (c :: s) k [c]
  | field {a : Awaiting} {c : Char} {s : List Char} (ha : a ≠ .literal)
    (hc : isNameStart c = true) :
    Next a (c :: s) (.field (String.ofList (c :: fieldTail s))) (c :: fieldTail s)
  | operator {s : List Char} {op : Operator} (hop : Operator.longestAt? s = some op) :
    Next .operator s (.operator op) op.symbol.toList
  | literal {s : List Char} (hne : literalLexeme s ≠ []) :
    Next .literal s (.ofLiteral (.ofRaw (literalLexeme s))) (literalLexeme s)

theorem longestAt?_eq_none {c : Char} (hc : c ∉ ['=', '!', '>', '<', '^', '*']) (s : List Char) :
    Operator.longestAt? (c :: s) = none := by
  unfold Operator.longestAt?
  split <;> simp_all

/-- A delimiter is a token wherever it stands. -/
theorem first?_delimiter {c : Char} {k : TokenKind} (h : delimiter? c = some k) (a : Awaiting)
    (t : List Char) : first? a (c :: t) = some (k, [c]) := by
  have helement : element? (c :: t) = some (k, [c]) := by
    rcases delimiter?_cases h with ⟨rfl, rfl⟩ | ⟨rfl, rfl⟩ | ⟨rfl, rfl⟩ | ⟨rfl, rfl⟩ <;> rfl
  cases a with
  | element => exact helement
  | operator =>
    have hoperator : operator? (c :: t) = none := by
      rcases delimiter?_cases h with ⟨rfl, -⟩ | ⟨rfl, -⟩ | ⟨rfl, -⟩ | ⟨rfl, -⟩ <;> rfl
    show (operator? _).or (element? _) = _
    rw [hoperator, helement]
    rfl
  | literal =>
    have hstop : literalLexeme (c :: t) = [] := by
      rcases delimiter?_cases h with ⟨rfl, -⟩ | ⟨rfl, -⟩ | ⟨rfl, -⟩ | ⟨rfl, -⟩ <;>
        exact literalLexeme_stop (by decide) (by decide) t
    show (literal? _).or (element? _) = _
    rw [literal?, hstop, helement]
    rfl

theorem element?_of_isNameStart {c : Char} (hc : isNameStart c = true) (s : List Char) :
    element? (c :: s) = some (.field (String.ofList (c :: fieldTail s)), c :: fieldTail s) := by
  have hne : ∀ {d : Char}, isNameStart d = false → ¬(c == d) = true := by
    intro d hd hcd
    rw [eq_of_beq hcd, hd] at hc
    cases hc
  rw [element?, if_neg (hne (by decide)), if_neg (hne (by decide)), if_neg (hne (by decide)),
    if_neg (hne (by decide)), fieldLexeme, if_pos hc]

theorem operator?_of_isNameStart {c : Char} (hc : isNameStart c = true) (s : List Char) :
    operator? (c :: s) = none := by
  have hnone : Operator.longestAt? (c :: s) = none := by
    refine longestAt?_eq_none (fun hmem => ?_) s
    simp only [List.mem_cons, List.not_mem_nil, or_false] at hmem
    rcases hmem with rfl | rfl | rfl | rfl | rfl | rfl <;> exact absurd hc (by decide)
  rw [operator?, hnone]
  rfl

theorem not_isStructural_of_isNameStart {c : Char} (hc : isNameStart c = true) :
    Literal.isStructural c = false := by
  rw [← Bool.not_eq_true]
  intro hs
  simp only [Literal.isStructural, Bool.or_eq_true, beq_iff_eq] at hs
  rcases hs with (((((rfl | rfl) | rfl) | rfl) | rfl) | rfl) | rfl <;> exact absurd hc (by decide)

theorem next_of_element? {a : Awaiting} {s l : List Char} {k : TokenKind}
    (ha : a = .literal → literal? s = none) (h : element? s = some (k, l)) : Next a s k l := by
  cases s with
  | nil => cases h
  | cons c s =>
    by_cases hc : isNameStart c = true
    · rw [element?_of_isNameStart hc] at h
      cases h
      refine .field (fun hliteral => ?_) hc
      have hnone := ha hliteral
      rw [literal?, literalLexeme_plain (not_isStructural_of_isNameStart hc)] at hnone
      cases hnone
    · rw [element?, fieldLexeme, if_neg hc] at h
      split_ifs at h with h₁ h₂ h₃ h₄
      · cases h
        exact .delimiter (by rw [eq_of_beq h₁]; rfl)
      · cases h
        exact .delimiter (by rw [eq_of_beq h₂]; rfl)
      · cases h
        exact .delimiter (by rw [eq_of_beq h₃]; rfl)
      · cases h
        exact .delimiter (by rw [eq_of_beq h₄]; rfl)

theorem next_of_operator? {s l : List Char} {k : TokenKind} (h : operator? s = some (k, l)) :
    Next .operator s k l := by
  obtain ⟨op, hop, h⟩ := Option.map_eq_some_iff.1 h
  cases h
  exact .operator hop

theorem next_of_literal? {s l : List Char} {k : TokenKind} (h : literal? s = some (k, l)) :
    Next .literal s k l := by
  unfold literal? at h
  split at h
  · cases h
  · next hne =>
    cases h
    exact .literal hne

theorem first?_eq_some_iff {a : Awaiting} {s l : List Char} {k : TokenKind} :
    first? a s = some (k, l) ↔ Next a s k l := by
  constructor
  · intro h
    cases a with
    | element => exact next_of_element? Awaiting.noConfusion h
    | operator =>
      rcases Option.or_eq_some_iff.1 h with h | ⟨_, h⟩
      · exact next_of_operator? h
      · exact next_of_element? Awaiting.noConfusion h
    | literal =>
      rcases Option.or_eq_some_iff.1 h with h | ⟨hnone, h⟩
      · exact next_of_literal? h
      · exact next_of_element? (fun _ => hnone) h
  · intro h
    cases h with
    | delimiter hc => exact first?_delimiter hc a _
    | @field _ c s ha hc =>
      have helement := element?_of_isNameStart hc s
      cases a with
      | element => exact helement
      | operator =>
        show (operator? (c :: s)).or (element? (c :: s)) = _
        rw [operator?_of_isNameStart hc, helement]
        rfl
      | literal => exact absurd rfl ha
    | operator hop =>
      show (operator? s).or (element? s) = _
      rw [operator?, hop]
      rfl
    | literal hne =>
      show (literal? s).or (element? s) = _
      unfold literal?
      split
      · contradiction
      · rfl

/-! ## Whatever may come -/

/-- All that a first token can be, with its lexeme. -/
inductive Begins (s : List Char) : TokenKind → List Char → Prop where
  | delimiter {c : Char} {r : List Char} {k : TokenKind} (hs : s = c :: r)
      (hc : delimiter? c = some k) : Begins s k [c]
  | field (hne : fieldLexeme s ≠ []) :
      Begins s (.field (String.ofList (fieldLexeme s))) (fieldLexeme s)
  | operator {op : Operator} (hop : Operator.longestAt? s = some op) :
      Begins s (.operator op) op.symbol.toList
  | literal (hne : literalLexeme s ≠ []) :
      Begins s (.ofLiteral (.ofRaw (literalLexeme s))) (literalLexeme s)

theorem Next.begins {a : Awaiting} {s l : List Char} {k : TokenKind} (h : Next a s k l) :
    Begins s k l := by
  cases h with
  | delimiter hc => exact .delimiter rfl hc
  | @field _ c s ha hc =>
    have hlexeme : fieldLexeme (c :: s) = c :: fieldTail s := by rw [fieldLexeme, if_pos hc]
    rw [← hlexeme]
    exact .field (by rw [hlexeme]; exact List.cons_ne_nil c (fieldTail s))
  | operator hop => exact .operator hop
  | literal hne => exact .literal hne

theorem begins_of_first? {a : Awaiting} {s l : List Char} {k : TokenKind}
    (h : first? a s = some (k, l)) : Begins s k l :=
  (first?_eq_some_iff.1 h).begins

theorem Begins.isPrefix {s l : List Char} {k : TokenKind} (h : Begins s k l) : l <+: s := by
  cases h with
  | delimiter hs hc => exact ⟨_, hs.symm⟩
  | field => exact fieldLexeme_isPrefix s
  | operator hop => exact symbol_isPrefix_of_longestAt? hop
  | literal => exact literalLexeme_isPrefix s

/-- No text holds an end token: it is laid behind the last piece. -/
theorem Begins.ne_eof {s l : List Char} {k : TokenKind} (h : Begins s k l) : k ≠ .eof := by
  cases h with
  | delimiter hs hc =>
    rcases delimiter?_cases hc with ⟨-, rfl⟩ | ⟨-, rfl⟩ | ⟨-, rfl⟩ | ⟨-, rfl⟩ <;>
      exact TokenKind.noConfusion
  | field => exact TokenKind.noConfusion
  | operator => exact TokenKind.noConfusion
  | literal => cases Literal.ofRaw (literalLexeme s) <;> exact TokenKind.noConfusion

end Token

end RecordFilter
