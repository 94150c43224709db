import RecordFilter.Proofs.Token.Next
import RecordFilter.Proofs.Token.Tiling

/-!
# Which token stands behind which

An operator is looked for only behind a field name and a literal only behind an operator, and a
literal goes on to a character that nothing but a delimiter starts with. So the kinds of the tokens
of a text are in an order that an automaton with the states of `Awaiting` accepts (`Orderly`).
-/

namespace RecordFilter

namespace Token

/-- The kinds are in the order of a text, where `a` is what may come first. -/
inductive Orderly : Awaiting → List TokenKind → Prop
  | nil {a : Awaiting} : Orderly a []
  | delimiter {a : Awaiting} {k : TokenKind} {ks : List TokenKind} (hk : k.isDelimiter = true)
    (hks : Orderly .element ks) : Orderly a (k :: ks)
  | field {a : Awaiting} {name : String} {ks : List TokenKind} (ha : a ≠ .literal)
    (hks : Orderly .operator ks) : Orderly a (.field name :: ks)
  | operator {op : Operator} {ks : List TokenKind} (hks : Orderly .literal ks) :
    Orderly .operator (.operator op :: ks)
  | literal {l : Literal} {ks : List TokenKind} (hnext : ∀ k ∈ ks.head?, k.isDelimiter = true)
    (hks : Orderly .element ks) : Orderly .literal (.ofLiteral l :: ks)

theorem after_of_isDelimiter {k : TokenKind} (h : k.isDelimiter = true) :
    Awaiting.after k = .element := by
  cases k <;> first | rfl | cases h

theorem after_ofLiteral (l : Literal) : Awaiting.after (.ofLiteral l) = .element := by
  cases l <;> rfl

/-! ## Texts are in order -/

/-- Behind a literal stands a delimiter, or nothing. -/
theorem Lexes.isDelimiter_behind_literal {s rest : List Char} {ks : List TokenKind}
    (h : Lexes .element rest ks) (hs : s = literalLexeme s ++ rest) :
    ∀ k ∈ ks.head?, k.isDelimiter = true := by
  have hstop := isStructural_behind_literalLexeme hs h.not_dangling
  cases h with
  | nil => exact fun k hk => by cases hk
  | @separator _ c t _ hc _ =>
    have hstruct := (hstop c rfl).1
    rcases isSeparator_cases hc with rfl | rfl | rfl | rfl <;> exact absurd hstruct (by decide)
  | @piece _ c l t k _ hc hfirst _ =>
    rintro _ ⟨⟩
    have hnext := first?_eq_some_iff.1 hfirst
    generalize hu : c :: l ++ t = u at hnext
    generalize c :: l = lexeme at hnext
    cases hnext with
    | delimiter hd => exact isDelimiter_of_delimiter? hd
    | field _ hstart =>
      cases hu
      have hplain := not_isStructural_of_isNameStart hstart
      rw [(hstop c rfl).1] at hplain
      cases hplain

theorem Lexes.orderly {a : Awaiting} {s : List Char} {ks : List TokenKind} (h : Lexes a s ks) :
    Orderly a ks := by
  induction h with
  | nil => exact .nil
  | separator hc hs ih => exact ih
  | @piece a c l s k ks hc hfirst hs ih =>
    have hnext := first?_eq_some_iff.1 hfirst
    generalize hu : c :: l ++ s = u at hnext
    generalize hl : c :: l = lexeme at hnext
    cases hnext with
    | delimiter hd =>
      rw [after_of_isDelimiter (isDelimiter_of_delimiter? hd)] at ih
      exact .delimiter (isDelimiter_of_delimiter? hd) ih
    | field ha => exact .field ha ih
    | operator => exact .operator ih
    | literal =>
      rw [after_ofLiteral] at hs ih
      have hsplit : u = literalLexeme u ++ s := by rw [← hl, hu]
      exact .literal (hs.isDelimiter_behind_literal hsplit) ih

/-! ## Neighbours in order -/

namespace Orderly

variable {a : Awaiting} {k : TokenKind} {ks ms : List TokenKind}

theorem tail (h : Orderly a (k :: ks)) : Orderly (.after k) ks := by
  generalize hms : k :: ks = ms at h
  cases h with
  | nil => cases hms
  | delimiter hk hks =>
    cases hms
    rwa [after_of_isDelimiter hk]
  | field ha hks =>
    cases hms
    exact hks
  | operator hks =>
    cases hms
    exact hks
  | literal hnext hks =>
    cases hms
    rwa [after_ofLiteral]

theorem exists_of_append (h : Orderly a (ms ++ ks)) : ∃ b, Orderly b ks := by
  induction ms generalizing a with
  | nil => exact ⟨a, h⟩
  | cons m ms ih => exact ih h.tail

/-- With the end token behind them, kinds stay in order. -/
theorem concat_eof (h : Orderly a ks) : Orderly a (ks ++ [.eof]) := by
  induction h with
  | nil => exact .delimiter rfl .nil
  | delimiter hk hks ih => exact .delimiter hk ih
  | field ha hks ih => exact .field ha ih
  | operator hks ih => exact .operator ih
  | @literal l ks hnext hks ih =>
    refine .literal ?_ ih
    cases ks with
    | nil =>
      rintro _ ⟨⟩
      rfl
    | cons k ks => exact hnext

theorem eq_of_operator {op : Operator} (h : Orderly a (.operator op :: ks)) : a = .operator := by
  generalize hms : TokenKind.operator op :: ks = ms at h
  cases h with
  | nil => cases hms
  | delimiter hk =>
    cases hms
    cases hk
  | field => cases hms
  | operator => rfl
  | @literal l => cases l <;> cases hms

theorem of_literal {l : Literal} (h : Orderly a (.ofLiteral l :: ks)) :
    a = .literal ∧ ∀ k ∈ ks.head?, k.isDelimiter = true := by
  generalize hms : TokenKind.ofLiteral l :: ks = ms at h
  cases h with
  | nil => cases hms
  | delimiter hk => cases l <;> cases hms <;> cases hk
  | field => cases l <;> cases hms
  | operator => cases l <;> cases hms
  | literal hnext =>
    obtain ⟨-, rfl⟩ := List.cons.inj hms
    exact ⟨rfl, hnext⟩

end Orderly

theorem after_eq_operator {k : TokenKind} (h : Awaiting.after k = .operator) :
    ∃ name, k = .field name := by
  cases k with
  | field name => exact ⟨name, rfl⟩
  | _ => cases h

theorem after_eq_literal {k : TokenKind} (h : Awaiting.after k = .literal) :
    ∃ op, k = .operator op := by
  cases k with
  | operator op => exact ⟨op, rfl⟩
  | _ => cases h

/-- What may only come where `a` does not begin a text has a token in front of it that awaits it. -/
theorem exists_concat_of_orderly {us vs : List Token} {t : Token} {a : Awaiting}
    (h : Orderly .element ((us ++ t :: vs).map Token.kind)) (ha : a ≠ .element)
    (ht : ∀ b, Orderly b (t.kind :: vs.map Token.kind) → b = a) :
    ∃ ws u, us = ws ++ [u] ∧ Awaiting.after u.kind = a := by
  rcases us.eq_nil_or_concat with rfl | ⟨ws, u, rfl⟩
  · exact absurd (ht _ h).symm ha
  · rw [List.concat_eq_append, List.append_assoc, List.map_append] at h
    obtain ⟨b, hb⟩ := h.exists_of_append
    exact ⟨ws, u, List.concat_eq_append, ht _ hb.tail⟩

/-- What stands next to a part of a condition. -/
structure Ordered (ts : List Token) : Prop where
  /-- Directly in front of an operator stands a field name. -/
  operator : ∀ us t vs op, ts = us ++ t :: vs → t.kind = .operator op →
    ∃ ws f name, us = ws ++ [f] ∧ f.kind = .field name
  /-- Directly in front of a literal stands an operator. -/
  literal : ∀ us t vs l, ts = us ++ t :: vs → t.kind = .ofLiteral l →
    ∃ ws o op, us = ws ++ [o] ∧ o.kind = .operator op
  /-- Directly behind a literal stands no part of a condition. -/
  behind_literal : ∀ us t u vs l, ts = us ++ t :: u :: vs → t.kind = .ofLiteral l →
    u.kind.isDelimiter = true

theorem ordered_of_orderly {ts : List Token} (h : Orderly .element (ts.map Token.kind)) :
    Ordered ts where
  operator := by
    rintro us t vs op rfl ht
    have hawaits : ∀ b, Orderly b (t.kind :: vs.map Token.kind) → b = .operator := by
      rw [ht]
      exact fun b hb => hb.eq_of_operator
    obtain ⟨ws, f, rfl, hf⟩ := exists_concat_of_orderly h (by decide) hawaits
    obtain ⟨name, hname⟩ := after_eq_operator hf
    exact ⟨ws, f, name, rfl, hname⟩
  literal := by
    rintro us t vs l rfl ht
    have hawaits : ∀ b, Orderly b (t.kind :: vs.map Token.kind) → b = .literal := by
      rw [ht]
      exact fun b hb => hb.of_literal.1
    obtain ⟨ws, o, rfl, ho⟩ := exists_concat_of_orderly h (by decide) hawaits
    obtain ⟨op, hop⟩ := after_eq_literal ho
    exact ⟨ws, o, op, rfl, hop⟩
  behind_literal := by
    rintro us t u vs l rfl ht
    rw [List.map_append, List.map_cons, ht] at h
    obtain ⟨b, hb⟩ := h.exists_of_append
    exact hb.of_literal.2 u.kind rfl

theorem orderly_of_scan {input : String} {ts : List Token} (h : scan input = .ok ts) :
    Orderly .element (ts.map Token.kind) := by
  obtain ⟨ks, hlex, hts⟩ := lexes_of_scan h
  rw [hts]
  exact hlex.orderly.concat_eof

end Token

end RecordFilter
