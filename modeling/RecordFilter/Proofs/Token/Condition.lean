import RecordFilter.Filter
import RecordFilter.Proofs.Literal.Escaping

/-!
# Rendered conditions are cut into their three tokens

The symbol of an operator ends the field name before it, and no written literal begins with a
character that would go on with the symbol. So a condition is cut into its field, its operator and
its literal, whatever characters the literal holds; the empty text, which has no written form,
leaves the third token out.
-/

namespace RecordFilter

namespace Token

/-! ## Field names -/

/-- A letter or an underscore, and letters, digits and underscores behind it. -/
def IsName (s : List Char) : Prop :=
  ∃ c r, s = c :: r ∧ isNameStart c = true ∧ ∀ d ∈ r, isNamePart d = true

/-- Names joined by dots. -/
inductive IsFieldName : List Char → Prop where
  | single {s : List Char} (hs : IsName s) : IsFieldName s
  | dotted {s t : List Char} (hs : IsName s) (ht : IsFieldName t) : IsFieldName (s ++ '.' :: t)

theorem isName_append_singleton {s : List Char} (hs : IsName s) {d : Char}
    (hd : isNamePart d = true) : IsName (s ++ [d]) := by
  obtain ⟨c, r, rfl, hc, hr⟩ := hs
  refine ⟨c, r ++ [d], rfl, hc, fun e he => ?_⟩
  rcases List.mem_append.1 he with he | he
  · exact hr e he
  · exact List.mem_singleton.1 he ▸ hd

theorem isName_singleton {c : Char} (hc : isNameStart c = true) : IsName [c] :=
  ⟨c, [], rfl, hc, fun _ hd => absurd hd List.not_mem_nil⟩

/-- What the lexer adds to a name keeps it a field name. -/
theorem isFieldName_append_fieldTail (s : List Char) :
    ∀ p, IsName p → IsFieldName (p ++ fieldTail s) := by
  induction s using fieldTail.induct with
  | case1 =>
    intro p hp
    rw [fieldTail, List.append_nil]
    exact .single hp
  | case2 c hc =>
    intro p hp
    rw [fieldTail, if_pos hc]
    exact .single (isName_append_singleton hp hc)
  | case3 c hc =>
    intro p hp
    rw [fieldTail, if_neg hc, List.append_nil]
    exact .single hp
  | case4 c d r hc ih =>
    intro p hp
    have h := ih (p ++ [c]) (isName_append_singleton hp hc)
    rw [List.append_assoc] at h
    rw [fieldTail, if_pos hc]
    exact h
  | case5 c d r hc hdot ih =>
    intro p hp
    obtain ⟨hdot', hd⟩ := Bool.and_eq_true_iff.1 hdot
    rw [fieldTail, if_neg hc, if_pos hdot, eq_of_beq hdot']
    exact .dotted hp (ih [d] (isName_singleton hd))
  | case6 c d r hc hdot =>
    intro p hp
    rw [fieldTail, if_neg hc, if_neg hdot, List.append_nil]
    exact .single hp

theorem isFieldName_fieldLexeme {s : List Char} (h : fieldLexeme s ≠ []) :
    IsFieldName (fieldLexeme s) := by
  cases s with
  | nil => exact absurd rfl h
  | cons c r =>
    rw [fieldLexeme] at h ⊢
    split_ifs at h ⊢ with hc
    · exact isFieldName_append_fieldTail r [c] (isName_singleton hc)
    · exact absurd rfl h

theorem fieldTail_parts {r : List Char} (hr : ∀ d ∈ r, isNamePart d = true) (t : List Char) :
    fieldTail (r ++ t) = r ++ fieldTail t := by
  induction r with
  | nil => rfl
  | cons d r ih =>
    have htail := ih fun e he => hr e (List.mem_cons_of_mem d he)
    rw [List.cons_append, fieldTail_part (hr d List.mem_cons_self), htail, List.cons_append]

theorem IsFieldName.exists_cons {s : List Char} (h : IsFieldName s) :
    ∃ c r, s = c :: r ∧ isNameStart c = true := by
  cases h with
  | single hs =>
    obtain ⟨c, r, rfl, hc, -⟩ := hs
    exact ⟨c, r, rfl, hc⟩
  | dotted hs ht =>
    obtain ⟨c, r, rfl, hc, -⟩ := hs
    exact ⟨c, _, rfl, hc⟩

/-- The lexer takes a whole field name, and what the text behind it adds. -/
theorem IsFieldName.fieldLexeme_append {s : List Char} (h : IsFieldName s) (t : List Char) :
    fieldLexeme (s ++ t) = s ++ fieldTail t := by
  induction h with
  | single hs =>
    obtain ⟨c, r, rfl, hc, hr⟩ := hs
    rw [List.cons_append, fieldLexeme, if_pos hc, fieldTail_parts hr, List.cons_append]
  | @dotted s u hs hu ih =>
    obtain ⟨c, r, rfl, hc, hr⟩ := hs
    obtain ⟨d, u, rfl, hd⟩ := hu.exists_cons
    rw [List.cons_append, fieldLexeme, if_pos hd, List.cons_append, List.cons_inj_right] at ih
    rw [List.append_assoc, List.cons_append, List.cons_append, List.cons_append, fieldLexeme,
      if_pos hc, fieldTail_parts hr, fieldTail_dot hd, ih]
    simp

theorem IsFieldName.fieldLexeme_eq {s : List Char} (h : IsFieldName s) : fieldLexeme s = s := by
  have happend := h.fieldLexeme_append []
  rwa [fieldTail, List.append_nil] at happend

theorem isFieldName_of_fieldLexeme_eq {s : List Char} (hs : s ≠ []) (h : fieldLexeme s = s) :
    IsFieldName s := by
  have hname := isFieldName_fieldLexeme (s := s)
  rw [h] at hname
  exact hname hs

theorem Begins.isFieldName {s l : List Char} {k : TokenKind} (h : Begins s k l) :
    ∀ name, k = .field name → IsFieldName name.toList := by
  cases h with
  | delimiter hs hc =>
    rcases delimiter?_cases hc with ⟨-, rfl⟩ | ⟨-, rfl⟩ | ⟨-, rfl⟩ | ⟨-, rfl⟩ <;>
      exact fun name hname => TokenKind.noConfusion hname
  | field hne =>
    rintro name hname
    cases hname
    rw [String.toList_ofList]
    exact isFieldName_fieldLexeme hne
  | operator => exact fun name hname => TokenKind.noConfusion hname
  | literal =>
    cases Literal.ofRaw (literalLexeme s) <;> exact fun name hname => TokenKind.noConfusion hname

theorem Lexes.isFieldName {a : Awaiting} {s : List Char} {ks : List TokenKind} (h : Lexes a s ks) :
    ∀ name, .field name ∈ ks → IsFieldName name.toList := by
  induction h with
  | nil => exact fun name hname => absurd hname List.not_mem_nil
  | separator hc hs ih => exact ih
  | piece hc hfirst hs ih =>
    intro name hname
    rcases List.mem_cons.1 hname with hname | hname
    · exact (begins_of_first? hfirst).isFieldName name hname.symm
    · exact ih name hname

/-! ## The three tokens -/

theorem element?_field {s t : List Char} {c d : Char} (hs : IsFieldName (d :: s))
    (hc : isNamePart c = false) (hdot : c ≠ '.') :
    element? (d :: s ++ c :: t) = some (.field (String.ofList (d :: s)), d :: s) := by
  obtain ⟨e, r, hcons, hd⟩ := hs.exists_cons
  cases hcons
  have hlexeme := hs.fieldLexeme_append (c :: t)
  rw [fieldTail_stop hc hdot, List.append_nil, List.cons_append, fieldLexeme, if_pos hd] at hlexeme
  rw [List.cons_append, element?_of_isNameStart hd, hlexeme]

theorem longestAt?_symbol_append (op : Operator) {t : List Char}
    (ht : ∀ c ∈ t.head?, c ≠ '=' ∧ c ≠ '*') :
    Operator.longestAt? (op.symbol.toList ++ t) = some op := by
  cases t with
  | nil => rw [List.append_nil, Operator.longestAt?_symbol]
  | cons c r =>
    obtain ⟨heq, hstar⟩ := ht c rfl
    cases op <;> simp [Operator.symbol, Operator.longestAt?, heq, hstar]

/-- A symbol ends the field name before it and is no separator. -/
theorem symbol_eq_cons (op : Operator) : ∃ c r, op.symbol.toList = c :: r ∧
    isSeparator c = false ∧ isNamePart c = false ∧ c ≠ '.' := by
  cases op <;> exact ⟨_, _, rfl, by decide, by decide, by decide⟩

theorem isBlank_of_isSeparator {c : Char} (h : isSeparator c = true) : Text.isBlank c = true := by
  rcases isSeparator_cases h with rfl | rfl | rfl | rfl <;> decide

/-- No written literal goes on with the operator before it, or begins with a separator. -/
theorem head_render (l : Literal) :
    ∀ c ∈ l.render.toList.head?, (c ≠ '=' ∧ c ≠ '*') ∧ isSeparator c = false := by
  intro c hc
  cases l with
  | null =>
    cases hc
    decide
  | text s =>
    have hrender : (Literal.text s).render.toList = Literal.escape s.toList := String.toList_ofList
    rw [hrender] at hc
    rcases Literal.head_escape s.toList c hc with rfl | ⟨hplain, hblank, hstar⟩
    · decide
    · refine ⟨⟨?_, hstar⟩, ?_⟩
      · rintro rfl
        exact absurd hplain (by decide)
      · rw [← Bool.not_eq_true]
        exact fun h => Bool.false_ne_true (hblank.symm.trans (isBlank_of_isSeparator h))

theorem render_eq_nil {l : Literal} : l.render.toList = [] ↔ l = .text "" := by
  cases l with
  | null => decide
  | text s =>
    have hrender : (Literal.text s).render.toList = Literal.escape s.toList := String.toList_ofList
    rw [hrender, Literal.escape_eq_nil, String.toList_eq_nil_iff, Literal.text.injEq]

theorem lexes_literal (l : Literal) : Lexes .literal l.render.toList
    (if l = .text "" then [] else [.ofLiteral l]) := by
  split_ifs with hl
  · rw [render_eq_nil.2 hl]
    exact .nil
  · obtain ⟨c, r, hcons⟩ := List.exists_cons_of_ne_nil (fun h => hl (render_eq_nil.1 h))
    have hsep : isSeparator c = false := (head_render l c (by rw [hcons]; rfl)).2
    have hlexeme := Literal.literalLexeme_render l
    have hliteral : literal? l.render.toList = some (.ofLiteral l, l.render.toList) := by
      unfold literal?
      rw [hlexeme, hcons]
      dsimp only
      rw [← hcons, Literal.ofRaw_render]
    have hfirst : first? .literal l.render.toList = some (.ofLiteral l, l.render.toList) := by
      show (literal? _).or (element? _) = _
      rw [hliteral]
      rfl
    rw [hcons] at hfirst ⊢
    have hpiece := Lexes.piece (s := []) hsep (by rw [List.append_nil]; exact hfirst) .nil
    rw [List.append_nil] at hpiece
    exact hpiece

theorem lexes_operator (op : Operator) (l : Literal) :
    Lexes .operator (op.symbol.toList ++ l.render.toList)
      (.operator op :: if l = .text "" then [] else [.ofLiteral l]) := by
  have hop := longestAt?_symbol_append op fun c hc => (head_render l c hc).1
  have hfirst : first? .operator (op.symbol.toList ++ l.render.toList) =
      some (.operator op, op.symbol.toList) := by
    show (operator? _).or (element? _) = _
    unfold operator?
    rw [hop]
    rfl
  obtain ⟨c, r, hcons, hsep, -, -⟩ := symbol_eq_cons op
  rw [hcons] at hfirst ⊢
  exact .piece hsep hfirst (lexes_literal l)

end Token

/-- The tokens that a rendered condition is cut into. -/
def Condition.kinds (c : Condition) : List TokenKind :=
  .field c.field :: .operator c.operator ::
    if c.value = .text "" then [] else [.ofLiteral c.value]

open Token in
/-- A rendered condition is cut into its field, its operator and its literal. -/
theorem Condition.lexes_render {c : Condition} (h : IsFieldName c.field.toList) :
    Lexes .element c.render.toList c.kinds := by
  have hrender : c.render.toList =
      c.field.toList ++ (c.operator.symbol.toList ++ c.value.render.toList) := by
    rw [Condition.render, String.toList_append, String.toList_append, List.append_assoc]
  obtain ⟨d, s, hfield, hd⟩ := h.exists_cons
  obtain ⟨e, r, hsymbol, -, hpart, hdot⟩ := symbol_eq_cons c.operator
  have hname : String.ofList (d :: s) = c.field := by
    rw [← hfield, String.ofList_toList]
  have hsep : isSeparator d = false := by
    rw [← Bool.not_eq_true]
    intro hsep
    rcases isSeparator_cases hsep with rfl | rfl | rfl | rfl <;> exact absurd hd (by decide)
  have hfirst := element?_field (hfield ▸ h) hpart hdot (t := r ++ c.value.render.toList)
  rw [hname, ← List.cons_append (a := e), ← hsymbol] at hfirst
  rw [hrender, hfield]
  exact .piece hsep hfirst (lexes_operator c.operator c.value)

end RecordFilter
