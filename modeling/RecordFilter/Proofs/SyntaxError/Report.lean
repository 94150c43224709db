import RecordFilter.Proofs.Filter.Blame
import RecordFilter.Proofs.Token.Places

/-!
# Where reports point

Every error of a filter text marks the text (`Filter.marks_of_parse_eq_error`), and an error that
does is shown where it is: its span lies between characters, its line and column are those of the
start of the span, and the caret of the report stands below the character that starts there
(`pointsInto_of_marks`).
-/

namespace RecordFilter

/-- The error lies in the text, and its report points at where it starts. -/
structure SyntaxError.PointsInto (e : SyntaxError) (input : String) : Prop where
  start_le_stop : e.span.start ≤ e.span.stop
  stop_le : e.span.stop ≤ input.utf8ByteSize
  start_valid : String.Pos.Raw.IsValid input ⟨e.span.start⟩
  stop_valid : String.Pos.Raw.IsValid input ⟨e.span.stop⟩
  place_eq : (e.span.line, e.span.column) = Text.lineColumn input e.span.start
  report_eq : e.report input = String.intercalate "\n"
    [e.heading, String.ofList (e.shownLine input),
      String.ofList (List.replicate (e.span.column - 1) ' ') ++ "^", e.fault.message]
  /-- What the report shows is one line. -/
  newline_not_mem : '\n' ∉ e.shownLine input
  /-- The caret is below the line or just past it. -/
  column_le : e.span.column - 1 ≤ (e.shownLine input).length
  /-- The caret is below the character at which the error starts. -/
  char_eq : e.span.start < input.utf8ByteSize →
    ∃ c, (e.shownLine input)[e.span.column - 1]? = some c ∧
      String.Pos.Raw.get? input ⟨e.span.start⟩ = some c
  /-- For an error at the end, the caret is just past the line. -/
  past_end : e.span.start = input.utf8ByteSize → (e.shownLine input).length = e.span.column - 1

namespace SyntaxError

open Text

variable {e : SyntaxError} {input : String}

/-- The report is the heading, the line that is shown, the line with the caret, and the message. -/
theorem report_eq_intercalate (e : SyntaxError) (input : String) :
    e.report input = String.intercalate "\n"
      [e.heading, String.ofList (e.shownLine input),
        String.ofList (List.replicate (e.span.column - 1) ' ') ++ "^", e.fault.message] := by
  have hcaret : "^\n" = "^" ++ "\n" := rfl
  show e.report input = e.heading ++ "\n" ++ String.ofList (e.shownLine input) ++ "\n" ++
    (String.ofList (List.replicate (e.span.column - 1) ' ') ++ "^") ++ "\n" ++ e.fault.message
  unfold report
  rw [hcaret]
  simp only [String.append_assoc]

theorem newline_not_mem_shownLine (e : SyntaxError) (input : String) :
    '\n' ∉ e.shownLine input := by
  unfold shownLine
  cases hl : (lines input.toList)[e.span.line - 1]? with
  | none => exact List.not_mem_nil
  | some l => exact newline_not_mem_of_mem_lines _ l (List.mem_of_getElem? hl)

section Split

variable {before lexeme rest : List Char} (hspan : e.span = Token.spanAt (.behind before) lexeme)
  (hs : input.toList = before ++ (lexeme ++ rest))
  (hsolid : ∀ c ∈ (lexeme ++ rest).head?, Token.isSeparator c = false)

include hspan in
theorem column_sub_one : e.span.column - 1 = (lastLine before).length := by
  rw [hspan]
  show Position.columnBehind before - 1 = _
  rw [columnBehind_eq, Nat.add_sub_cancel]

include hspan hs hsolid

/-- The line that is shown: what is in front of the error, and what it starts with. -/
theorem shownLine_eq :
    e.shownLine input = lastLine before ++ (lines (lexeme ++ rest)).headD [] := by
  have hline : e.span.line - 1 = before.count '\n' := by
    rw [hspan]
    rfl
  rw [shownLine, hline, hs]
  exact line_at before fun hn => absurd (hsolid '\n' hn) (by decide)

/-- The caret is below the first character of the error. -/
theorem getElem?_shownLine {c : Char} {r : List Char} (hr : lexeme ++ rest = c :: r) :
    (e.shownLine input)[e.span.column - 1]? = some c := by
  have hc : Token.isSeparator c = false := hsolid c (by rw [hr]; rfl)
  have hfirst : ((lines (c :: r)).headD []).head? = some c := by
    refine head?_first_line ?_ ?_ r <;>
    · rintro rfl
      exact absurd hc (by decide)
  rw [column_sub_one hspan, shownLine_eq hspan hs hsolid, hr,
    List.getElem?_append_right (Nat.le_refl _), Nat.sub_self, ← List.head?_eq_getElem?, hfirst]

/-- With no character behind it, the caret is past the line. -/
theorem length_shownLine (hr : lexeme ++ rest = []) :
    (e.shownLine input).length = e.span.column - 1 := by
  have hlines : (lines []).headD [] = [] := by rw [lines]; rfl
  rw [column_sub_one hspan, shownLine_eq hspan hs hsolid, hr, hlines, List.append_nil]

end Split

theorem pointsInto_of_marks (h : Token.Marks input.toList e.span) : e.PointsInto input := by
  obtain ⟨before, lexeme, rest, hs, hspan, hsolid⟩ := h
  have hstart : e.span.start = byteLength before := by
    rw [hspan]
    rfl
  have hstop : e.span.stop = byteLength before + byteLength lexeme := by
    rw [hspan]
    rfl
  have hsize : input.utf8ByteSize =
      byteLength before + (byteLength lexeme + byteLength rest) := by
    rw [← byteLength_toList, hs, byteLength_append, byteLength_append]
  have hrest : byteLength (lexeme ++ rest) = byteLength lexeme + byteLength rest :=
    byteLength_append lexeme rest
  refine
    { start_le_stop := by omega
      stop_le := by omega
      start_valid := ?_
      stop_valid := ?_
      place_eq := ?_
      report_eq := report_eq_intercalate e input
      newline_not_mem := newline_not_mem_shownLine e input
      column_le := ?_
      char_eq := fun hlt => ?_
      past_end := fun heq => ?_ }
  · rw [hstart]
    exact isValid_byteLength hs
  · rw [hstop, ← byteLength_append]
    exact isValid_byteLength (by rw [hs, List.append_assoc])
  · rw [hstart, lineColumn_byteLength hs, hspan]
    rfl
  · rw [column_sub_one hspan, shownLine_eq hspan hs hsolid, List.length_append]
    exact Nat.le_add_right _ _
  · cases hr : lexeme ++ rest with
    | nil =>
      rw [hr, byteLength_nil] at hrest
      omega
    | cons c r =>
      refine ⟨c, getElem?_shownLine hspan hs hsolid hr, ?_⟩
      rw [hstart, get?_byteLength hs, hr]
      rfl
  · refine length_shownLine hspan hs hsolid (by_contra fun hne => ?_)
    have hpos := byteLength_pos hne
    omega

end SyntaxError

namespace Filter

/-- The error of a text marks the text, be it found in cutting or in reading. -/
theorem marks_of_parse_eq_error {input : String} {e : SyntaxError} (h : parse input = .error e) :
    Token.Marks input.toList e.span := by
  unfold parse at h
  cases hscan : Token.scan input with
  | error e' =>
    rw [hscan] at h
    cases h
    exact Token.marks_of_scan_eq_error hscan
  | ok ts =>
    rw [hscan] at h
    obtain ⟨hmarks, hend⟩ := Token.marks_of_scan hscan
    obtain ⟨t, ht, hspan⟩ := exists_span_eq_of_ofTokens_eq_error hend h
    rw [← hspan]
    exact hmarks t ht

/-- A text that is not a filter is rejected with an error that lies in it, and the report of the
error points at the place. -/
theorem pointsInto_of_parse_eq_error {input : String} {e : SyntaxError}
    (h : parse input = .error e) : e.PointsInto input :=
  SyntaxError.pointsInto_of_marks (marks_of_parse_eq_error h)

/-- The second line of the text ends in a carriage return and a line feed, and letters of two bytes
stand in the first. -/
theorem pointsInto_of_parse_eq_error_second_line :
    parse "A==ü\r\n |#\r\n" = .error ⟨.unexpectedCharacter '#', ⟨9, 10, 2, 3⟩⟩ ∧
      (⟨.unexpectedCharacter '#', ⟨9, 10, 2, 3⟩⟩ : SyntaxError).PointsInto "A==ü\r\n |#\r\n" := by
  have hchars : "A==ü\r\n |#\r\n".toList =
      ['A', '=', '=', 'ü', '\r', '\n', ' ', '|', '#', '\r', '\n'] := by decide
  have hparse : parse "A==ü\r\n |#\r\n" = .error ⟨.unexpectedCharacter '#', ⟨9, 10, 2, 3⟩⟩ := by
    unfold parse Token.scan
    rw [hchars]
    cbv
  exact ⟨hparse, pointsInto_of_parse_eq_error hparse⟩

end Filter

end RecordFilter
