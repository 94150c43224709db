import Mathlib.Data.List.DropRight
import RecordFilter.Literal
import RecordFilter.Proofs.Text.Position

/-!
# The letters of a literal

A raw literal is a list of letters: each backslash with the character after it, and every other
character alone. It is read in one pass, which keeps a mark behind the last character that has to
stay; what that leaves are the letters without the loose ones at both ends (`unescape_eq`).
-/

namespace RecordFilter

namespace Literal

/-- One character of a literal, and whether it was escaped. -/
structure Letter where
  char : Char
  escaped : Bool
deriving DecidableEq, Repr

/-- Pairs each backslash with the character after it; a last backslash that has none is dropped. -/
def letters : List Char → List Letter
  | [] => []
  | ['\\'] => []
  | '\\' :: c :: r => ⟨c, true⟩ :: letters r
  | c :: r => ⟨c, false⟩ :: letters r

/-- An unescaped blank character is dropped at the ends of a literal. -/
def Letter.isLoose (u : Letter) : Bool :=
  !u.escaped && Text.isBlank u.char

def trimLetters (us : List Letter) : List Letter :=
  (us.dropWhile Letter.isLoose).rdropWhile Letter.isLoose

theorem letters_escaped (c : Char) (s : List Char) :
    letters ('\\' :: c :: s) = ⟨c, true⟩ :: letters s := by
  rw [letters]

theorem letters_plain {c : Char} (hc : c ≠ '\\') (s : List Char) :
    letters (c :: s) = ⟨c, false⟩ :: letters s := by
  cases s <;> simp [letters, hc]

/-- A character that neither ends a text as a backslash nor escapes the next one is none. -/
theorem ne_backslash {c : Char} {r : List Char} (hend : c = '\\' → r = [] → False)
    (hnext : ∀ d s, c = '\\' → r = d :: s → False) : c ≠ '\\' := by
  intro hc
  cases r with
  | nil => exact hend hc rfl
  | cons d s => exact hnext d s hc rfl

/-! ## Pairing -/

/-- How a letter is written. -/
def Letter.written (u : Letter) : List Char :=
  if u.escaped then ['\\', u.char] else [u.char]

/-- The text is what the letters write, and every backslash of it escapes a character or is
escaped. -/
structure Pairs (raw : List Char) (us : List Letter) : Prop where
  written : us.flatMap Letter.written = raw
  plain : ∀ u ∈ us, u.escaped = false → u.char ≠ '\\'

/-- There is only one way to pair the backslashes of a text. -/
theorem Pairs.letters_eq {raw : List Char} {us : List Letter} (h : Pairs raw us) :
    letters raw = us := by
  obtain ⟨rfl, hplain⟩ := h
  induction us with
  | nil => rfl
  | cons u us ih =>
    obtain ⟨hu, hus⟩ := List.forall_mem_cons.1 hplain
    obtain ⟨c, escaped⟩ := u
    rw [List.flatMap_cons]
    cases escaped with
    | true => exact (letters_escaped c _).trans (congrArg _ (ih hus))
    | false => exact (letters_plain (hu rfl) _).trans (congrArg _ (ih hus))

/-! ## Reading in one pass -/

/-- The draft with one letter more. -/
def Draft.take (d : Draft) (u : Letter) : Draft :=
  d.push u.char !u.isLoose

theorem Draft.read_eq (raw : List Char) (d : Draft) : d.read raw = (letters raw).foldl take d := by
  induction raw using letters.induct generalizing d with
  | case1 => rfl
  | case2 => rfl
  | case3 c r ih => exact ih (d.take ⟨c, true⟩)
  | case4 c r hend hnext ih =>
    have hread : d.read (c :: r) = (d.take ⟨c, false⟩).read r := by
      cases r <;> simp [read, take, Letter.isLoose]
    rw [hread, ih, letters_plain (ne_backslash hend hnext), List.foldl_cons]

/-- What is there after some letters: all but the loose ones in front, and the mark in front of the
loose ones behind. -/
def Draft.ofLetters (us : List Letter) : Draft :=
  ⟨String.ofList ((us.dropWhile Letter.isLoose).map Letter.char),
    Text.byteLength ((trimLetters us).map Letter.char)⟩

/-- A loose letter is passed over in front and leaves the mark where it is; any other letter moves
the mark behind itself. -/
theorem Draft.take_ofLetters (us : List Letter) (u : Letter) :
    (ofLetters us).take u = ofLetters (us ++ [u]) := by
  by_cases hskip : us.dropWhile Letter.isLoose = [] ∧ u.isLoose = true
  · obtain ⟨hus, hu⟩ := hskip
    have hdrop : (us ++ [u]).dropWhile Letter.isLoose = [] := by
      rw [List.dropWhile_append, hus]
      simp [hu]
    simp [take, push, ofLetters, trimLetters, hus, hu, hdrop]
  · have hdrop : (us ++ [u]).dropWhile Letter.isLoose = us.dropWhile Letter.isLoose ++ [u] := by
      rw [List.dropWhile_append]
      split_ifs with hus
      · rw [List.isEmpty_iff] at hus
        have hu : ¬u.isLoose = true := fun hu => hskip ⟨hus, hu⟩
        rw [hus, List.dropWhile_cons_of_neg hu, List.nil_append]
      · rfl
    have htext : (ofLetters us).text.push u.char = (ofLetters (us ++ [u])).text := by
      simp [ofLetters, hdrop]
    have hpush : ((ofLetters us).text.isEmpty && !!u.isLoose) = false := by
      rw [Bool.not_not, Bool.eq_false_iff, Ne, Bool.and_eq_true]
      rintro ⟨hempty, hu⟩
      exact hskip ⟨by simpa [ofLetters] using hempty, hu⟩
    unfold take push
    rw [hpush, if_neg Bool.false_ne_true]
    dsimp only
    rw [htext]
    cases hu : u.isLoose with
    | true =>
      have htrim : trimLetters (us ++ [u]) = trimLetters us := by
        rw [trimLetters, hdrop, List.rdropWhile_concat_pos _ _ _ hu, trimLetters]
      simp [ofLetters, htrim]
    | false =>
      have htrim : trimLetters (us ++ [u]) = (us ++ [u]).dropWhile Letter.isLoose := by
        rw [trimLetters, hdrop, List.rdropWhile_concat_neg _ _ _ (by simp [hu])]
      simp [ofLetters, htrim, ← Text.byteLength_toList]

theorem Draft.foldl_take (us : List Letter) : us.foldl take empty = ofLetters us := by
  induction us using List.reverseRecOn with
  | nil => rfl
  | append_singleton us u ih =>
    rw [List.foldl_append, ih]
    exact take_ofLetters us u

/-- A literal stands for its letters without the loose ones at the ends. -/
theorem unescape_eq (raw : List Char) :
    unescape raw = (trimLetters (letters raw)).map Letter.char := by
  obtain ⟨rest, hrest⟩ : trimLetters (letters raw) <+: (letters raw).dropWhile Letter.isLoose :=
    List.rdropWhile_prefix _ _
  have htext : (Draft.ofLetters (letters raw)).text.toList =
      (trimLetters (letters raw)).map Letter.char ++ rest.map Letter.char := by
    rw [← List.map_append, hrest]
    exact String.toList_ofList
  unfold unescape Draft.kept
  rw [Draft.read_eq, Draft.foldl_take]
  show (String.Pos.Raw.extract _ 0 ⟨Text.byteLength _⟩).toList = _
  rw [Text.extract_byteLength htext, String.toList_ofList]

end Literal

end RecordFilter
