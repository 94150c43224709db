import RecordFilter.Proofs.Text.Position

/-!
# Byte offsets looked up one after another

A tracker knows the line and the column of the place up to which it has read (`Tracker.Tracks`).
Every look-up keeps that, so it gives what counting anew from the start of the text gives, whatever
was looked up before it (`locateAll_eq`).
-/

namespace RecordFilter.Text

/-- A slice behind a beginning of the text is the beginning of what follows. -/
theorem exists_of_slice?_eq_some {s : String} {before rest : List Char} {stop : Nat} {cut : String}
    (hs : s.toList = before ++ rest) (h : slice? s (byteLength before) stop = some cut) :
    ∃ behind, s.toList = (before ++ cut.toList) ++ behind ∧
      byteLength (before ++ cut.toList) = stop := by
  have hbounds := h
  unfold slice? at hbounds
  split_ifs at hbounds with hvalid
  obtain ⟨-, hstop, hle⟩ := hvalid
  obtain ⟨front, behind, hfront, rfl⟩ := exists_split_of_isValid hstop
  obtain ⟨w, rfl, hrest⟩ := exists_append_of_byteLength_le (hs.symm.trans hfront) hle
  have hcut : cut = String.ofList w := by
    rw [byteLength_append, slice?_between (by rw [hs, hrest])] at h
    exact (Option.some.inj h).symm
  rw [hcut, String.toList_ofList]
  exact ⟨behind, hfront, rfl⟩

namespace Tracker

/-- The tracker reads the text, and the place that it has reached is one of it. -/
structure Tracks (t : Tracker) (input : String) : Prop where
  input_eq : t.input = input
  exists_reached : ∃ before rest, input.toList = before ++ rest ∧ t.reached = .behind before

variable {t : Tracker} {input : String}

theorem tracks_start (input : String) : (start input).Tracks input :=
  ⟨rfl, [], input.toList, rfl, rfl⟩

/-- A look-up gives the line and the column as they are counted anew. -/
theorem Tracks.fst_locate (h : t.Tracks input) (offset : Nat) :
    (t.locate offset).1 = lineColumn input offset := by
  obtain ⟨rfl, before, rest, hsplit, hreached⟩ := h
  unfold locate
  rw [hreached]
  cases hslice : slice? t.input (Position.behind before).offset offset with
  | none => rfl
  | some skipped =>
    obtain ⟨behind, hall, rfl⟩ := exists_of_slice?_eq_some hsplit hslice
    show (((Position.behind before).after skipped.toList).line, _) = _
    rw [Position.after_behind, lineColumn_byteLength hall]
    rfl

theorem Tracks.snd_locate (h : t.Tracks input) (offset : Nat) :
    (t.locate offset).2.Tracks input := by
  obtain ⟨rfl, before, rest, hsplit, hreached⟩ := h
  unfold locate
  rw [hreached]
  cases hslice : slice? t.input (Position.behind before).offset offset with
  | none => exact ⟨rfl, before, rest, hsplit, hreached⟩
  | some skipped =>
    obtain ⟨behind, hall, rfl⟩ := exists_of_slice?_eq_some hsplit hslice
    refine ⟨rfl, before ++ skipped.toList, behind, hall, ?_⟩
    dsimp only
    rw [Position.after_behind]
    rfl

/-- The lines and the columns that look-ups give in turn. -/
def locateAll (t : Tracker) : List Nat → List (Nat × Nat)
  | [] => []
  | offset :: offsets =>
    let (found, u) := t.locate offset
    found :: u.locateAll offsets

theorem Tracks.locateAll_eq (h : t.Tracks input) (offsets : List Nat) :
    t.locateAll offsets = offsets.map (lineColumn input) := by
  induction offsets generalizing t with
  | nil => rfl
  | cons offset offsets ih =>
    show (t.locate offset).1 :: (t.locate offset).2.locateAll offsets = _
    rw [h.fst_locate, ih (h.snd_locate offset), List.map_cons]

end Tracker

end RecordFilter.Text
