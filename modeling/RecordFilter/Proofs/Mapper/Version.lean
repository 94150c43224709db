import RecordFilter.Proofs.Catalog.Path
import RecordFilter.Proofs.Mapper.Run

/-!
# What the version tells

Between two states of a run that have the same version, no name was mapped, freed or mapped anew.
The one thing that can have happened is that generation excluded names that stood for nothing
(`Narrows`), since generation raises the version for the mappings that it sets only. So the version
tells whether every name resolves as before exactly if no generation did that
(`resolve_of_version_eq`).
-/

namespace RecordFilter

namespace Mapper

variable {α : Type}

/-- The same mappings and exclusions as before, but for free keys that are excluded now. -/
structure Narrows (m m' : Mapper α) : Prop where
  config_eq : m'.config = m.config
  mapping?_eq : ∀ k, m'.mapping? k = m.mapping? k
  of_excluded : ∀ k, m.isExcludedKey k = true → m'.isExcludedKey k = true
  excluded_or_free : ∀ k, m'.isExcludedKey k = true →
    m.isExcludedKey k = true ∨ m.mapping? k = none

namespace Narrows

variable {m m' m'' : Mapper α}

theorem refl (m : Mapper α) : Narrows m m :=
  ⟨rfl, fun _ => rfl, fun _ h => h, fun _ h => .inl h⟩

theorem trans (h : Narrows m m') (h' : Narrows m' m'') : Narrows m m'' := by
  refine ⟨h'.config_eq.trans h.config_eq, fun k => (h'.mapping?_eq k).trans (h.mapping?_eq k),
    fun k hk => h'.of_excluded k (h.of_excluded k hk), fun k hk => ?_⟩
  rcases h'.excluded_or_free k hk with hk | hk
  · exact h.excluded_or_free k hk
  · exact .inr ((h.mapping?_eq k).symm.trans hk)

theorem refuse {key : String} (hfree : m.mapping? key = none) : Narrows m (m.refuse key) := by
  refine ⟨config_refuse m key, mapping?_refuse m key, fun k hk => ?_, fun k hk => ?_⟩
  · rw [isExcludedKey_refuse, hk, Bool.or_true]
  · rw [isExcludedKey_refuse] at hk
    rcases Bool.or_eq_true_iff.1 hk with hk | hk
    · rw [eq_of_beq hk]
      exact .inr hfree
    · exact .inl hk

theorem key_eq (h : Narrows m m') (name : String) : m'.key name = m.key name :=
  key_eq_of_config h.config_eq name

theorem settled (h : Narrows m m') {name : String} (hs : m.Settled name) : m'.Settled name := by
  unfold Settled contains isExcluded isMappedKey at hs ⊢
  rw [h.key_eq, h.mapping?_eq]
  exact hs.imp_right (h.of_excluded _)

/-- A name resolves as before, or stood for nothing and is excluded now. -/
theorem resolve (h : Narrows m m') (name : String) :
    m'.resolve name = m.resolve name ∨
      m.resolve name = .error (.unknownField name) ∧
        m'.resolve name = .error (.excludedField name) := by
  rw [resolve_eq, resolve_eq, h.key_eq, h.mapping?_eq]
  by_cases hx' : m'.isExcludedKey (m.key name) = true
  · by_cases hx : m.isExcludedKey (m.key name) = true
    · exact .inl (by rw [if_pos hx', if_pos hx])
    · right
      have hfree := (h.excluded_or_free _ hx').resolve_left hx
      rw [if_pos hx', if_neg hx, hfree]
      exact ⟨rfl, rfl⟩
  · have hx : ¬m.isExcludedKey (m.key name) = true := fun hx => hx' (h.of_excluded _ hx)
    exact .inl (by rw [if_neg hx', if_neg hx])

end Narrows

/-! ## Generation that maps nothing -/

theorem count_le_generateField (overriding : Bool) (s : Nat × Mapper α) (f : MemberField α) :
    s.1 ≤ (generateField overriding s f).1 := by
  rcases generateField_cases overriding s f with ⟨h, -⟩ | ⟨h, -⟩ | ⟨h, -⟩ <;> simp [h]

theorem count_le_afterFields (overriding : Bool) (s : Nat × Mapper α)
    (fields : List (MemberField α)) : s.1 ≤ (afterFields overriding s fields).1 := by
  induction fields generalizing s with
  | nil => exact Nat.le_refl _
  | cons f fields ih => exact (count_le_generateField overriding s f).trans (ih _)

/-- The first of the fields maps nothing if all of them together map nothing. -/
theorem count_generateField_eq {overriding : Bool} {s : Nat × Mapper α} {f : MemberField α}
    {fields : List (MemberField α)} (h : (afterFields overriding s (f :: fields)).1 = s.1) :
    (generateField overriding s f).1 = s.1 := by
  have hf := count_le_generateField overriding s f
  have hrest := count_le_afterFields overriding (generateField overriding s f) fields
  rw [afterFields_cons] at h
  omega

theorem narrows_generateField {overriding : Bool} {s : Nat × Mapper α} {f : MemberField α}
    (h : (generateField overriding s f).1 = s.1) :
    Narrows s.2 (generateField overriding s f).2 := by
  rcases generateField_cases overriding s f with ⟨hs, -⟩ | ⟨hs, -, -, hfree⟩ | ⟨hs, -⟩
  · rw [hs]
    exact .refl _
  · rw [hs]
    exact .refuse hfree
  · rw [hs] at h
    exact absurd h (Nat.succ_ne_self _)

theorem narrows_afterFields {overriding : Bool} {s : Nat × Mapper α}
    {fields : List (MemberField α)} (h : (afterFields overriding s fields).1 = s.1) :
    Narrows s.2 (afterFields overriding s fields).2 := by
  induction fields generalizing s with
  | nil => exact .refl _
  | cons f fields ih =>
    have hf := count_generateField_eq h
    rw [← hf] at h
    exact (narrows_generateField hf).trans (ih h)

/-- Fields that map nothing and exclude no free name change nothing. -/
theorem afterFields_eq_self {overriding : Bool} {s : Nat × Mapper α}
    {fields : List (MemberField α)} (h : (afterFields overriding s fields).1 = s.1)
    (hset : ∀ f ∈ fields, f.excluded = true → s.2.Settled f.name) :
    afterFields overriding s fields = s := by
  induction fields with
  | nil => rfl
  | cons f fields ih =>
    have hf : generateField overriding s f = s := by
      rcases generateField_cases overriding s f with ⟨hs, -⟩ | ⟨-, ht, hx, hfree⟩ | ⟨hs, -⟩
      · exact hs
      · rcases hset f List.mem_cons_self ht with hc | hc
        · have hm := (isMappedKey_eq_false_iff _).2 hfree
          exact absurd (hc.symm.trans hm) (by decide)
        · exact absurd (hc.symm.trans hx) (by decide)
      · have hcount := count_generateField_eq h
        rw [hs] at hcount
        exact absurd hcount (Nat.succ_ne_self _)
    rw [afterFields_cons, hf] at h ⊢
    exact ih h fun g hg => hset g (List.mem_cons_of_mem f hg)

/-- Once a field of a table was generated its name is mapped or excluded. -/
theorem settled_generateField (overriding : Bool) (s : Nat × Mapper α) (f : MemberField α) :
    (generateField overriding s f).2.Settled f.name := by
  rcases generateField_cases overriding s f with ⟨hs, hset⟩ | ⟨hs, -⟩ | ⟨hs, -⟩ <;> rw [hs]
  · exact hset.symm
  · right
    unfold isExcluded
    rw [key_eq_of_config (config_refuse ..), isExcludedKey_refuse, beq_self_eq_true, Bool.true_or]
  · left
    unfold contains isMappedKey
    rw [key_eq_of_config (config_put ..), mapping?_put, if_pos rfl]
    rfl

theorem Settled.generateField {s : Nat × Mapper α} {name : String} (h : s.2.Settled name)
    (overriding : Bool) (f : MemberField α) :
    (Mapper.generateField overriding s f).2.Settled name := by
  rcases generateField_cases overriding s f with ⟨hs, -⟩ | ⟨hs, -, -, hfree⟩ | ⟨hs, -⟩ <;> rw [hs]
  · exact h
  · exact (Narrows.refuse hfree).settled h
  · refine h.imp_left fun hc => ?_
    unfold contains isMappedKey at hc ⊢
    rw [key_eq_of_config (config_put ..), mapping?_put]
    split_ifs
    · rfl
    · exact hc

theorem settled_generate (m : Mapper α) (overriding : Bool) {fields : List (MemberField α)}
    {f : MemberField α} (hf : f ∈ fields) : (m.generate overriding fields).Settled f.name := by
  obtain ⟨before, after, rfl⟩ := List.append_of_mem hf
  have hall : (afterFields overriding (0, m) (before ++ f :: after)).2.Settled f.name := by
    rw [afterFields_append, afterFields_cons]
    exact List.foldlRecOn after (Mapper.generateField overriding)
      (motive := fun s => s.2.Settled f.name) (settled_generateField overriding _ f)
      fun s hs g _ => hs.generateField overriding g
  rcases generate_cases m overriding (before ++ f :: after) with ⟨-, h⟩ | h <;> rw [h] <;> exact hall

/-! ## Changes that keep the version -/

section SameVersion

variable {m : Mapper α}

/-- The version stays if nothing changes, and if generation maps nothing. -/
theorem change_of_version_eq {c : Change α} (h : (m.change c).version = m.version) :
    m.change c = m ∨ ∃ overriding fields, c = .generate overriding fields ∧
      (afterFields overriding (0, m) fields).1 = 0 ∧
      m.change c = (afterFields overriding (0, m) fields).2 := by
  have hbump : ∀ m' : Mapper α, m'.version = m.version → m'.bump.version ≠ m.version := by
    intro m' hm' hb
    rw [version_bump, hm'] at hb
    exact Nat.succ_ne_self _ hb
  cases c with
  | register f =>
    refine .inl ((change_register_cases m f).resolve_right ?_)
    rintro ⟨hc, -⟩
    rw [hc] at h
    exact hbump (m.put _ f) rfl h
  | override f => exact absurd h (hbump ((m.allow _).put _ f) rfl)
  | remove name =>
    refine .inl ((change_remove_cases m name).resolve_right ?_)
    intro hc
    rw [hc] at h
    exact hbump (m.drop _) rfl h
  | exclude name => exact absurd h (hbump ((m.drop _).refuse _) (version_refuse ..))
  | generate overriding fields =>
    rcases generate_cases m overriding fields with ⟨hcount, hc⟩ | hc
    · exact .inr ⟨overriding, fields, rfl, hcount, hc⟩
    · have hall := version_afterFields overriding (0, m) fields
      exact absurd (congrArg version hc.symm |>.trans h) (hbump _ hall)

theorem narrows_change {c : Change α} (h : (m.change c).version = m.version) :
    Narrows m (m.change c) := by
  rcases change_of_version_eq h with hc | ⟨overriding, fields, -, hcount, hc⟩ <;> rw [hc]
  · exact .refl m
  · exact narrows_afterFields hcount

/-- A step of a run that keeps its version keeps it too, and so does the rest. -/
theorem version_change_eq {c : Change α} {changes : List (Change α)}
    (h : (m.run (c :: changes)).version = m.version) :
    (m.change c).version = m.version ∧
      ((m.change c).run changes).version = (m.change c).version := by
  have hc := version_le_change m c
  have hrest := version_le_run (m.change c) changes
  rw [run_cons] at h
  omega

theorem narrows_run (changes : List (Change α)) (h : (m.run changes).version = m.version) :
    Narrows m (m.run changes) := by
  induction changes generalizing m with
  | nil => exact .refl m
  | cons c changes ih =>
    obtain ⟨hc, hrest⟩ := version_change_eq h
    exact (narrows_change hc).trans (ih hrest)

/-- Every generation of the run finds the names settled that its table excludes. -/
def FindsSettled (m : Mapper α) (changes : List (Change α)) : Prop :=
  ∀ before overriding fields after, changes = before ++ .generate overriding fields :: after →
    ∀ f ∈ fields, f.excluded = true → (m.run before).Settled f.name

theorem FindsSettled.tail {c : Change α} {changes : List (Change α)}
    (h : m.FindsSettled (c :: changes)) : (m.change c).FindsSettled changes := by
  rintro before overriding fields after rfl
  exact h (c :: before) overriding fields after rfl

theorem run_eq_self {changes : List (Change α)} (h : (m.run changes).version = m.version)
    (hset : m.FindsSettled changes) : m.run changes = m := by
  induction changes generalizing m with
  | nil => rfl
  | cons c changes ih =>
    obtain ⟨hc, hrest⟩ := version_change_eq h
    have hself : m.change c = m := by
      rcases change_of_version_eq hc with hc | ⟨overriding, fields, rfl, hcount, hc⟩
      · exact hc
      · rw [hc, afterFields_eq_self hcount (hset [] overriding fields changes rfl)]
    rw [run_cons, ih hrest hset.tail, hself]

/-- At two states of a run with one version every name resolves alike, but for names that stood for
nothing and are excluded now; and all resolve alike exactly if every generation between the two
found the names mapped or excluded that its table excludes. -/
theorem resolve_of_version_eq (m : Mapper α) (changes : List (Change α))
    (h : (m.run changes).version = m.version) :
    (∀ name, (m.run changes).resolve name = m.resolve name ∨
      m.resolve name = .error (.unknownField name) ∧
        (m.run changes).resolve name = .error (.excludedField name)) ∧
    ((∀ name, (m.run changes).resolve name = m.resolve name) ↔ m.FindsSettled changes) := by
  have hall := narrows_run changes h
  refine ⟨hall.resolve, ?_, ?_⟩
  · rintro hsame before overriding fields after rfl f hf -
    rw [run_append, run_cons] at h hsame
    have hbefore := version_le_run m before
    have hafter := version_le_run ((m.run before).change (.generate overriding fields)) after
    have hstep := version_le_change (m.run before) (.generate overriding fields)
    have hgen : ((m.run before).change (.generate overriding fields)).Settled f.name :=
      settled_generate _ overriding hf
    have hlast := (narrows_run after (by omega)).settled hgen
    have hfirst : m.Settled f.name := by
      by_contra hn
      have hunknown := (resolve_eq_unknownField_iff m f.name).2 hn
      rw [← hsame] at hunknown
      exact (resolve_eq_unknownField_iff _ f.name).1 hunknown hlast
    exact (narrows_run before (by omega)).settled hfirst
  · intro hset name
    rw [run_eq_self h hset]

end SameVersion

/-- Generation that is repeated finds every name settled. -/
theorem resolve_of_version_eq_generated_twice :
    let fields := Person.guarded.fieldsFor () .standard
    let m := (empty 0 .standard).run [.generate false fields]
    (m.run [.generate false fields]).version = m.version ∧
      ∀ name, (m.run [.generate false fields]).resolve name = m.resolve name := by
  intro fields m
  have hversion : (m.run [.generate false fields]).version = m.version := by decide
  refine ⟨hversion, (resolve_of_version_eq m _ hversion).2.2 ?_⟩
  intro before overriding fields' after hsplit f hf _
  cases before with
  | nil =>
    cases hsplit
    have hall : ∀ f ∈ fields, m.contains f.name = true ∨ m.isExcluded f.name = true := by decide
    exact hall f hf
  | cons c before => simp at hsplit

/-- A name that was mapped in place of its exclusion and then freed is unknown. Generation excludes
it again, and the version does not show it. -/
theorem resolve_name_after_generation :
    let fields := Person.guarded.fieldsFor () .standard
    let m := (empty 0 .standard).run [.generate false fields,
      .override ⟨"Name", .ofOrigin "name" fun p => .string (Person.name p), .string, none⟩,
      .remove "Name"]
    (m.run [.generate false fields]).version = m.version ∧
      m.resolve "Name" = .error (.unknownField "Name") ∧
      (m.run [.generate false fields]).resolve "Name" = .error (.excludedField "Name") := by
  refine ⟨by decide, rfl, rfl⟩

end Mapper

end RecordFilter
