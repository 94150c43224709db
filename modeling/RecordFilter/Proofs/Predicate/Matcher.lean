import RecordFilter.Proofs.Filter.Normal
import RecordFilter.Selection

/-!
# What compiled filters match

`matcher` forgets the shape of a compiled filter and keeps what it matches, or the first error from
the left. The connectors act on matchers as they do on truth values, so neither the nesting of a
chain nor a group nor the places of the conditions make a difference.
-/

namespace RecordFilter

variable {α : Type}

/-- Two matchers as one; the error on the left comes first. -/
def combineMatchers (op : Bool → Bool → Bool) (r s : Except BuildError (α → Bool)) :
    Except BuildError (α → Bool) := do
  let p ← r
  let q ← s
  return fun x => op (p x) (q x)

theorem combineMatchers_assoc {op : Bool → Bool → Bool}
    (hop : ∀ a b c, op (op a b) c = op a (op b c)) (r s t : Except BuildError (α → Bool)) :
    combineMatchers op (combineMatchers op r s) t =
      combineMatchers op r (combineMatchers op s t) := by
  cases r with
  | error e => rfl
  | ok p =>
    cases s with
    | error e => rfl
    | ok q =>
      cases t with
      | error e => rfl
      | ok q' => exact congrArg Except.ok (funext fun x => hop (p x) (q x) (q' x))

namespace Filter

/-- What the compiled filter matches. -/
def matcher (m : Mapper α) (f : Filter) : Except BuildError (α → Bool) :=
  (f.compile m).map Predicate.holds

section Matcher

variable (m : Mapper α)

theorem matcher_eq_error_iff {f : Filter} {e : BuildError} :
    f.matcher m = .error e ↔ f.compile m = .error e := by
  unfold matcher
  cases f.compile m <;> simp [Except.map]

theorem matcher_eq_ok_iff {f : Filter} {h : α → Bool} :
    f.matcher m = .ok h ↔ ∃ p, f.compile m = .ok p ∧ p.holds = h := by
  unfold matcher
  cases f.compile m <;> simp [Except.map]

theorem matcher_and (l r : Filter) :
    (and l r).matcher m = combineMatchers (· && ·) (l.matcher m) (r.matcher m) := by
  unfold matcher
  rw [compile]
  cases l.compile m with
  | error e => rfl
  | ok p => cases r.compile m <;> rfl

theorem matcher_or (l r : Filter) :
    (or l r).matcher m = combineMatchers (· || ·) (l.matcher m) (r.matcher m) := by
  unfold matcher
  rw [compile]
  cases l.compile m with
  | error e => rfl
  | ok p => cases r.compile m <;> rfl

theorem matcher_group (f : Filter) : (group f).matcher m = f.matcher m := rfl

theorem matcher_appendOr (l r : Filter) :
    (appendOr l r).matcher m = combineMatchers (· || ·) (l.matcher m) (r.matcher m) := by
  induction r with
  | or r s ihr ihs =>
    rw [appendOr, matcher_or, ihr, combineMatchers_assoc Bool.or_assoc, ← matcher_or]
  | _ => exact matcher_or m l _

theorem compile_unplaced (f : Filter) : f.unplaced.compile m = f.compile m := by
  induction f with
  | comparison c => rfl
  | and l r ihl ihr | or l r ihl ihr => rw [unplaced, compile, compile, ihl, ihr]
  | group f ih => exact ih

theorem matcher_eq_of_unplaced {f g : Filter} (h : f.unplaced = g.unplaced) :
    f.matcher m = g.matcher m := by
  unfold matcher
  rw [← compile_unplaced, h, compile_unplaced]

end Matcher

end Filter

namespace Mapper

section Compile

variable (m : Mapper α) {s : String} {f : Filter} (h : Filter.parse s = .ok f)
include h

theorem compile_of_parse : m.compile s = (f.compile m).mapError .build := by
  unfold compile
  rw [h]
  rfl

/-- A text that is read fails to compile with the error of its matcher only. -/
theorem compile_eq_error_iff {e : FilterError} :
    m.compile s = .error e ↔ ∃ b, f.matcher m = .error b ∧ e = .build b := by
  simp only [m.compile_of_parse h, Filter.matcher_eq_error_iff]
  cases f.compile m <;> simp [Except.mapError, eq_comm]

theorem compile_eq_ok_iff {p : Predicate α} : m.compile s = .ok p ↔ f.compile m = .ok p := by
  rw [m.compile_of_parse h]
  cases f.compile m <;> simp [Except.mapError]

theorem matcher_of_compile {p : Predicate α} (hp : m.compile s = .ok p) :
    f.matcher m = .ok p.holds :=
  (Filter.matcher_eq_ok_iff m).2 ⟨p, (m.compile_eq_ok_iff h).1 hp, rfl⟩

theorem compile_of_matcher {p : α → Bool} (hp : f.matcher m = .ok p) :
    ∃ q, m.compile s = .ok q ∧ q.holds = p := by
  obtain ⟨q, hq, hholds⟩ := (Filter.matcher_eq_ok_iff m).1 hp
  exact ⟨q, (m.compile_eq_ok_iff h).2 hq, hholds⟩

end Compile

end Mapper

end RecordFilter
