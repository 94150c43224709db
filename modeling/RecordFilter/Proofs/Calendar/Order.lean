import Mathlib.Tactic.SplitIfs
import RecordFilter.Calendar.Instant

/-!
# The order of the calendar

Dates, times of day and instants are ordered totally, and only equal ones are at one place.
-/

namespace RecordFilter

open Std

/-- An order of readings orders what is read. -/
theorem transCmp_on {α β : Type} (f : α → β) (cmp : β → β → Ordering) [TransCmp cmp] :
    TransCmp fun a b => cmp (f a) (f b) where
  eq_swap {a b} := @OrientedCmp.eq_swap _ cmp _ (f a) (f b)
  isLE_trans {a b c} := @TransCmp.isLE_trans _ cmp _ (f a) (f b) (f c)

namespace Date

instance : TransCmp cmp :=
  inferInstanceAs (TransCmp (compareLex (compareOn Date.year)
    (compareLex (compareOn Date.month) (compareOn Date.day))))

instance : LawfulEqCmp cmp where
  eq_of_compare {a b} h := by
    simp only [cmp, Ordering.then_eq_eq, LawfulEqOrd.compare_eq_iff_eq] at h
    cases a
    cases b
    simp_all

end Date

namespace TimeOfDay

instance : TransCmp cmp :=
  inferInstanceAs (TransCmp (compareLex (compareOn fun t : TimeOfDay => t.second.val)
    (compareOn fun t : TimeOfDay => t.nanos.val)))

instance : LawfulEqCmp cmp where
  eq_of_compare {a b} h := by
    simp only [cmp, Ordering.then_eq_eq, LawfulEqOrd.compare_eq_iff_eq] at h
    cases a
    cases b
    simp_all [Fin.ext_iff]

end TimeOfDay

namespace Instant

instance : TransCmp cmp :=
  have := transCmp_on Instant.date Date.cmp
  have := transCmp_on Instant.time TimeOfDay.cmp
  inferInstanceAs (TransCmp (compareLex (fun a b : Instant => a.date.cmp b.date)
    fun a b : Instant => a.time.cmp b.time))

instance : LawfulEqCmp cmp where
  eq_of_compare {a b} h := by
    simp only [cmp, Ordering.then_eq_eq, LawfulEqCmp.compare_eq_iff_eq] at h
    cases a
    cases b
    simp_all

end Instant

end RecordFilter
