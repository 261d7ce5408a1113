import Mathlib.Data.List.Basic

/-!
# Datetimes

A datetime is a time on the wall, in microseconds, and perhaps its offset from UTC. Two
datetimes can be ordered when both have an offset or neither has. The order is strict
and transitive, which is what keeping the latest of many values rests on.
-/

namespace LakehouseOps
namespace Library

/-- A datetime; without an offset it is naive. -/
structure Datetime where
  wall : Int
  offset : Option Int
  deriving DecidableEq, Repr

namespace Datetime

/-- Whether the datetime has an offset. -/
def aware (datetime : Datetime) : Bool :=
  datetime.offset.isSome

/-- The time in UTC of an aware datetime, and the time on the wall of a naive one. -/
def time (datetime : Datetime) : Int :=
  datetime.wall - datetime.offset.getD 0

/-- The times that have a year from 1 to 9999. -/
def Representable (time : Int) : Prop :=
  -62135596800000000 ≤ time ∧ time < 253402300800000000

instance (time : Int) : Decidable (Representable time) :=
  inferInstanceAs (Decidable (_ ∧ _))

/-- The time in UTC, where it is representable. -/
def toUtc (datetime : Datetime) : Option Int :=
  if Representable datetime.time then some datetime.time else none

/-- The comparison `left < right`; ordering an aware and a naive datetime is an error. -/
def lessThan (left right : Datetime) : Option Bool :=
  if left.aware = right.aware then some (left.time < right.time) else none

/-- The comparison `left == right`. -/
def same (left right : Datetime) : Bool :=
  left.aware = right.aware ∧ left.time = right.time

/-- The first datetime is before the second. -/
def Before (left right : Datetime) : Prop :=
  left.lessThan right = some true

theorem before_iff {left right : Datetime} :
    left.Before right ↔ left.aware = right.aware ∧ left.time < right.time := by
  unfold Before lessThan
  split
  · next kinds => simp [kinds]
  · next kinds => simp [kinds]

theorem Before.trans
    {first second third : Datetime}
    (firstSecond : first.Before second)
    (secondThird : second.Before third) :
    first.Before third := by
  obtain ⟨firstKind, earlier⟩ := before_iff.mp firstSecond
  obtain ⟨secondKind, later⟩ := before_iff.mp secondThird
  exact before_iff.mpr ⟨firstKind.trans secondKind, Int.lt_trans earlier later⟩

theorem not_before_self (datetime : Datetime) : ¬datetime.Before datetime := by
  rw [before_iff]
  rintro ⟨_, earlier⟩
  exact Int.lt_irrefl _ earlier

/-- Where the order is defined, two datetimes that are not the same are one before the other. -/
theorem lessThan_trichotomy
    {left right : Datetime}
    (ordered : left.lessThan right = some false)
    (differ : left.same right = false) :
    right.Before left := by
  unfold lessThan at ordered
  split at ordered
  · next kinds =>
      rw [before_iff]
      simp only [same, kinds, true_and, decide_eq_false_iff_not] at differ
      have notEarlier : ¬left.time < right.time := by simpa using ordered
      exact ⟨kinds.symm, by omega⟩
  · exact absurd ordered.symm (Option.some_ne_none _)

end Datetime

end Library
end LakehouseOps
