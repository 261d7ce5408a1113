import LakehouseOps.Library.JsonTokens

/-!
# Datetimes as text

`isoformat` of a datetime in UTC, and the reading of what it writes.
-/

namespace LakehouseOps
namespace Library

/-- The number of days of a month. -/
def daysInMonth (year month : Nat) : Nat :=
  if month = 2 then if year % 4 = 0 ∧ (year % 100 ≠ 0 ∨ year % 400 = 0) then 29 else 28
  else if month = 4 ∨ month = 6 ∨ month = 9 ∨ month = 11 then 30
  else 31

/-- The numbers of a date. -/
def IsDate (year month day : Nat) : Prop :=
  (1 ≤ year ∧ year ≤ 9999) ∧ (1 ≤ month ∧ month ≤ 12) ∧ 1 ≤ day ∧ day ≤ daysInMonth year month

instance (year month day : Nat) : Decidable (IsDate year month day) :=
  inferInstanceAs (Decidable (_ ∧ _))

/-- `datetime.date` -/
structure Date where
  year : Nat
  month : Nat
  day : Nat
  valid : IsDate year month day

/-- The numbers of a time of day. -/
def IsTime (hour minute second microsecond : Nat) : Prop :=
  hour < 24 ∧ minute < 60 ∧ second < 60 ∧ microsecond < 1000000

instance (hour minute second microsecond : Nat) :
    Decidable (IsTime hour minute second microsecond) :=
  inferInstanceAs (Decidable (_ ∧ _))

/-- A datetime with the time zone UTC. -/
structure UtcDatetime where
  date : Date
  hour : Nat
  minute : Nat
  second : Nat
  microsecond : Nat
  valid : IsTime hour minute second microsecond

theorem daysInMonth_le (year month : Nat) : daysInMonth year month ≤ 31 := by
  unfold daysInMonth
  split
  · split <;> decide
  · split <;> decide

/-! ## Numbers of a fixed width -/

def printPadded : Nat -> Nat -> Text
  | 0, _ => []
  | width + 1, number => printPadded width (number / 10) ++ [digitPoint (number % 10)]

/-- The number of the first digits, after those read before. -/
def readPadded : Nat -> Nat -> Text -> Option (Nat × Text)
  | 0, before, points => some (before, points)
  | _ + 1, _, [] => none
  | width + 1, before, point :: points =>
      if isDigit point then readPadded width (before * 10 + (point.val - 48)) points else none

theorem readPadded_digitPoint
    {digit : Nat}
    (small : digit < 10)
    (width before : Nat)
    (points : Text) :
    readPadded (width + 1) before (digitPoint digit :: points) =
      readPadded width (before * 10 + digit) points := by
  obtain ⟨isDigit, same⟩ := isDigit_digitPoint small
  rw [readPadded, if_pos isDigit, same]

/-- A padded number is read as the digits of the higher places of a longer one. -/
theorem readPadded_higher
    (width later before number : Nat)
    (points : Text) :
    readPadded (width + later) before (printPadded width number ++ points) =
      readPadded later (before * 10 ^ width + number % 10 ^ width) points := by
  induction width generalizing later number points with
  | zero => simp [printPadded, Nat.mod_one]
  | succ width inductionHypothesis =>
      rw [printPadded, List.append_assoc, List.singleton_append,
        show width + 1 + later = width + (later + 1) by omega, inductionHypothesis,
        readPadded_digitPoint (Nat.mod_lt _ (by decide))]
      congr 1
      rw [Nat.pow_succ', Nat.mod_mul]
      ring

/-- A padded number is read back. -/
theorem readPadded_printPadded
    {width number : Nat}
    (small : number < 10 ^ width)
    (rest : Text) :
    readPadded width 0 (printPadded width number ++ rest) = some (number, rest) := by
  have higher := readPadded_higher width 0 0 number rest
  rwa [Nat.zero_mul, Nat.zero_add, Nat.mod_eq_of_lt small] at higher

theorem isDigit_of_mem_printPadded
    {width number : Nat}
    {point : CodePoint}
    (member : point ∈ printPadded width number) :
    isDigit point = true := by
  induction width generalizing number with
  | zero => exact absurd member List.not_mem_nil
  | succ width inductionHypothesis =>
      rcases List.mem_append.mp member with higher | last
      · exact inductionHypothesis higher
      · rw [List.mem_singleton.mp last]
        exact (isDigit_digitPoint (Nat.mod_lt _ (by decide))).1

/-! ## Dates -/

/-- `date.isoformat()` -/
def Date.isoformat (date : Date) : Text :=
  printPadded 4 date.year ++ char '-' :: (printPadded 2 date.month ++
    char '-' :: printPadded 2 date.day)

/-- `datetime.isoformat()` of a datetime in UTC -/
def UtcDatetime.isoformat (moment : UtcDatetime) : Text :=
  moment.date.isoformat ++ char 'T' :: (printPadded 2 moment.hour ++ char ':' ::
    (printPadded 2 moment.minute ++ char ':' :: (printPadded 2 moment.second ++
      ((if moment.microsecond = 0 then [] else char '.' :: printPadded 6 moment.microsecond) ++
        text "+00:00"))))

/-- The text after a character. -/
def readMark (mark : CodePoint) : Text -> Option Text
  | [] => none
  | point :: points => if point = mark then some points else none

theorem readMark_cons (mark : CodePoint) (rest : Text) :
    readMark mark (mark :: rest) = some rest :=
  if_pos rfl

def readDate (points : Text) : Option (Date × Text) :=
  (readPadded 4 0 points).bind fun year =>
    (readMark (char '-') year.2).bind fun points =>
      (readPadded 2 0 points).bind fun month =>
        (readMark (char '-') month.2).bind fun points =>
          (readPadded 2 0 points).bind fun day =>
            if valid : IsDate year.1 month.1 day.1 then
              some ({ year := year.1, month := month.1, day := day.1, valid }, day.2)
            else none

/-- The microseconds, if there are any. -/
def readFraction (points : Text) : Option (Nat × Text) :=
  match readMark (char '.') points with
  | some points => readPadded 6 0 points
  | none => some (0, points)

/-- A text that `isoformat` writes for a datetime in UTC. -/
def readUtcDatetime (points : Text) : Option UtcDatetime :=
  (readDate points).bind fun date =>
    (readMark (char 'T') date.2).bind fun points =>
      (readPadded 2 0 points).bind fun hour =>
        (readMark (char ':') hour.2).bind fun points =>
          (readPadded 2 0 points).bind fun minute =>
            (readMark (char ':') minute.2).bind fun points =>
              (readPadded 2 0 points).bind fun second =>
                (readFraction second.2).bind fun microsecond =>
                  if valid : IsTime hour.1 minute.1 second.1 microsecond.1 ∧
                      microsecond.2 = text "+00:00" then
                    some { date := date.1, hour := hour.1, minute := minute.1,
                           second := second.1, microsecond := microsecond.1,
                           valid := valid.1 }
                  else none

theorem readDate_isoformat (date : Date) (rest : Text) :
    readDate (date.isoformat ++ rest) = some (date, rest) := by
  obtain ⟨⟨_, year⟩, ⟨_, month⟩, _, day⟩ := date.valid
  have daySmall := daysInMonth_le date.year date.month
  unfold readDate Date.isoformat
  simp only [List.append_assoc, List.cons_append]
  rw [readPadded_printPadded (by omega), Option.bind_some, readMark_cons, Option.bind_some,
    readPadded_printPadded (by omega), Option.bind_some, readMark_cons, Option.bind_some,
    readPadded_printPadded (by omega), Option.bind_some]
  exact dif_pos date.valid

theorem readFraction_isoformat {microsecond : Nat} (small : microsecond < 1000000) :
    readFraction ((if microsecond = 0 then [] else char '.' :: printPadded 6 microsecond) ++
        text "+00:00") = some (microsecond, text "+00:00") := by
  split
  · next zero =>
      rw [zero]
      rfl
  · rw [List.cons_append, readFraction, readMark_cons]
    exact readPadded_printPadded (by omega) _

/-- A written datetime is read back. -/
theorem readUtcDatetime_isoformat (moment : UtcDatetime) :
    readUtcDatetime moment.isoformat = some moment := by
  obtain ⟨hour, minute, second, microsecond⟩ := moment.valid
  unfold readUtcDatetime UtcDatetime.isoformat
  rw [readDate_isoformat, Option.bind_some, readMark_cons, Option.bind_some,
    readPadded_printPadded (by omega), Option.bind_some, readMark_cons, Option.bind_some,
    readPadded_printPadded (by omega), Option.bind_some, readMark_cons, Option.bind_some,
    readPadded_printPadded (by omega), Option.bind_some, readFraction_isoformat microsecond,
    Option.bind_some]
  exact dif_pos ⟨moment.valid, rfl⟩

/-- The text of a date has only digits and hyphens. -/
theorem mem_isoformat
    {date : Date}
    {point : CodePoint}
    (member : point ∈ date.isoformat) :
    isDigit point = true ∨ point = char '-' := by
  simp only [Date.isoformat, List.mem_append, List.mem_cons] at member
  rcases member with year | hyphen | month | hyphen | day
  · exact Or.inl (isDigit_of_mem_printPadded year)
  · exact Or.inr hyphen
  · exact Or.inl (isDigit_of_mem_printPadded month)
  · exact Or.inr hyphen
  · exact Or.inl (isDigit_of_mem_printPadded day)

end Library
end LakehouseOps
