/-!
# Days of the calendar

The wall clock counts milliseconds from the beginning of 1970 in universal time. A day is the number
of midnights since then.

* `Calendar.dayOf`: the day of a time. `Calendar.civil`: the year, month and day of the month.
* `Calendar.dayText`: the day as year, month and day of the month.
* `Calendar.firstInstant`, `Calendar.lastInstant`: the first and the last time that the calendar can hold.
* `Calendar.Holds`: a time that it can hold.
* `Calendar.Moment`: a time that it can hold together with the six days before.
-/

namespace Postroom.Calendar

/-- The milliseconds of a day. -/
def msPerDay : Int := 86400000

/-- The day of a time. -/
def dayOf (time : Int) : Int := time.fdiv msPerDay

/-- The year, month and day of the month of a day. Years are counted from March, so that the leap day
is the last of its year, and in eras of 400 years, which all have the same length. -/
def civil (day : Int) : Int × Nat × Nat :=
  let shifted := day + 719468
  let era := shifted.fdiv 146097
  let ofEra := (shifted - era * 146097).toNat
  let yearOfEra := (ofEra - ofEra / 1460 + ofEra / 36524 - ofEra / 146096) / 365
  let ofYear := ofEra - (365 * yearOfEra + yearOfEra / 4 - yearOfEra / 100)
  let fromMarch := (5 * ofYear + 2) / 153
  let month := if fromMarch < 10 then fromMarch + 3 else fromMarch - 9
  let year := era * 400 + yearOfEra + (if month ≤ 2 then 1 else 0)
  (year, month, ofYear - (153 * fromMarch + 2) / 5 + 1)

/-- The decimal digits of a number, with zeros in front up to a width. -/
def padded (width n : Nat) : String :=
  let digits := toString n
  String.ofList (List.replicate (width - digits.length) '0') ++ digits

/-- The year in at least four digits, with a sign where it has more or lies before the year zero. -/
def yearText (year : Int) : String :=
  if 0 ≤ year ∧ year ≤ 9999 then padded 4 year.toNat
  else if 0 ≤ year then "+" ++ padded 4 year.toNat
  else "-" ++ padded 4 year.natAbs

/-- A day as year, month and day of the month. -/
def dayText (day : Int) : String :=
  let (year, month, ofMonth) := civil day
  yearText year ++ "-" ++ padded 2 month ++ "-" ++ padded 2 ofMonth

/-- The first day that the calendar can hold, the beginning of the year 262143 before the year zero. -/
def firstDay : Int := -96465292

/-- The first millisecond that the calendar can hold. -/
def firstInstant : Int := firstDay * msPerDay

/-- The last day that the calendar can hold, the end of the year 262142. -/
def lastDay : Int := 95026236

/-- The last millisecond that the calendar can hold. -/
def lastInstant : Int := (lastDay + 1) * msPerDay - 1

/-- A time that the calendar can hold. A subtraction that ends outside has no result. -/
def Holds (time : Int) : Prop := firstInstant ≤ time ∧ time ≤ lastInstant

instance (time : Int) : Decidable (Holds time) := inferInstanceAs (Decidable (_ ∧ _))

example : civil firstDay = (-262143, 1, 1) ∧ civil lastDay = (262142, 12, 31) := by decide

/-- A time that a clock of an office can show. The counts of the days and the window of recent attempts look back from
it, so the calendar has to hold the six days before. -/
structure Moment where
  time : Int
  early : firstDay + 6 ≤ dayOf time
  late : time ≤ lastInstant

instance : OfNat Moment 0 := ⟨⟨0, by decide, by decide⟩⟩

/-- The calendar can look back from a moment by up to six days. -/
theorem Moment.holds_before (m : Moment) {ms : Int} (back : 0 ≤ ms) (within : ms ≤ 6 * msPerDay) :
    Holds (m.time - ms) := by
  have early := m.early
  have late := m.late
  rw [dayOf, msPerDay, Int.fdiv_eq_ediv_of_nonneg m.time (by decide)] at early
  unfold Holds firstInstant
  unfold msPerDay at within ⊢
  omega

/-- The moment at a time, if it is one. -/
def Moment.at? (time : Int) : Option Moment :=
  if both : firstDay + 6 ≤ dayOf time ∧ time ≤ lastInstant then some ⟨time, both.1, both.2⟩ else none

/-- So much later, or earlier. A clock stays where it is when that is no moment. -/
def Moment.move (m : Moment) (ms : Int) : Moment := (Moment.at? (m.time + ms)).getD m

example : dayText 19783 = "2024-03-01" := by cbv

end Postroom.Calendar
