import RecordFilter.Calendar.DateTime
import RecordFilter.Proofs.CalendarText

/-!
Chronology. Date-times are ordered field by field, and this is the order of time: the earlier one
has the smaller number of seconds, and within a second, a leap second being part of the second
before it, fewer nanoseconds.
-/
namespace RecordFilter

def yearLength (year : Int) : Nat := if isLeapYear year then 366 else 365

theorem firstDay_add_one (year : Int) : firstDay (year + 1) = firstDay year + yearLength year := by
  simp only [firstDay, yearLength, isLeapYear]
  by_cases fourth : year % 4 = 0 <;> by_cases hundredth : year % 100 = 0 <;>
    by_cases fourHundredth : year % 400 = 0 <;>
    simp [fourth, hundredth, fourHundredth] <;> omega

theorem firstDay_le {year year' : Int} (le : year ≤ year') : firstDay year ≤ firstDay year' := by
  simp only [firstDay]
  omega

/-- The first days of two years lie apart by the length of the earlier one at least. -/
theorem firstDay_add_yearLength_le {year year' : Int} (earlier : year < year') :
    firstDay year + yearLength year ≤ firstDay year' := by
  rw [← firstDay_add_one]
  exact firstDay_le earlier

theorem daysBeforeMonth_add_le (year : Int) {month month' : Nat} (earlier : month < month') :
    daysBeforeMonth year month + monthLength year month ≤ daysBeforeMonth year month' := by
  induction earlier with
  | refl => exact Nat.le_refl _
  | step _ ih => exact Nat.le_trans ih (Nat.le_add_right _ _)

theorem daysBeforeMonth_thirteen (year : Int) : daysBeforeMonth year 13 = yearLength year := by
  unfold yearLength
  cases leap : isLeapYear year <;> simp [daysBeforeMonth, monthLength, leap]

namespace Date

theorem ordinal_le_yearLength (d : Date) : 1 ≤ d.ordinal ∧ d.ordinal ≤ yearLength d.year := by
  obtain ⟨_, _, first, last⟩ := d.valid
  obtain ⟨_, month_high, _⟩ := d.month_and_day_le
  have before := daysBeforeMonth_add_le d.year (Nat.lt_succ_of_le month_high)
  rw [daysBeforeMonth_thirteen] at before
  unfold ordinal
  omega

theorem ordinal_lt {d e : Date} (year : d.year = e.year)
    (earlier : d.month < e.month ∨ d.month = e.month ∧ d.day < e.day) :
    d.ordinal < e.ordinal := by
  obtain ⟨_, _, _, last⟩ := d.valid
  obtain ⟨_, _, first, _⟩ := e.valid
  unfold ordinal
  rw [year] at last ⊢
  rcases earlier with month | ⟨month, day⟩
  · have before := daysBeforeMonth_add_le e.year month
    omega
  · rw [month]
    omega

theorem dayNumber_lt {d e : Date} (earlier : d.year < e.year ∨ d.year = e.year ∧
    (d.month < e.month ∨ d.month = e.month ∧ d.day < e.day)) : d.dayNumber < e.dayNumber := by
  unfold dayNumber
  rcases earlier with year | ⟨year, earlier⟩
  · have apart := firstDay_add_yearLength_le year
    have last := d.ordinal_le_yearLength
    have first := e.ordinal_le_yearLength
    omega
  · have ordinal := ordinal_lt year earlier
    rw [year]
    omega

end Date

theorem compare_cons_eq_lt {a b : Int} {l l' : List Int} :
    compare (a :: l) (b :: l') = .lt ↔ a < b ∨ a = b ∧ compare l l' = .lt := by
  rw [List.compare_cons_cons, Ordering.then_eq_lt, Int.compare_eq_lt, Int.compare_eq_eq]

namespace DateTime

/-- Nanoseconds since the start of the second, those of a leap second after those of the second
before it. -/
def sinceSecond (x : DateTime) : Nat := x.time.nano

def Before (x y : DateTime) : Prop :=
  x.epochSeconds < y.epochSeconds ∨
    x.epochSeconds = y.epochSeconds ∧ x.sinceSecond < y.sinceSecond

instance (x y : DateTime) : Decidable (x.Before y) := inferInstanceAs (Decidable (_ ∨ _))

variable {x y : DateTime}

theorem compare_eq_lt_iff_fields : compare x y = .lt ↔
    x.date.year < y.date.year ∨ x.date.year = y.date.year ∧
      (x.date.month < y.date.month ∨ x.date.month = y.date.month ∧
        (x.date.day < y.date.day ∨ x.date.day = y.date.day ∧
          (x.time.hour < y.time.hour ∨ x.time.hour = y.time.hour ∧
            (x.time.minute < y.time.minute ∨ x.time.minute = y.time.minute ∧
              (x.time.second < y.time.second ∨ x.time.second = y.time.second ∧
                x.time.nano < y.time.nano))))) := by
  change compare x.fields y.fields = .lt ↔ _
  have done : compare ([] : List Int) [] ≠ .lt := by decide
  simp only [fields, compare_cons_eq_lt, Int.ofNat_lt, Int.natCast_inj, done, and_false, or_false]

theorem before_of_compare (earlier : compare x y = .lt) : x.Before y := by
  rw [compare_eq_lt_iff_fields] at earlier
  obtain ⟨_, _, _, _⟩ := x.time.valid
  obtain ⟨_, _, _, _⟩ := y.time.valid
  have dates : x.date.dayNumber < y.date.dayNumber ∨ x.date.dayNumber = y.date.dayNumber ∧
      (x.time.hour < y.time.hour ∨ x.time.hour = y.time.hour ∧
        (x.time.minute < y.time.minute ∨ x.time.minute = y.time.minute ∧
          (x.time.second < y.time.second ∨ x.time.second = y.time.second ∧
            x.time.nano < y.time.nano))) := by
    rcases earlier with year | ⟨year, month | ⟨month, day | ⟨day, time⟩⟩⟩
    · exact .inl (Date.dayNumber_lt (.inl year))
    · exact .inl (Date.dayNumber_lt (.inr ⟨year, .inl month⟩))
    · exact .inl (Date.dayNumber_lt (.inr ⟨year, .inr ⟨month, day⟩⟩))
    · refine .inr ⟨?_, time⟩
      rw [Date.dayNumber, Date.dayNumber, Date.ordinal, Date.ordinal, year, month, day]
  simp only [Before, epochSeconds, sinceSecond]
  omega

theorem fields_injective (same : x.fields = y.fields) : x = y := by
  obtain ⟨⟨_, _, _, _⟩, ⟨_, _, _, _, _⟩⟩ := x
  obtain ⟨⟨_, _, _, _⟩, ⟨_, _, _, _, _⟩⟩ := y
  simp only [fields, List.cons.injEq, Int.natCast_inj, and_true] at same
  obtain ⟨rfl, rfl, rfl, rfl, rfl, rfl, rfl⟩ := same
  rfl

instance : Std.TransOrd DateTime := inferInstanceAs (Std.TransCmp (compareOn fields))

instance : Std.LawfulEqOrd DateTime where
  eq_of_compare same := fields_injective (Std.LawfulEqOrd.eq_of_compare same)

/-- The order of date-times is that of time. -/
theorem compare_eq_lt_iff : compare x y = .lt ↔ x.Before y := by
  refine ⟨before_of_compare, fun before => ?_⟩
  cases order : compare x y with
  | lt => rfl
  | eq =>
    cases Std.LawfulEqOrd.eq_of_compare order
    simp [Before] at before
  | gt =>
    have after := before_of_compare (Std.OrientedCmp.lt_of_gt order)
    simp only [Before] at before after
    omega

end DateTime

end RecordFilter
