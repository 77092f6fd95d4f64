import RecordFilter.Proofs.Chronology

/-!
Moving date-times by minutes. The date before another and the one after it are its neighbours in
the count of days, over the ends of months and years too. So a date-time that is moved by less than
a day is moved by just as many seconds, and a fraction or a leap second moves with it.
-/
namespace RecordFilter

theorem one_le_monthLength (year : Int) {month : Nat} (first : 1 ≤ month) (last : month ≤ 12) :
    1 ≤ monthLength year month := by
  unfold monthLength
  split
  case h_1 => split <;> decide
  case h_13 => grind
  all_goals decide

theorem daysBeforeMonth_succ (year : Int) (month : Nat) :
    daysBeforeMonth year (month + 1) = daysBeforeMonth year month + monthLength year month := rfl

namespace Date

variable (d : Date)

theorem of?_valid {year : Int} {month day : Nat} (valid : Valid year month day) :
    of? year month day = some ⟨year, month, day, valid⟩ := dif_pos valid

theorem dayNumber_succ {d e : Date} (year : e.year = d.year) (ordinal : e.ordinal = d.ordinal + 1) :
    e.dayNumber = d.dayNumber + 1 := by
  simp only [dayNumber, year, ordinal]
  omega

/-- The last day of a year and the first of the next. -/
theorem dayNumber_first {d e : Date} (year : e.year = d.year + 1)
    (last : d.ordinal = yearLength d.year) (first : e.ordinal = 1) :
    e.dayNumber = d.dayNumber + 1 := by
  simp only [dayNumber, year, last, first, firstDay_add_one]
  omega

theorem ordinal_last_month (month : d.month = 12) (day : d.day = monthLength d.year d.month) :
    d.ordinal = yearLength d.year := by
  rw [← daysBeforeMonth_thirteen, ordinal, day, month]
  rfl

theorem exists_next (room : d.year < 262142) :
    ∃ e, d.next? = some e ∧ e.dayNumber = d.dayNumber + 1 := by
  obtain ⟨low, high, first, last⟩ := d.valid
  obtain ⟨_, month_high, _⟩ := d.month_and_day_le
  unfold next?
  by_cases inside : d.day < monthLength d.year d.month
  · rw [if_pos inside, of?_valid ⟨low, high, Nat.le_add_left _ _, inside⟩]
    exact ⟨_, rfl, dayNumber_succ rfl rfl⟩
  · have day : d.day = monthLength d.year d.month := Nat.le_antisymm last (Nat.not_lt.mp inside)
    rw [if_neg inside]
    by_cases month : d.month < 12
    · have days := one_le_monthLength d.year (Nat.le_add_left 1 d.month) month
      rw [if_pos month, of?_valid ⟨low, high, Nat.le_refl 1, days⟩]
      refine ⟨_, rfl, dayNumber_succ rfl ?_⟩
      simp only [ordinal, daysBeforeMonth_succ, day]
    · have december : d.month = 12 := Nat.le_antisymm month_high (Nat.not_lt.mp month)
      have days := one_le_monthLength (d.year + 1) (Nat.le_refl 1) (by decide)
      have january : Valid (d.year + 1) 1 1 := ⟨by omega, by omega, by decide, days⟩
      rw [if_neg month, of?_valid january]
      exact ⟨_, rfl, dayNumber_first rfl (d.ordinal_last_month december day) rfl⟩

theorem exists_previous (room : -262143 < d.year) :
    ∃ e, d.previous? = some e ∧ e.dayNumber = d.dayNumber - 1 := by
  obtain ⟨low, high, first, last⟩ := d.valid
  obtain ⟨month_low, month_high, _⟩ := d.month_and_day_le
  -- the date found is the one that `d` follows
  suffices ∃ e, d.previous? = some e ∧ d.dayNumber = e.dayNumber + 1 by
    obtain ⟨e, found, follows⟩ := this
    exact ⟨e, found, by omega⟩
  unfold previous?
  by_cases inside : 1 < d.day
  · rw [if_pos inside, of?_valid ⟨low, high, by omega, by omega⟩]
    refine ⟨_, rfl, dayNumber_succ rfl ?_⟩
    simp only [ordinal]
    omega
  · have day : d.day = 1 := Nat.le_antisymm (Nat.not_lt.mp inside) first
    rw [if_neg inside]
    by_cases month : 1 < d.month
    · obtain ⟨before, eq⟩ : ∃ before, d.month = before + 1 := ⟨d.month - 1, by omega⟩
      have days : 1 ≤ monthLength d.year before := one_le_monthLength _ (by omega) (by omega)
      rw [if_pos month, eq, Nat.add_sub_cancel, of?_valid ⟨low, high, days, Nat.le_refl _⟩]
      refine ⟨_, rfl, dayNumber_succ rfl ?_⟩
      simp only [ordinal, eq, daysBeforeMonth_succ, day]
    · have january : d.month = 1 := Nat.le_antisymm (Nat.not_lt.mp month) month_low
      have december : Valid (d.year - 1) 12 31 := ⟨by omega, by omega, by decide, Nat.le_refl 31⟩
      rw [if_neg month, of?_valid december]
      refine ⟨_, rfl, dayNumber_first (by simp) (ordinal_last_month _ rfl rfl) ?_⟩
      rw [ordinal, january, day]
      rfl

/-- The date on which a number of minutes from the start of this one falls. -/
def falling? (minutes : Int) : Option Date :=
  if minutes < 0 then d.previous? else if 1440 ≤ minutes then d.next? else some d

theorem exists_falling (room : -262143 < d.year ∧ d.year < 262142) {minutes : Int}
    (low : -1440 ≤ minutes) (high : minutes < 2880) :
    ∃ e, d.falling? minutes = some e ∧ e.dayNumber = d.dayNumber + minutes / 1440 := by
  unfold falling?
  split
  · obtain ⟨e, found, days⟩ := d.exists_previous room.1
    exact ⟨e, found, by omega⟩
  · split
    · obtain ⟨e, found, days⟩ := d.exists_next room.2
      exact ⟨e, found, by omega⟩
    · exact ⟨d, rfl, by omega⟩

end Date

theorem Time.of?_valid {hour minute second nano : Nat} (valid : Valid hour minute second nano) :
    of? hour minute second nano = some ⟨hour, minute, second, nano, valid⟩ := dif_pos valid

namespace DateTime

/-- The second date-time is that many minutes earlier, or later for a negative number. -/
def MinutesBefore (x : DateTime) (minutes : Int) (y : DateTime) : Prop :=
  y.epochSeconds = x.epochSeconds - minutes * 60 ∧ y.sinceSecond = x.sinceSecond

instance (x : DateTime) (minutes : Int) (y : DateTime) : Decidable (x.MinutesBefore minutes y) :=
  inferInstanceAs (Decidable (_ ∧ _))

variable {x y : DateTime}

/-- Seconds since the start of 1970 and what has gone by of the second leave no choice. -/
theorem eq_of_instant (seconds : x.epochSeconds = y.epochSeconds)
    (part : x.sinceSecond = y.sinceSecond) : x = y := by
  cases order : compare x y with
  | lt =>
    have before := compare_eq_lt_iff.mp order
    simp only [Before] at before
    omega
  | eq => exact Std.LawfulEqOrd.eq_of_compare order
  | gt =>
    have before := compare_eq_lt_iff.mp (Std.OrientedCmp.lt_of_gt order)
    simp only [Before] at before
    omega

theorem minusMinutes?_eq (x : DateTime) {minutes total : Int}
    (sum : x.time.hour * 60 + x.time.minute - minutes = total) :
    x.minusMinutes? minutes = (x.date.falling? total).bind fun date =>
      (Time.of? ((total % 1440).toNat / 60) ((total % 1440).toNat % 60) x.time.second
        x.time.nano).bind fun time => some ⟨date, time⟩ := by
  subst sum
  unfold minusMinutes? Date.falling?
  dsimp only
  split
  · rfl
  · split <;> rfl

theorem exists_minusMinutes (x : DateTime) (room : -262143 < x.date.year ∧ x.date.year < 262142)
    {minutes : Int} (day : minutes.natAbs < 1440) :
    ∃ y, x.minusMinutes? minutes = some y ∧ x.MinutesBefore minutes y := by
  obtain ⟨hour_high, minute_high, second_high, nano_high⟩ := x.time.valid
  obtain ⟨total, sum⟩ : ∃ total, x.time.hour * 60 + x.time.minute - minutes = total := ⟨_, rfl⟩
  obtain ⟨date, found, days⟩ := x.date.exists_falling room
    (show -1440 ≤ total by omega) (show total < 2880 by omega)
  have valid : Time.Valid ((total % 1440).toNat / 60) ((total % 1440).toNat % 60) x.time.second
      x.time.nano := ⟨by omega, by omega, second_high, nano_high⟩
  refine ⟨⟨date, ⟨_, _, _, _, valid⟩⟩, ?_, ?_, rfl⟩
  · rw [minusMinutes?_eq x sum, found, Option.bind_some, Time.of?_valid valid]
    rfl
  · simp only [epochSeconds, days]
    omega

end DateTime

end RecordFilter
