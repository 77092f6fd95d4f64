import RecordFilter.Proofs.DayShift
import RecordFilter.Proofs.Outcome
import RecordFilter.Proofs.Storage

/-!
Storing what is built. Spans are read in whole ticks. Date-times are read by way of a clock, on
which a leap second only ends a minute, and an offset moves them by whole minutes. So a predicate
that was built from a request is stored without loss, or not at all because of a floating-point
number that is not finite.
-/
namespace RecordFilter

theorem eq_ok_of_toOption {ε α : Type} {result : Except ε α} {a : α}
    (found : result.toOption = some a) : result = .ok a := by
  cases result with
  | error => cases found
  | ok => exact congrArg Except.ok (Option.some.inj found)

namespace Time

variable {hour minute second nano : Nat} {t : Time}

theorem leapAtEnd_of? (made : of? hour minute second nano = some t)
    (shown : 10 ^ 9 ≤ nano → second = 59) : t.LeapAtEnd := by
  unfold of? at made
  split at made
  · cases made
    exact fun leap => shown (of_decide_eq_true leap)
  · cases made

theorem leapAtEnd_ofClock? (made : ofClock? hour minute second nano = some t) : t.LeapAtEnd := by
  unfold ofClock? at made
  split at made
  · cases made
  · rename_i early
    split at made
    · exact leapAtEnd_of? made fun _ => rfl
    · exact leapAtEnd_of? made fun late => absurd late early

end Time

theorem CalendarFields.leapAtEnd_time {p : CalendarFields} {t : Time} (read : p.time = .ok t) :
    t.LeapAtEnd := by
  unfold time at read
  split at read
  · split at read
    · cases read
    · split at read
      · rename_i made
        cases read
        exact Time.leapAtEnd_ofClock? made
      · cases read
  · cases read

/-- With a timestamp and without, the time is taken from the fields of a clock. -/
theorem CalendarFields.leapAtEnd_dateTime? {p : CalendarFields} {x : DateTime}
    (read : p.dateTime? = some x) : x.time.LeapAtEnd := by
  unfold dateTime? at read
  split at read
  · rename_i clock
    split at read
    · cases read
      exact leapAtEnd_time clock
    · cases read
  · cases read
  · cases read
  · obtain ⟨timestamp, _, read⟩ := Option.bind_eq_some_iff.mp read
    obtain ⟨p, _, read⟩ := Option.bind_eq_some_iff.mp read
    obtain ⟨date, _, read⟩ := Option.bind_eq_some_iff.mp read
    obtain ⟨time, clock, read⟩ := Option.bind_eq_some_iff.mp read
    cases read
    exact leapAtEnd_time (eq_ok_of_toOption clock)

namespace DateTime

variable {x y : DateTime}

theorem leapAtEnd_minusMinutes? {minutes : Int} (atEnd : x.time.LeapAtEnd)
    (moved : x.minusMinutes? minutes = some y) : y.time.LeapAtEnd := by
  rw [minusMinutes?_eq x rfl] at moved
  obtain ⟨date, _, moved⟩ := Option.bind_eq_some_iff.mp moved
  obtain ⟨time, clock, moved⟩ := Option.bind_eq_some_iff.mp moved
  cases moved
  exact Time.leapAtEnd_of? clock fun leap => atEnd (decide_eq_true leap)

theorem leapAtEnd_ofInternet? {s : List Char} (read : ofInternet? s = some x) :
    x.time.LeapAtEnd := by
  unfold ofInternet? at read
  -- what is read before the offset
  iterate 12 obtain ⟨_, _, read⟩ := Option.bind_eq_some_iff.mp read
  obtain ⟨⟨offset, rest⟩, _, read⟩ := Option.bind_eq_some_iff.mp read
  dsimp only at read
  split at read
  · obtain ⟨date, _, read⟩ := Option.bind_eq_some_iff.mp read
    obtain ⟨time, clock, moved⟩ := Option.bind_eq_some_iff.mp read
    exact leapAtEnd_minusMinutes? (Time.leapAtEnd_ofClock? clock) moved
  · cases read

theorem leapAtEnd_readDateTime? {settings : Settings} {s : List Char}
    (read : readDateTime? settings s = some x) : x.time.LeapAtEnd := by
  simp only [readDateTime?, Option.orElse_eq_orElse, Option.orElse_eq_or,
    Option.or_eq_some_iff] at read
  rcases read with internet | ⟨_, timed | ⟨_, dated⟩⟩
  · exact leapAtEnd_ofInternet? internet
  · obtain ⟨_, _, read⟩ := List.exists_of_findSome?_eq_some timed
    obtain ⟨_, _, read⟩ := Option.bind_eq_some_iff.mp read
    exact CalendarFields.leapAtEnd_dateTime? read
  · obtain ⟨date, _, rfl⟩ := Option.map_eq_some_iff.mp dated
    exact (by decide : Time.midnight.LeapAtEnd)

end DateTime

theorem Span.truncate_of_read? {text : String} {x : Span} (read : read? text = some x) :
    x.truncate = x :=
  truncate_eq_of_dvd (dvd_of_read (eq_ok_of_toOption read))

/-- A constant loses nothing by being stored, unless it is not finite. -/
theorem leapAtEnd_and_truncate_eq_of_coerce? {settings : Settings} {type : DataType}
    {raw : String} {v : Value} (coerced : coerce? settings type raw = some v) :
    v.LeapAtEnd ∧ v.truncate = v := by
  unfold coerce? at coerced
  cases type with
  | int | float | double | bool =>
    obtain ⟨_, _, rfl⟩ := Option.map_eq_some_iff.mp coerced
    exact ⟨trivial, rfl⟩
  | string =>
    cases coerced
    exact ⟨trivial, rfl⟩
  | dateTime =>
    obtain ⟨x, read, rfl⟩ := Option.map_eq_some_iff.mp coerced
    exact ⟨DateTime.leapAtEnd_readDateTime? read, rfl⟩
  | timeSpan =>
    obtain ⟨x, read, rfl⟩ := Option.map_eq_some_iff.mp coerced
    exact ⟨trivial, congrArg Value.timeSpan (Span.truncate_of_read? read)⟩
  | long | bytes => cases coerced

theorem Expr.mapConstants_eq_self {f : Value → Value} {e : Expr}
    (kept : ∀ t ∈ e.leaves, f t.constant = t.constant) : e.mapConstants f = e := by
  induction e using byTerms with
  | term t => exact congrArg (Expr.comparison t.column t.op) (kept t List.mem_cons_self)
  | join l c r left right =>
    simp only [leaves_combine, List.mem_append, or_imp, forall_and] at kept
    rw [mapConstants_combine, left kept.1, right kept.2]

namespace Predicate

/-- What is built is read back as it is, if it is read back at all. -/
theorem restored_of_build {schema : Schema} {settings : Settings} {request : Request}
    {predicate : Predicate} (built : build schema settings request = .ok predicate) :
    Expr.ofJson? predicate.expr.toJson =
      if predicate.expr.Finite then some predicate.expr else none := by
  have stored : ∀ t ∈ predicate.expr.leaves, t.constant.LeapAtEnd ∧
      t.constant.truncate = t.constant := by
    intro t leaf
    rw [build_eq_ok_iff_compiled] at built
    obtain ⟨p, _, compiles⟩ := Request.exists_compiles_of_mem built.leaves leaf
    cases compiles with
    | term _ _ _ read => exact leapAtEnd_and_truncate_eq_of_coerce? read
  rw [Expr.ofJson?_toJson fun t leaf => (stored t leaf).1,
    Expr.mapConstants_eq_self fun t leaf => (stored t leaf).2]

end Predicate

end RecordFilter
