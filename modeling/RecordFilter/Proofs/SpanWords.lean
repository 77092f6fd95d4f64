import RecordFilter.Proofs.SpanPrinting

/-!
Spans on a machine. The reader and the printer count without bound, a machine in words of 32 and 64
bits. Here a span is read and printed step by step in words. A step that the reader checks refuses
the text when its exact result is not in its word, and any other step stops the run, as does a sign
that takes a span beyond the limit. No run is stopped so, and each gives what the reader or the
printer gives.
-/
namespace RecordFilter.Span

open Text

/-- The numbers of a span's text in words. -/
structure Numbers where
  days : Int
  hours : Int
  minutes : Int
  seconds : Int
  fraction : Int

/-- The fraction is in ticks where it is printed and in nanoseconds where it is read, `unit` of
them to a tick. -/
def Components.numbers (c : Components) (unit : Nat) : Numbers :=
  ⟨c.days, c.hours, c.minutes, c.seconds, (c.ticks * unit : Nat)⟩

namespace Machine

inductive Word where
  | unsigned32
  | signed32
  | signed64

namespace Word

def least : Word → Int
  | unsigned32 => 0
  | signed32 => -2 ^ 31
  | signed64 => -2 ^ 63

def greatest : Word → Int
  | unsigned32 => 2 ^ 32 - 1
  | signed32 => 2 ^ 31 - 1
  | signed64 => 2 ^ 63 - 1

def hold? (w : Word) (z : Int) : Option Int :=
  if w.least ≤ z ∧ z ≤ w.greatest then some z else none

end Word

/-- Why a run stops: the reader refuses the text, or a result is too large for its type. -/
inductive Stop where
  | refused (e : ReadError)
  | overflow (result : Int)

/-- A step without a check. -/
def keep (w : Word) (z : Int) : Except Stop Int := (w.hold? z).elim (.error (.overflow z)) .ok

/-- A span is kept as seconds, rounded down, and the nanoseconds above them. -/
def keepSpan (nanos : Int) : Except Stop Span := do
  let _ ← keep .signed64 (nanos / 10 ^ 9)
  let _ ← keep .signed32 (nanos % 10 ^ 9)
  (ofNanos? nanos).elim (.error (.overflow nanos)) .ok

/-- A step with a check, which refuses the text for one reason. -/
def accept {α : Type} (reason : ReadError) (result : Option α) : Except Stop α :=
  result.elim (.error (.refused reason)) .ok

def secondsAndNanos (reason : ReadError) (s : List Char) : Except Stop (Nat × Int) :=
  match cut? '.' s with
  | some (whole, fraction) => do
    if fraction.length ≤ 7 then
      let digits ← accept reason (component? fraction)
      let ticks ← accept reason (Word.unsigned32.hold? digits)
      let missing ← keep .unsigned32 (7 - fraction.length)
      let scale ← keep .unsigned32 (10 ^ missing.toNat)
      let seconds ← accept reason (component? whole)
      -- a text without a number of seconds does not come to the products
      let scaled ← keep .unsigned32 (ticks * scale)
      let nanos ← keep .unsigned32 (scaled * 100)
      return (seconds, nanos)
    else accept reason none
  | none => do
    let seconds ← accept reason (component? s)
    return (seconds, 0)

def numbers (reason : ReadError) (body : List Char) : Except Stop Numbers :=
  match body.splitOn ':' with
  | [days] => do
    let d ← accept reason (component? days)
    return ⟨d, 0, 0, 0, 0⟩
  | [head, minutes] => do
    let (d, h) ← accept reason (daysAndHours? head)
    let m ← accept reason (component? minutes)
    return ⟨d, h, m, 0, 0⟩
  | [head, minutes, seconds] => do
    let (d, h) ← accept reason (daysAndHours? head)
    let (s, nanos) ← secondsAndNanos reason seconds
    let m ← accept reason (component? minutes)
    return ⟨d, h, m, s, nanos⟩
  | [days, hours, minutes, seconds] => do
    let (s, nanos) ← secondsAndNanos reason seconds
    let d ← accept reason (component? days)
    let h ← accept reason (component? hours)
    let m ← accept reason (component? minutes)
    return ⟨d, h, m, s, nanos⟩
  | _ => accept reason none

def assemble (reason : ReadError) (n : Numbers) : Except Stop Span :=
  if 24 ≤ n.hours ∨ 60 ≤ n.minutes ∨ 60 ≤ n.seconds then .error (.refused reason)
  else accept reason (ofParts n.days n.hours n.minutes n.seconds n.fraction.toNat)

def read (text : String) : Except Stop Span := do
  let (negative, body) := signAndBody (trim text.toList)
  let n ← numbers (.malformed text) body
  let x ← assemble (.outOfRange text) n
  if negative then keepSpan (-x.nanos) else return x

def quotient (w : Word) (z : Int) (divisor : Nat) : Except Stop Int := keep w (z.tdiv divisor)

def remainder (w : Word) (z : Int) (divisor : Nat) : Except Stop Int := keep w (z.tmod divisor)

/-- The numbers that are printed of a span. -/
def printed (x : Span) : Except Stop Numbers := do
  let size ← keepSpan x.nanos.natAbs
  let total ← keep .signed64 (size.nanos.tdiv (10 ^ 9))
  let days ← quotient .signed64 total 86400
  let clock ← remainder .signed64 total 86400
  let hours ← quotient .signed64 clock 3600
  let rest ← remainder .signed64 clock 3600
  let minutes ← quotient .signed64 rest 60
  let seconds ← remainder .signed64 clock 60
  let below ← keep .signed32 (size.nanos.tmod (10 ^ 9))
  let nanos ← keep .unsigned32 below.natAbs
  let ticks ← quotient .unsigned32 nanos 100
  return ⟨days, hours, minutes, seconds, ticks⟩

section Steps

variable {w : Word} {z : Int} {n : Nat}

theorem ok_bind {α β : Type} (a : α) (f : α → Except Stop β) : (Except.ok a >>= f) = f a := rfl

theorem accept_some {α : Type} (reason : ReadError) (a : α) :
    accept reason (some a) = .ok a := rfl

/-- A number below `2 ^ 31` is in every word. -/
theorem le_greatest (small : n < 2 ^ 31) : (n : Int) ≤ w.greatest := by
  cases w <;> simp only [Word.greatest] <;> omega

theorem hold?_natCast (fits : (n : Int) ≤ w.greatest) : w.hold? n = some (n : Int) := by
  have low : w.least ≤ n := by
    cases w <;> simp only [Word.least] <;> omega
  exact if_pos ⟨low, fits⟩

theorem keep_eq (same : z = n) (fits : (n : Int) ≤ w.greatest) : keep w z = .ok (n : Int) := by
  rw [same, keep, hold?_natCast fits]
  rfl

theorem keep_natCast (fits : (n : Int) ≤ w.greatest) : keep w n = .ok (n : Int) :=
  keep_eq rfl fits

theorem quotient_natCast (fits : (n : Int) ≤ w.greatest) (divisor : Nat) :
    quotient w n divisor = .ok ((n / divisor : Nat) : Int) := by
  have smaller := Nat.div_le_self n divisor
  rw [quotient, ← Int.ofNat_tdiv, keep_natCast (by omega)]

theorem remainder_natCast (fits : (n : Int) ≤ w.greatest) (divisor : Nat) :
    remainder w n divisor = .ok ((n % divisor : Nat) : Int) := by
  have smaller := Nat.mod_le n divisor
  rw [remainder, ← Int.ofNat_tmod, keep_natCast (by omega)]

theorem keepSpan_nanos (x : Span) : keepSpan x.nanos = .ok x := by
  have within := x.within
  have held : ofNanos? x.nanos = some x := ofNanos?_eq_some_iff.mpr rfl
  have seconds : keep .signed64 (x.nanos / 10 ^ 9) = .ok (x.nanos / 10 ^ 9) := by
    rw [keep, Word.hold?, if_pos]
    · rfl
    · simp only [limit, Word.least, Word.greatest] at within ⊢
      omega
  have above : keep .signed32 (x.nanos % 10 ^ 9) = .ok ((x.nanos % 10 ^ 9).toNat : Int) :=
    keep_eq (by omega) (le_greatest (by omega))
  rw [keepSpan, seconds, above, held]
  rfl

end Steps

/-- Only the whole seconds need a long word: what is left of a day, or of a second, is small. -/
theorem printed_eq (x : Span) : printed x = .ok (x.components.numbers 1) := by
  have within : (x.nanos.natAbs : Int).natAbs ≤ limit := by
    rw [Int.natAbs_natCast]
    exact x.within
  obtain ⟨size, same⟩ : ∃ size : Span, size.nanos = x.nanos.natAbs := ⟨⟨_, within⟩, rfl⟩
  have kept := keepSpan_nanos size
  rw [same] at kept
  have total : (x.nanos.natAbs / 10 ^ 9 : Nat) ≤ Word.signed64.greatest := by
    simp only [limit, Word.greatest] at within ⊢
    omega
  have day : x.nanos.natAbs / 10 ^ 9 % 86400 < 2 ^ 31 := by omega
  have hour : x.nanos.natAbs / 10 ^ 9 % 86400 % 3600 < 2 ^ 31 := by omega
  have second : x.nanos.natAbs % 10 ^ 9 < 2 ^ 31 := by omega
  have whole : (x.nanos.natAbs : Int).tdiv (10 ^ 9) = (x.nanos.natAbs / 10 ^ 9 : Nat) := rfl
  have part : (x.nanos.natAbs : Int).tmod (10 ^ 9) = (x.nanos.natAbs % 10 ^ 9 : Nat) := rfl
  simp only [printed, kept, same, ok_bind, whole, keep_natCast total, quotient_natCast total,
    remainder_natCast total, quotient_natCast (le_greatest day),
    remainder_natCast (le_greatest day), quotient_natCast (le_greatest hour), part,
    keep_natCast (le_greatest second), Int.natAbs_natCast, quotient_natCast (le_greatest second)]
  rw [Components.numbers, Nat.mul_one]
  rfl

/-- At most seven digits count less than the ticks of a second, and so does their scale and what
is scaled by it. -/
theorem fraction_lt {f : List Char} {n : Nat} (short : f.length ≤ 7)
    (read : component? f = some n) :
    n < 10 ^ 7 ∧ 10 ^ (7 - f.length) ≤ 10 ^ 7 ∧ n * 10 ^ (7 - f.length) < 10 ^ 7 := by
  obtain ⟨run, rfl, _⟩ := component?_eq_some_iff.mp read
  have digits : digitsValue f < 10 ^ 7 :=
    Nat.lt_of_lt_of_le run.digitsValue_lt (Nat.pow_le_pow_right (by decide) short)
  have scale : 10 ^ (7 - f.length) ≤ 10 ^ 7 := Nat.pow_le_pow_right (by decide) (by omega)
  exact ⟨digits, scale, fraction_ticks_lt run short⟩

theorem ticks?_of_short {f : List Char} (short : f.length ≤ 7) :
    ticks? f = (component? f).map (· * 10 ^ (7 - f.length)) := by
  rw [ticks?, if_pos short]
  by_cases run : IsDigitRun f
  · have digits := run.digitsValue_lt
    have scale : 10 ^ f.length ≤ 10 ^ 7 := Nat.pow_le_pow_right (by decide) short
    have word : digitsValue f < 2 ^ 63 := by omega
    rw [component?_run run word, number?, if_pos run]
  · rw [component?, number?, if_neg run]
    rfl

section Reading

variable (reason : ReadError)

theorem secondsAndNanos_eq (s : List Char) : secondsAndNanos reason s =
    (accept reason (secondsAndTicks? s)).map fun (n, t) => (n, ((t * 100 : Nat) : Int)) := by
  unfold secondsAndNanos secondsAndTicks?
  cases cut? '.' s with
  | none => cases component? s <;> rfl
  | some pair =>
    obtain ⟨whole, fraction⟩ := pair
    dsimp only
    by_cases short : fraction.length ≤ 7
    · rw [if_pos short, ticks?_of_short short]
      cases read : component? fraction with
      | none => rfl
      | some n =>
        obtain ⟨digits, scale, product⟩ := fraction_lt short read
        generalize missing : 7 - fraction.length = k at scale product
        have ticks : Word.unsigned32.hold? n = some (n : Int) :=
          hold?_natCast (le_greatest (by omega))
        have left : keep .unsigned32 (7 - fraction.length) = .ok k :=
          keep_eq (by omega) (le_greatest (by omega))
        have scale : keep .unsigned32 (10 ^ k) = .ok (10 ^ k : Nat) :=
          keep_eq (Int.natCast_pow 10 k).symm (le_greatest (by omega))
        have scaled : keep .unsigned32 (n * (10 ^ k : Nat)) = .ok (n * 10 ^ k : Nat) :=
          keep_eq (Int.natCast_mul _ _).symm (le_greatest (by omega))
        have nanos : keep .unsigned32 ((n * 10 ^ k : Nat) * 100) = .ok (n * 10 ^ k * 100 : Nat) :=
          keep_eq (Int.natCast_mul _ 100).symm (le_greatest (by omega))
        -- the reader scales before it reads the seconds, but it refuses for one reason either way
        simp only [accept_some, ok_bind, ticks, left, Int.toNat_natCast, scale, Option.map_some]
        cases component? whole with
        | none => rfl
        | some seconds =>
          simp only [accept_some, ok_bind, scaled, nanos]
          rfl
    · rw [if_neg short, ticks?, if_neg short]
      rfl

theorem numbers_eq (body : List Char) :
    numbers reason body = (accept reason (components? body)).map (·.numbers 100) := by
  unfold numbers components?
  generalize body.splitOn ':' = parts
  rcases parts with _ | ⟨first, _ | ⟨second, _ | ⟨third, _ | ⟨fourth, _ | _⟩⟩⟩⟩ <;> dsimp only
  · rfl
  · cases component? first <;> rfl
  · rcases daysAndHours? first with _ | ⟨d, h⟩
    · rfl
    · cases component? second <;> rfl
  · rw [secondsAndNanos_eq]
    rcases daysAndHours? first with _ | ⟨d, h⟩
    · rfl
    · rcases secondsAndTicks? third with _ | ⟨s, t⟩
      · rfl
      · cases component? second <;> rfl
  · rw [secondsAndNanos_eq]
    rcases secondsAndTicks? fourth with _ | ⟨s, t⟩
    · rfl
    · cases component? first
      · rfl
      · cases component? second
        · rfl
        · cases component? third <;> rfl
  · rfl

theorem assemble_eq (c : Components) :
    assemble reason (c.numbers 100) = accept reason c.span? := by
  have test : (24 ≤ (c.numbers 100).hours ∨ 60 ≤ (c.numbers 100).minutes ∨
      60 ≤ (c.numbers 100).seconds) ↔ ¬ c.InRange := by
    simp only [Components.numbers, Components.InRange]
    omega
  rw [assemble, Components.span?]
  by_cases inRange : c.InRange
  · rw [if_neg fun outside => test.mp outside inRange, if_pos inRange]
    rfl
  · rw [if_pos (test.mpr inRange), if_neg inRange]
    rfl

theorem read_eq (text : String) : read text = (Span.read text).mapError .refused := by
  rcases split : signAndBody (trim text.toList) with ⟨negative, body⟩
  simp only [read, Span.read, split, numbers_eq]
  cases components? body with
  | none => rfl
  | some c =>
    -- the negation is reached only where the components make a span
    dsimp only
    change (assemble _ (c.numbers 100) >>= _) = _
    rw [assemble_eq]
    cases c.span? with
    | none => rfl
    | some x =>
      cases negative with
      | false => rfl
      | true => exact keepSpan_nanos (-x)

end Reading

end Machine

/-- No step of reading or printing leaves its word. Reading in words gives what the reader gives,
for every text: a fraction's digits, their scale and both products are words, and the nanoseconds
never fill a second, so that a span is refused for its components or its total alone. The negation
of a span is a span, and printing in words gives the numbers of its text, none too wide for its
place. -/
theorem arithmetic_fits :
    (∀ text, Machine.read text = (read text).mapError .refused) ∧
    (∀ (fraction : List Char) (n : Nat), fraction.length ≤ 7 → component? fraction = some n →
      n < 2 ^ 32 ∧ 10 ^ (7 - fraction.length) < 2 ^ 32 ∧
        n * 10 ^ (7 - fraction.length) < 2 ^ 32 ∧
        n * 10 ^ (7 - fraction.length) * 100 < 10 ^ 9) ∧
    (∀ body c, components? body = some c → c.ticks * 100 < 10 ^ 9 ∧
      (c.span? = none ↔ ¬ (c.InRange ∧ c.total ≤ limit))) ∧
    ∀ x : Span, Machine.keepSpan (-x.nanos) = .ok (-x) ∧
      Machine.printed x = .ok (x.components.numbers 1) ∧
      x.components.InRange ∧ (decimal x.components.ticks).length ≤ 7 ∧
      x.render = sign (x.nanos < 0) ++ x.components.text := by
  refine ⟨Machine.read_eq, ?_, ?_, ?_⟩
  · intro fraction n short read
    obtain ⟨digits, scale, product⟩ := Machine.fraction_lt short read
    omega
  · intro body c components
    have ticks := (components?_eq_some_iff.mp components).1.ticks_lt
    exact ⟨by omega, c.span?_eq_none_iff ticks⟩
  · intro x
    have narrow : (decimal x.components.ticks).length ≤ 7 :=
      (Nat.length_toDigits_le_iff (by decide) (by decide)).mpr x.components_ticks_lt
    exact ⟨Machine.keepSpan_nanos (-x), Machine.printed_eq x, x.components_inRange, narrow,
      x.render_eq_text⟩

/-- The least span of all: its fraction is scaled by the four digits that it lacks, its negation is
the greatest one, and it is printed with all seven digits. -/
theorem arithmetic_fits_least :
    let x : Span := ⟨-limit, by decide⟩
    let c : Components := ⟨106751991167, 7, 12, 55, 8070000⟩
    component? "807".toList = some 807 ∧ 807 * 10 ^ 4 * 100 < 10 ^ 9 ∧
      components? "106751991167.7:12:55.807".toList = some c ∧ c.ticks * 100 < 10 ^ 9 ∧
      Machine.read "-106751991167.7:12:55.807" = .ok x ∧
      Machine.keepSpan limit = .ok ⟨limit, by decide⟩ ∧
      Machine.printed x = .ok (c.numbers 1) := by
  intro x c
  have digits : component? "807".toList = some 807 := by decide
  have components : components? "106751991167.7:12:55.807".toList = some c := by rfl
  have accepted : Span.read "-106751991167.7:12:55.807" = .ok x := by rfl
  obtain ⟨reads, fractions, parts, spans⟩ := arithmetic_fits
  obtain ⟨negated, printed, _⟩ := spans x
  have shown : x.components = c := by decide
  have run : Machine.read "-106751991167.7:12:55.807" = .ok x := by
    rw [reads, accepted]
    rfl
  exact ⟨digits, (fractions _ 807 (by decide) digits).2.2.2, components, (parts _ c components).1,
    run, negated, shown ▸ printed⟩

end RecordFilter.Span
