import RecordFilter.Proofs.SpanReading

/-!
Spans put together from parts. What comes of them is their exact total. Each step on the way has
to stay in a word; where the parts are of one sign, none goes beyond the total, so that only the
total itself or the nanoseconds can be out of range. Parts of both signs may leave the word
although they cancel out.
-/
namespace RecordFilter.Span

/-- The nanoseconds that the parts come to. -/
def partsTotal (days hours minutes seconds : Int) (nanos : Nat) : Int :=
  days * (86400 * 10 ^ 9) + hours * (3600 * 10 ^ 9) + minutes * (60 * 10 ^ 9) +
    seconds * 10 ^ 9 + nanos

/-- The seconds of each part and their sums up to each part are words. -/
structure InWords (days hours minutes seconds : Int) : Prop where
  ofDays : InWord (days * 86400)
  ofHours : InWord (hours * 3600)
  upToHours : InWord (days * 86400 + hours * 3600)
  ofMinutes : InWord (minutes * 60)
  upToMinutes : InWord (days * 86400 + hours * 3600 + minutes * 60)
  ofSeconds : InWord seconds
  upToSeconds : InWord (days * 86400 + hours * 3600 + minutes * 60 + seconds)

def OneSign (days hours minutes seconds : Int) : Prop :=
  (0 ≤ days ∧ 0 ≤ hours ∧ 0 ≤ minutes ∧ 0 ≤ seconds) ∨
    (days ≤ 0 ∧ hours ≤ 0 ∧ minutes ≤ 0 ∧ seconds ≤ 0)

instance (days hours minutes seconds : Int) : Decidable (OneSign days hours minutes seconds) :=
  inferInstanceAs (Decidable (_ ∨ _))

variable {days hours minutes seconds : Int} {nanos : Nat}

theorem ofParts_eq_some_iff_total {x : Span} :
    ofParts days hours minutes seconds nanos = some x ↔
      InWords days hours minutes seconds ∧ nanos < 10 ^ 9 ∧
        x.nanos = partsTotal days hours minutes seconds nanos := by
  have total : partsTotal days hours minutes seconds nanos =
      (days * 86400 + hours * 3600 + minutes * 60 + seconds) * 10 ^ 9 + nanos := by
    unfold partsTotal
    omega
  rw [ofParts_eq_some_iff, total]
  refine and_congr_left fun _ => ⟨?_, ?_⟩
  · rintro ⟨d, h, dh, m, dhm, s, dhms⟩
    exact ⟨d, h, dh, m, dhm, s, dhms⟩
  · rintro ⟨d, h, dh, m, dhm, s, dhms⟩
    exact ⟨d, h, dh, m, dhm, s, dhms⟩

theorem ofParts_eq_none_iff : ofParts days hours minutes seconds nanos = none ↔
    ¬ (InWords days hours minutes seconds ∧ nanos < 10 ^ 9 ∧
      (partsTotal days hours minutes seconds nanos).natAbs ≤ limit) := by
  rw [Option.eq_none_iff_forall_ne_some]
  constructor
  · rintro unmade ⟨inWords, part, within⟩
    exact unmade ⟨_, within⟩ (ofParts_eq_some_iff_total.mpr ⟨inWords, part, rfl⟩)
  · intro outside x made
    obtain ⟨inWords, part, nanos⟩ := ofParts_eq_some_iff_total.mp made
    exact outside ⟨inWords, part, nanos ▸ x.within⟩

theorem OneSign.inWords (oneSign : OneSign days hours minutes seconds) (part : nanos < 10 ^ 9)
    (within : (partsTotal days hours minutes seconds nanos).natAbs ≤ limit) :
    InWords days hours minutes seconds := by
  simp only [partsTotal, limit] at within
  rcases oneSign with ⟨_, _, _, _⟩ | ⟨_, _, _, _⟩ <;> constructor <;> constructor <;> omega

/-- A span that is put together has the exact total of the parts, of which the nanoseconds do not
fill a second. Where the other parts are all of one sign, there is none only if the nanoseconds
fill a second or the total is beyond the limit. -/
theorem ofParts_exact (days hours minutes seconds : Int) (nanos : Nat) :
    (∀ x, ofParts days hours minutes seconds nanos = some x →
      nanos < 10 ^ 9 ∧ x.nanos = partsTotal days hours minutes seconds nanos) ∧
    (OneSign days hours minutes seconds →
      (ofParts days hours minutes seconds nanos = none ↔
        10 ^ 9 ≤ nanos ∨ limit < (partsTotal days hours minutes seconds nanos).natAbs)) := by
  constructor
  · intro x made
    exact (ofParts_eq_some_iff_total.mp made).2
  · intro oneSign
    rw [ofParts_eq_none_iff]
    constructor
    · intro outside
      by_cases part : nanos < 10 ^ 9
      · refine .inr (Nat.not_le.mp fun within => ?_)
        exact outside ⟨oneSign.inWords part within, part, within⟩
      · exact .inl (Nat.not_lt.mp part)
    · rintro (whole | beyond) ⟨_, part, within⟩
      · exact absurd part (Nat.not_lt.mpr whole)
      · exact absurd within (Nat.not_le.mpr beyond)

/-- The nanoseconds count up from the second below the limit, where one less is too few. -/
theorem ofParts_exact_least :
    let least (nanos : Nat) := ofParts (-106751991167) (-7) (-12) (-56) nanos
    OneSign (-106751991167) (-7) (-12) (-56) ∧
      least 193000000 = some ⟨-limit, by decide⟩ ∧ least 192999999 = none ∧
      partsTotal (-106751991167) (-7) (-12) (-56) 193000000 = -limit := by
  intro least
  have oneSign : OneSign (-106751991167) (-7) (-12) (-56) := by decide
  have made : least 193000000 = some ⟨-limit, by decide⟩ := by decide
  have beyond : limit < (partsTotal (-106751991167) (-7) (-12) (-56) 192999999).natAbs := by decide
  have none := ((ofParts_exact _ _ _ _ 192999999).2 oneSign).mpr (.inr beyond)
  exact ⟨oneSign, made, none, ((ofParts_exact _ _ _ _ _).1 _ made).2.symm⟩

/-- These parts cancel out, but the days alone are no word in seconds. -/
example : partsTotal (2 ^ 50) (-24 * 2 ^ 50) 0 0 0 = 0 ∧
    ofParts (2 ^ 50) (-24 * 2 ^ 50) 0 0 0 = none := by decide

end RecordFilter.Span
