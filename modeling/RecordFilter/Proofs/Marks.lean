import RecordFilter.Proofs.CalendarText
import RecordFilter.Value.Basic

/-!
Marks: the quote and the two parentheses. Of all values, strings alone have marks in their text.
-/
namespace RecordFilter

namespace Text

def isMark (c : Char) : Bool := c == '"' || c == '(' || c == ')'

def Unmarked (s : List Char) : Prop := ∀ c ∈ s, isMark c = false

@[simp] theorem unmarked_nil : Unmarked [] := by simp [Unmarked]

@[simp] theorem unmarked_cons {c : Char} {s : List Char} :
    Unmarked (c :: s) ↔ isMark c = false ∧ Unmarked s := List.forall_mem_cons

@[simp] theorem unmarked_append {s t : List Char} :
    Unmarked (s ++ t) ↔ Unmarked s ∧ Unmarked t := List.forall_mem_append

theorem Unmarked.take {s : List Char} (unmarked : Unmarked s) (n : Nat) : Unmarked (s.take n) :=
  fun c member => unmarked c (List.mem_of_mem_take member)

theorem Unmarked.drop {s : List Char} (unmarked : Unmarked s) (n : Nat) : Unmarked (s.drop n) :=
  fun c member => unmarked c (List.mem_of_mem_drop member)

theorem unmarked_zeros (n : Nat) : Unmarked (List.replicate n '0') := by
  intro c member
  cases List.eq_of_mem_replicate member
  decide

theorem Unmarked.leftpad {s : List Char} (unmarked : Unmarked s) (n : Nat) :
    Unmarked (s.leftpad n '0') :=
  unmarked_append.mpr ⟨unmarked_zeros _, unmarked⟩

theorem isMark_of_isDigit {c : Char} (digit : c.isDigit = true) : isMark c = false := by
  cases mark : isMark c
  · rfl
  · simp only [isMark, Bool.or_eq_true, beq_iff_eq] at mark
    rcases mark with (rfl | rfl) | rfl <;> cases digit

theorem unmarked_decimal (n : Nat) : Unmarked (decimal n) := by
  intro c member
  exact isMark_of_isDigit (Nat.isDigit_of_mem_toDigits (by decide) (by decide) member)

theorem unmarked_padded (width n : Nat) : Unmarked (padded width n) :=
  (unmarked_decimal n).leftpad width

theorem unmarked_signed (z : Int) : Unmarked (signed z) := by
  unfold signed
  split
  · exact unmarked_cons.mpr ⟨by decide, unmarked_decimal _⟩
  · exact unmarked_decimal _

theorem isMark_digitChar : ∀ n < 16, isMark (Nat.digitChar n) = false := by decide

theorem unmarked_hexByte (b : UInt8) : Unmarked (hexByte b) := by
  have high : b.toNat / 16 < 16 := by
    have := b.toNat_lt
    omega
  have low : b.toNat % 16 < 16 := Nat.mod_lt _ (by decide)
  simp [hexByte, isMark_digitChar, high, low]

end Text

open Text

theorem unmarked_positional (d : Nat) (e : Int) : Unmarked (positional d e) := by
  have digits := unmarked_decimal d
  simp only [positional]
  split
  · exact unmarked_append.mpr ⟨digits, unmarked_zeros _⟩
  · split
    · exact unmarked_append.mpr ⟨digits.take _, unmarked_cons.mpr ⟨by decide, digits.drop _⟩⟩
    · exact unmarked_cons.mpr ⟨by decide, unmarked_cons.mpr ⟨by decide, digits.leftpad _⟩⟩

theorem Binary.unmarked_render {f : Format} (x : Binary f) : Unmarked x.render := by
  have words : Unmarked "NaN".toList ∧ Unmarked "inf".toList ∧ Unmarked ['0'] ∧ Unmarked ['-'] := by
    simp [Unmarked, isMark]
  unfold render
  split
  · exact words.1
  · apply unmarked_append.mpr
    constructor
    · split
      · exact words.2.2.2
      · exact unmarked_nil
    · split
      · exact words.2.1
      · split
        · exact words.2.2.1
        · exact unmarked_positional _ _

theorem Span.unmarked_render (x : Span) : Unmarked x.render := by
  simp only [render, unmarked_append]
  refine ⟨⟨⟨?_, ?_⟩, ?_⟩, ?_⟩
  · split <;> simp [isMark]
  · unfold renderDays
    split <;> simp [unmarked_decimal, isMark]
  · simp [clock, unmarked_padded, isMark]
  · unfold renderTicks
    split <;> simp [unmarked_padded, isMark]

theorem DateTime.unmarked_render (x : DateTime) : Unmarked (x.render ' ') := by
  have digit (c : Char) (digit : c.isDigit = true) : isMark c = false := isMark_of_isDigit digit
  have date : Unmarked x.date.render := x.date.forall_mem_render digit rfl rfl
  have time : Unmarked x.time.render := x.time.forall_mem_render digit rfl rfl
  exact unmarked_append.mpr ⟨date, unmarked_cons.mpr ⟨rfl, time⟩⟩

theorem Value.unmarked_render (v : Value) (other : ∀ s, v ≠ .string s) : Unmarked v.render := by
  cases v with
  | int n => exact unmarked_signed _
  | long n => exact unmarked_signed _
  | float x => exact x.unmarked_render
  | double x => exact x.unmarked_render
  | bool b => cases b <;> simp [render, Unmarked, isMark]
  | string s => exact absurd rfl (other s)
  | dateTime x => exact x.unmarked_render
  | timeSpan x => exact x.unmarked_render
  | bytes bs =>
    have hex : Unmarked (bs.flatMap hexByte) := by
      intro c member
      obtain ⟨b, _, digit⟩ := List.mem_flatMap.mp member
      exact unmarked_hexByte b c digit
    exact unmarked_cons.mpr ⟨by decide, unmarked_cons.mpr ⟨by decide, hex⟩⟩
  | null => simp [render, Unmarked, isMark]

end RecordFilter
