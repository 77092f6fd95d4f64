import RecordFilter.Json.Reader
import RecordFilter.Json.Writer

/-!
JSON texts read back. A document without numbers whose objects have no key twice is read from the
text it is written with, whatever follows the text. Every value takes one call of the reader and
writes one character at least, so the length of the text is enough fuel for it.
-/
namespace RecordFilter.Json

open Text

/-- No number, which is read as one it is near to, and no key that another member has. -/
inductive Numberless : Json → Prop where
  | null : Numberless .null
  | bool (b : Bool) : Numberless (.bool b)
  | string (s : String) : Numberless (.string s)
  | array {items : List Json} (each : ∀ json ∈ items, Numberless json) : Numberless (.array items)
  | object {members : List (String × Json)} (distinct : (members.map Prod.fst).Nodup)
      (each : ∀ m ∈ members, Numberless m.2) : Numberless (.object members)

section Strings

theorem hexDigit?_digitChar : ∀ n < 16, hexDigit? (Nat.digitChar n) = some n := by decide

theorem escape?_control {c : Char} (control : c.toNat < 32) (s : List Char) :
    escape? ('u' :: '0' :: '0' :: hexByte c.toNat.toUInt8 ++ s) = some (c, s) := by
  have byte : c.toNat.toUInt8.toNat = c.toNat := by
    rw [Nat.toUInt8_eq, UInt8.toNat_ofNat']
    omega
  have zero : hexDigit? '0' = some 0 := rfl
  have high := hexDigit?_digitChar (c.toNat / 16) (by omega)
  have low := hexDigit?_digitChar (c.toNat % 16) (by omega)
  have value : 16 * (c.toNat / 16) + c.toNat % 16 = c.toNat := Nat.div_add_mod ..
  have four : hexFour? ('0' :: '0' :: hexByte c.toNat.toUInt8 ++ s) = some (c.toNat, s) := by
    simp [hexFour?, hexByte, byte, zero, high, low, value]
  change unicodeEscape? ('0' :: '0' :: hexByte c.toNat.toUInt8 ++ s) = _
  have plane : ¬ (0xD800 ≤ c.toNat ∧ c.toNat < 0xDC00) := by omega
  have plane' : ¬ (0xDC00 ≤ c.toNat ∧ c.toNat < 0xE000) := by omega
  simp only [unicodeEscape?, four, Option.bind_eq_bind, Option.bind_some, if_neg plane,
    if_neg plane', Char.ofNat_toNat]

theorem escape?_letter {c letter : Char} (escapes : letterEscapes.lookup c = some letter)
    (s : List Char) : escape? (letter :: s) = some (c, s) := by
  obtain ⟨before, after, split, _⟩ := List.lookup_eq_some_iff.mp escapes
  have each : ∀ m ∈ letterEscapes, escape? (m.2 :: s) = some (m.1, s) := by
    simp only [letterEscapes, List.forall_mem_cons]
    exact ⟨rfl, rfl, rfl, rfl, rfl, rfl, rfl, fun _ none => nomatch none⟩
  exact each (c, letter) (by simp [split])

theorem readString?_escape {c : Char} {s rest : List Char} (escape : escape? s = some (c, rest))
    (fuel : Nat) : readString? (fuel + 1) ('\\' :: s) =
      (readString? fuel rest).map fun (cs, rest) => (c :: cs, rest) := by
  simp only [readString?, escape, Option.bind_eq_bind, Option.bind_some]
  cases readString? fuel rest <;> rfl

theorem readString?_bare {c : Char} (quote : c ≠ '"') (backslash : c ≠ '\\')
    (printed : ¬ c.toNat < 32) (fuel : Nat) (s : List Char) : readString? (fuel + 1) (c :: s) =
      (readString? fuel s).map fun (cs, rest) => (c :: cs, rest) := by
  conv => lhs; unfold readString?
  split
  · rename_i eq
    cases eq
  · rename_i eq
    exact absurd (List.cons.inj eq).1 quote
  · rename_i eq
    exact absurd (List.cons.inj eq).1 backslash
  · rename_i eq
    cases eq
    rw [if_neg printed]
    cases readString? fuel s <;> rfl

theorem readString?_escaped (c : Char) (fuel : Nat) (s : List Char) :
    readString? (fuel + 1) (escaped c ++ s) =
      (readString? fuel s).map fun (cs, rest) => (c :: cs, rest) := by
  unfold escaped
  split
  · rename_i letter escapes
    exact readString?_escape (escape?_letter escapes s) fuel
  · rename_i plain
    split
    · rename_i control
      exact readString?_escape (escape?_control control s) fuel
    · rename_i printed
      have quote : c ≠ '"' := by
        rintro rfl
        cases plain
      have backslash : c ≠ '\\' := by
        rintro rfl
        cases plain
      exact readString?_bare quote backslash printed fuel s

theorem readString?_flatMap (s rest : List Char) {fuel : Nat} (enough : s.length < fuel) :
    readString? fuel (s.flatMap escaped ++ '"' :: rest) = some (s, rest) := by
  induction s generalizing fuel with
  | nil =>
    obtain ⟨fuel, rfl⟩ := Nat.exists_eq_add_one_of_ne_zero (Nat.ne_of_gt enough)
    rfl
  | cons c s ih =>
    obtain ⟨fuel, rfl⟩ : ∃ n, fuel = n + 1 := ⟨fuel - 1, by omega⟩
    rw [List.flatMap_cons, List.append_assoc, readString?_escaped,
      ih (Nat.lt_of_succ_lt_succ enough), Option.map_some]

theorem length_le_flatMap_escaped (s : List Char) : s.length ≤ (s.flatMap escaped).length := by
  induction s with
  | nil => exact Nat.le_refl _
  | cons c s ih =>
    have written : 0 < (escaped c).length := by
      unfold escaped
      split <;> (try split) <;> simp
    rw [List.flatMap_cons, List.length_append, List.length_cons]
    omega

/-- The text after the quote that opens a string is fuel enough to read the string. -/
theorem readString?_quoted (s : String) (rest : List Char) :
    readString? (s.toList.flatMap escaped ++ '"' :: rest).length
      (s.toList.flatMap escaped ++ '"' :: rest) = some (s.toList, rest) := by
  apply readString?_flatMap
  have shorter := length_le_flatMap_escaped s.toList
  simp only [List.length_append, List.length_cons]
  omega

end Strings

section Documents

theorem quoted_append (s : String) (rest : List Char) :
    quoted s ++ rest = '"' :: (s.toList.flatMap escaped ++ '"' :: rest) := by
  simp [quoted]

/-- The characters a text may begin with: none of them is space or closes anything. -/
def openers : List Char := ['n', 't', 'f', '"', '[', '{']

theorem exists_write_cons {json : Json} (numberless : Numberless json) :
    ∃ c t, json.write = c :: t ∧ c ∈ openers := by
  cases numberless with
  | null => exact ⟨_, _, rfl, by decide⟩
  | bool b => cases b <;> exact ⟨_, _, rfl, by decide⟩
  | string s => exact ⟨_, _, rfl, by decide⟩
  | array each => exact ⟨_, _, rfl, by decide⟩
  | object distinct each => exact ⟨_, _, rfl, by decide⟩

theorem skipSpace_cons {c : Char}
    (solid : (c == ' ' || c == '\t' || c == '\n' || c == '\r') = false) (s : List Char) :
    skipSpace (c :: s) = c :: s :=
  List.dropWhile_cons_of_neg (by rw [solid]; decide)

/-- The reader takes the value's own text from the start of any longer one. -/
def Legible (json : Json) : Prop :=
  ∀ (fuel : Nat) (rest : List Char), json.write.length ≤ fuel →
    readValue? fuel (json.write ++ rest) = some (json, rest)

theorem readItems?_write {items : List Json} (nonempty : items ≠ [])
    (legible : ∀ json ∈ items, Legible json) (fuel : Nat) (rest : List Char)
    (enough : (writeItems items).length < fuel) :
    readItems? fuel (writeItems items ++ ']' :: rest) = some (items, rest) := by
  induction items generalizing fuel with
  | nil => exact absurd rfl nonempty
  | cons json items ih =>
    obtain ⟨fuel, rfl⟩ : ∃ n, fuel = n + 1 := ⟨fuel - 1, by omega⟩
    obtain ⟨first, legible⟩ := List.forall_mem_cons.mp legible
    cases items with
    | nil =>
      have read := first fuel (']' :: rest) (Nat.le_of_lt_succ enough)
      simp only [writeItems, readItems?, read, Option.bind_eq_bind, Option.bind_some,
        skipSpace_cons (c := ']') rfl]
    | cons next items =>
      simp only [writeItems, List.length_append, List.length_cons] at enough
      have read := first fuel (',' :: writeItems (next :: items) ++ ']' :: rest) (by omega)
      have later := ih (List.cons_ne_nil _ _) legible fuel (by omega)
      simp only [writeItems, List.append_assoc, List.cons_append] at read later ⊢
      simp only [readItems?, read, later, Option.bind_eq_bind, Option.bind_some,
        skipSpace_cons (c := ',') rfl]

theorem addMember_of_fresh {key : String} (json : Json) {members : List (String × Json)}
    (fresh : key ∉ members.map Prod.fst) :
    addMember key json members = (key, json) :: members := by
  have absent : members.lookup key = none := by
    refine List.lookup_eq_none_iff.mpr fun m member => ?_
    have other : key ≠ m.1 := by
      intro same
      apply fresh
      exact List.mem_map.mpr ⟨m, member, same.symm⟩
    simp [other]
  rw [addMember, absent]
  rfl

theorem readMembers?_write {members : List (String × Json)} (nonempty : members ≠ [])
    (distinct : (members.map Prod.fst).Nodup) (legible : ∀ m ∈ members, Legible m.2)
    (fuel : Nat) (rest : List Char) (enough : (writeMembers members).length < fuel) :
    readMembers? fuel (writeMembers members ++ '}' :: rest) = some (members, rest) := by
  induction members generalizing fuel with
  | nil => exact absurd rfl nonempty
  | cons m members ih =>
    obtain ⟨key, json⟩ := m
    obtain ⟨fuel, rfl⟩ : ∃ n, fuel = n + 1 := ⟨fuel - 1, by omega⟩
    obtain ⟨(first : Legible json), legible⟩ := List.forall_mem_cons.mp legible
    cases members with
    | nil =>
      simp only [writeMembers, List.length_append, List.length_cons] at enough
      have read := first fuel ('}' :: rest) (by omega)
      simp only [writeMembers, List.append_assoc, quoted_append, List.cons_append, readMembers?,
        skipSpace_cons (c := '"') rfl, readString?_quoted, read, Option.bind_eq_bind,
        Option.bind_some, skipSpace_cons (c := ':') rfl, skipSpace_cons (c := '}') rfl,
        String.ofList_toList]
    | cons next members =>
      obtain ⟨fresh, distinct⟩ := List.nodup_cons.mp distinct
      simp only [writeMembers, List.length_append, List.length_cons] at enough
      have read := first fuel (',' :: writeMembers (next :: members) ++ '}' :: rest) (by omega)
      have later := ih (List.cons_ne_nil _ _) distinct legible fuel (by omega)
      simp only [writeMembers, List.append_assoc, quoted_append, List.cons_append] at read later ⊢
      simp only [readMembers?, skipSpace_cons (c := '"') rfl, readString?_quoted, read, later,
        Option.bind_eq_bind, Option.bind_some, skipSpace_cons (c := ':') rfl,
        skipSpace_cons (c := ',') rfl, String.ofList_toList, addMember_of_fresh json fresh]

/-- A text is not empty, so the reader has a call to make. -/
theorem Numberless.legible_of_succ {json : Json} (numberless : Numberless json)
    (read : ∀ (fuel : Nat) (rest : List Char), json.write.length ≤ fuel + 1 →
      readValue? (fuel + 1) (json.write ++ rest) = some (json, rest)) : Legible json := by
  intro fuel rest enough
  obtain ⟨c, t, text, _⟩ := exists_write_cons numberless
  have positive : 0 < json.write.length := by simp [text]
  obtain ⟨fuel, rfl⟩ : ∃ n, fuel = n + 1 := ⟨fuel - 1, by omega⟩
  exact read fuel rest enough

theorem exists_writeItems_cons {items : List Json} (nonempty : items ≠ [])
    (numberless : ∀ json ∈ items, Numberless json) :
    ∃ c t, writeItems items = c :: t ∧ c ∈ openers := by
  cases items with
  | nil => exact absurd rfl nonempty
  | cons json items =>
    obtain ⟨c, t, text, first⟩ := exists_write_cons (List.forall_mem_cons.mp numberless).1
    cases items with
    | nil => exact ⟨c, t, text, first⟩
    | cons next items =>
      refine ⟨c, t ++ ',' :: writeItems (next :: items), ?_, first⟩
      rw [writeItems, text, List.cons_append]
      exact List.cons_ne_nil _ _

theorem exists_writeMembers_cons {members : List (String × Json)} (nonempty : members ≠ []) :
    ∃ t, writeMembers members = '"' :: t := by
  cases members with
  | nil => exact absurd rfl nonempty
  | cons m members => cases members <;> exact ⟨_, rfl⟩

theorem readValue?_items {c : Char} (first : c ∈ openers) (t : List Char) (fuel : Nat) :
    readValue? (fuel + 1) ('[' :: c :: t) =
      (readItems? fuel (c :: t)).map fun (items, rest) => (.array items, rest) := by
  simp only [openers, List.mem_cons, List.not_mem_nil, or_false] at first
  rcases first with rfl | rfl | rfl | rfl | rfl | rfl <;>
    exact (Option.map_eq_bind ..).symm

theorem readValue?_members (t : List Char) (fuel : Nat) :
    readValue? (fuel + 1) ('{' :: '"' :: t) =
      (readMembers? fuel ('"' :: t)).map fun (members, rest) => (.object members, rest) :=
  (Option.map_eq_bind ..).symm

/-- A value that holds others writes a bracket before them and gives one call less to them. -/
theorem Numberless.legible {json : Json} (numberless : Numberless json) : Legible json := by
  induction numberless with
  | null => exact legible_of_succ .null fun fuel rest _ => rfl
  | bool b =>
    refine legible_of_succ (.bool b) fun fuel rest _ => ?_
    cases b <;> rfl
  | string s =>
    refine legible_of_succ (.string s) fun fuel rest _ => ?_
    simp only [write, quoted_append, readValue?, skipSpace_cons (c := '"') rfl, readString?_quoted,
      Option.bind_eq_bind, Option.bind_some, text, String.ofList_toList]
  | @array items each ih =>
    refine legible_of_succ (.array each) fun fuel rest enough => ?_
    by_cases empty : items = []
    · subst empty
      rfl
    simp only [write, List.cons_append, List.length_cons, List.length_append] at enough
    have read := readItems?_write empty ih fuel rest (by omega)
    obtain ⟨c, t, text, first⟩ := exists_writeItems_cons empty each
    simp only [write, text, List.cons_append, List.append_assoc, List.nil_append] at read ⊢
    rw [readValue?_items first, read, Option.map_some]
  | @object members distinct each ih =>
    refine legible_of_succ (.object distinct each) fun fuel rest enough => ?_
    by_cases empty : members = []
    · subst empty
      rfl
    simp only [write, List.cons_append, List.length_cons, List.length_append] at enough
    have read := readMembers?_write empty distinct ih fuel rest (by omega)
    obtain ⟨t, text⟩ := exists_writeMembers_cons empty
    simp only [write, text, List.cons_append, List.append_assoc, List.nil_append] at read ⊢
    rw [readValue?_members, read, Option.map_some]

/-- What is written is read back. -/
theorem read?_write {json : Json} (numberless : Numberless json) :
    read? json.write = some json := by
  have read := numberless.legible _ [] (Nat.le_succ json.write.length)
  rw [List.append_nil] at read
  rw [read?, read]
  rfl

end Documents

end RecordFilter.Json
