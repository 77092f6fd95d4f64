import RecordFilter.Coercion
import RecordFilter.Proofs.Overlay

/-!
Keywords compared without regard to case, by the small letters of all scripts or by those of
ASCII alone. Beyond ASCII only two characters have an ASCII letter in their small form: the Kelvin
sign, which becomes a `k`, and the capital i with a dot, which keeps the dot as a mark of its own.
So a keyword of small letters other than `k` has the same spellings either way, and the flag of
the settings is read as a Boolean constant is.
-/
namespace RecordFilter

namespace Text

/-- An ASCII small letter other than `k`. -/
def IsPlainSmall (c : Char) : Prop := 97 ≤ c.toNat ∧ c.toNat ≤ 122 ∧ c.toNat ≠ 107

instance (c : Char) : Decidable (IsPlainSmall c) := inferInstanceAs (Decidable (_ ∧ _))

/-- The first run has the ASCII capitals. All others lie beyond ASCII, and their small letters are
no ASCII letters but for one `k`. -/
theorem capitalRuns_apart : ∀ run ∈ capitalRuns, run = (65, 90, 1, 32) ∨
    (128 ≤ run.1 ∧ ((run.2.1 : Int) + run.2.2.2 < 97 ∨ 122 < (run.1 : Int) + run.2.2.2 ∨
      (run.1 = run.2.1 ∧ (run.1 : Int) + run.2.2.2 = 107))) := by
  decide +kernel

theorem lowerOffset?_eq_some {n : Nat} {offset : Int} (found : lowerOffset? n = some offset) :
    (65 ≤ n ∧ n ≤ 90 ∧ offset = 32) ∨
      (128 ≤ n ∧
        ((n : Int) + offset < 97 ∨ 122 < (n : Int) + offset ∨ (n : Int) + offset = 107)) := by
  obtain ⟨⟨first, last, step, _⟩, hit, rfl⟩ := Option.map_eq_some_iff.mp found
  have within := List.find?_some hit
  simp only [Bool.and_eq_true, decide_eq_true_eq] at within
  obtain ⟨⟨low, high⟩, _⟩ := within
  rcases capitalRuns_apart _ (List.mem_of_find?_eq_some hit) with same | ⟨beyond, apart⟩
  · cases same
    exact .inl ⟨low, high, rfl⟩
  · right
    dsimp only at beyond apart ⊢
    omega

theorem lowerOffset?_eq_none {n : Nat} (missed : lowerOffset? n = none) : ¬ (65 ≤ n ∧ n ≤ 90) := by
  have first : (65, 90, 1, 32) ∈ capitalRuns := List.mem_cons_self
  have fails := List.find?_eq_none.mp (Option.map_eq_none_iff.mp missed) _ first
  simpa [Nat.mod_one] using fails

theorem toNat_toLower (c : Char) :
    c.toLower.toNat = if 65 ≤ c.toNat ∧ c.toNat ≤ 90 then c.toNat + 32 else c.toNat := by
  have bounds : (c.val ≥ 'A'.val ∧ c.val ≤ 'Z'.val) ↔ 65 ≤ c.toNat ∧ c.toNat ≤ 90 := by
    simp only [ge_iff_le, UInt32.le_iff_toNat_le]
    rfl
  unfold Char.toLower
  split <;> rename_i capital
  · obtain ⟨low, high⟩ := bounds.mp capital
    rw [if_pos ⟨low, high⟩]
    change (c.val + 32).toNat = _
    rw [UInt32.toNat_add, Nat.mod_eq_of_lt]
    · rfl
    · change c.toNat + 32 < _
      omega
  · rw [if_neg (mt bounds.mpr capital)]

theorem toNat_ofNat (n : Nat) : (Char.ofNat n).toNat = n ∨ (Char.ofNat n).toNat = 0 := by
  by_cases valid : n.isValidChar
  · left
    rw [Char.ofNat, dif_pos valid]
    rfl
  · right
    rw [Char.ofNat, dif_neg valid]
    rfl

theorem lowerChar_ascii {c : Char} (ascii : c.toNat < 128) : lowerChar c = [c.toLower] := by
  have undotted : c.toNat ≠ 0x130 := by omega
  have lower := toNat_toLower c
  rw [lowerChar, if_neg undotted]
  cases found : lowerOffset? c.toNat with
  | none =>
    rw [if_neg (lowerOffset?_eq_none found)] at lower
    rw [Char.toNat_inj.mp lower]
  | some offset =>
    obtain ⟨low, high, rfl⟩ : 65 ≤ c.toNat ∧ c.toNat ≤ 90 ∧ offset = 32 := by
      have := lowerOffset?_eq_some found
      omega
    rw [if_pos ⟨low, high⟩] at lower
    change [Char.ofNat (c.toNat + 32)] = _
    rw [← lower, Char.ofNat_toNat]

theorem ascii_of_toLower {c : Char} (plain : IsPlainSmall c.toLower) : c.toNat < 128 := by
  have lower := toNat_toLower c
  unfold IsPlainSmall at plain
  split at lower <;> omega

/-- What is plain in small letters was an ASCII letter. -/
theorem ascii_of_lowerChar {c : Char} (plain : ∀ d ∈ lowerChar c, IsPlainSmall d) :
    c.toNat < 128 := by
  simp only [lowerChar] at plain
  split at plain
  · have mark := plain (Char.ofNat 0x307) (by simp)
    exact absurd mark (by decide)
  · cases found : lowerOffset? c.toNat with
    | none =>
      rw [found] at plain
      have small : c.toNat ≤ 122 := (plain c List.mem_cons_self).2.1
      omega
    | some offset =>
      rw [found] at plain
      obtain ⟨low, high, other⟩ := plain _ List.mem_cons_self
      have code := toNat_ofNat (c.toNat + offset).toNat
      have run := lowerOffset?_eq_some found
      omega

theorem lowercase_eq_foldCase {s : List Char} (ascii : ∀ c ∈ s, c.toNat < 128) :
    lowercase s = foldCase s := by
  induction s with
  | nil => rfl
  | cons c s ih =>
    obtain ⟨head, ascii⟩ := List.forall_mem_cons.mp ascii
    have rest : s.flatMap lowerChar = s.map Char.toLower := ih ascii
    simp [lowercase, foldCase, lowerChar_ascii head, rest]

theorem lowercase_eq_iff {s word : List Char} (plain : ∀ c ∈ word, IsPlainSmall c) :
    lowercase s = word ↔ foldCase s = word := by
  constructor
  · rintro rfl
    refine (lowercase_eq_foldCase fun c member => ascii_of_lowerChar fun d small => ?_).symm
    exact plain d (List.mem_flatMap.mpr ⟨c, member, small⟩)
  · rintro rfl
    refine lowercase_eq_foldCase fun c member => ascii_of_toLower ?_
    exact plain c.toLower (List.mem_map_of_mem member)

end Text

namespace Settings

open Text

theorem readFlag?_eq_readBool? (raw : String) : readFlag? raw = readBool? (trim raw.toList) := by
  have same (word : List Char) (plain : ∀ c ∈ word, IsPlainSmall c)
      (small : foldCase word = word) :
      lowercase (trim raw.toList) = word ↔ sameLetters (trim raw.toList) word = true := by
    rw [lowercase_eq_iff plain, sameLetters, beq_iff_eq, small]
  have yes := same "true".toList (by simp [IsPlainSmall]) rfl
  have no := same "false".toList (by simp [IsPlainSmall]) rfl
  simp only [readFlag?, readBool?, yes, no]

variable {env : String → Option String} {raw : String}

theorem ofEnvironment_alone (given : env Variable.caseSensitiveColumns.name = some raw)
    (alone : ∀ var : Variable, var ≠ .caseSensitiveColumns → env var.name = none) :
    ofEnvironment env =
      match readFlag? raw with
      | some flag => .ok { caseSensitiveColumns := flag }
      | none => .error ⟨.caseSensitiveColumns, raw⟩ := by
  simp only [ofEnvironment, overlay_absent (alone .dateTimeFormats (by decide)),
    overlay_absent (alone .dateFormats (by decide))]
  cases read : readFlag? raw with
  | none => rw [overlay_unread given read]; rfl
  | some flag => rw [overlay_read given read]; rfl

/-- With the other two variables absent, the flag is read from its variable exactly as the same
text is read as a Boolean constant, under whatever settings, and is malformed exactly when that
text is no constant. -/
theorem ofEnvironment_flag (given : env Variable.caseSensitiveColumns.name = some raw)
    (alone : ∀ var : Variable, var ≠ .caseSensitiveColumns → env var.name = none)
    (settings : Settings) :
    (∀ flag, (∃ result, ofEnvironment env = .ok result ∧ result.caseSensitiveColumns = flag) ↔
      coerce? settings .bool raw = some (.bool flag)) ∧
    (ofEnvironment env = .error ⟨.caseSensitiveColumns, raw⟩ ↔
      coerce? settings .bool raw = none) := by
  rw [ofEnvironment_alone given alone, readFlag?_eq_readBool?]
  simp only [coerce?]
  cases readBool? (trim raw.toList) with
  | none => simp
  | some flag => simp

/-- Mixed case between wide blanks spells a word. Wide letters have small forms of their own, which
do not. -/
theorem ofEnvironment_flag_mixed :
    let env (raw name : String) : Option String :=
      [("FILTER_CASE_SENSITIVE_COLUMNS", raw), ("HOME", "true")].lookup name
    let spelled := "\u3000 FaLSe\u00a0"
    let wide := "\uff34\uff32\uff35\uff25"
    env spelled Variable.caseSensitiveColumns.name = some spelled ∧
      coerce? ⟨true, [], []⟩ .bool spelled = some (.bool false) ∧
      (∃ result, ofEnvironment (env spelled) = .ok result ∧ result.caseSensitiveColumns = false) ∧
      ofEnvironment (env wide) = .error ⟨.caseSensitiveColumns, wide⟩ := by
  intro env spelled wide
  have given (raw : String) : env raw Variable.caseSensitiveColumns.name = some raw := rfl
  have alone (raw : String) (var : Variable) (other : var ≠ .caseSensitiveColumns) :
      env raw var.name = none := by
    cases var with
    | caseSensitiveColumns => exact absurd rfl other
    | dateTimeFormats => rfl
    | dateFormats => rfl
  have constant : coerce? ⟨true, [], []⟩ .bool spelled = some (.bool false) := by decide
  have none : coerce? {} .bool wide = none := by decide
  have read := ofEnvironment_flag (given spelled) (alone spelled) ⟨true, [], []⟩
  have unread := ofEnvironment_flag (given wide) (alone wide) {}
  exact ⟨given spelled, constant, (read.1 false).mpr constant, unread.2.mpr none⟩

end Settings

end RecordFilter
