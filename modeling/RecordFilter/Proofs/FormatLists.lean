import RecordFilter.Proofs.Pieces
import RecordFilter.Settings.Environment

/-!
Lists of formats written as one text. The pieces between the commas are blank or each a format
between blanks, and the reader gives the formats in order. The pieces of a text are determined by
it, for none of them has a comma, so a text lists one sequence of formats at most, and a format
is what trimming leaves of its piece.
-/
namespace RecordFilter

namespace Text

/-- What the pieces of a text are made of is the text without the separators. -/
theorem exists_mem_splitOn {sep c : Char} (s : List Char) :
    (∃ piece ∈ s.splitOn sep, c ∈ piece) ↔ c ∈ s ∧ c ≠ sep := by
  induction s with
  | nil => simp
  | cons d s ih =>
    obtain ⟨piece, pieces, split⟩ := List.exists_cons_of_ne_nil (List.splitOn_ne_nil sep s)
    simp only [split, List.mem_cons, exists_eq_or_imp] at ih
    rw [List.splitOn_cons_eq_if_modifyHead, split]
    by_cases here : d = sep
    · simp only [here, beq_self_eq_true, if_true, List.mem_cons, exists_eq_or_imp,
        List.not_mem_nil, false_or, ih]
      exact ⟨fun ⟨member, apart⟩ => ⟨.inr member, apart⟩,
        fun ⟨member, apart⟩ => ⟨member.resolve_left apart, apart⟩⟩
    · simp only [beq_iff_eq, here, if_false, List.modifyHead_cons, List.mem_cons,
        exists_eq_or_imp, or_assoc, ih]
      constructor
      · rintro (rfl | ⟨member, apart⟩)
        · exact ⟨.inl rfl, here⟩
        · exact ⟨.inr member, apart⟩
      · rintro ⟨rfl | member, apart⟩
        · exact .inl rfl
        · exact .inr ⟨member, apart⟩

theorem not_mem_of_mem_splitOn {sep : Char} {s piece : List Char} (member : piece ∈ s.splitOn sep) :
    sep ∉ piece := fun inside => ((exists_mem_splitOn s).mp ⟨piece, member, inside⟩).2 rfl

theorem trim_eq_nil_iff {s : List Char} : trim s = [] ↔ Blank s := by
  rw [trim_eq_iff]
  constructor
  · rintro ⟨_, u, v, blank, blank', rfl⟩
    exact List.forall_mem_append.mpr ⟨blank, blank'⟩
  · intro blank
    exact ⟨tight_of_inked (by simp), s, [], blank, by simp [Blank], by simp⟩

end Text

namespace Settings

open Text

/-- The text of a format in a list: trimming leaves it as it is, and no comma is in it. -/
structure IsFormat (format : String) : Prop where
  some : format ≠ ""
  tight : Tight format.toList
  whole : ',' ∉ format.toList

/-- The pieces stand for the formats: each is blank, or the next format between blanks. -/
inductive Itemizes : List (List Char) → List String → Prop where
  | nil : Itemizes [] []
  | blank {piece : List Char} {pieces : List (List Char)} {formats : List String}
      (blank : Blank piece) (rest : Itemizes pieces formats) : Itemizes (piece :: pieces) formats
  | format {left right : List Char} {format : String} {pieces : List (List Char)}
      {formats : List String} (before : Blank left) (after : Blank right)
      (rest : Itemizes pieces formats) :
      Itemizes ((left ++ (format.toList ++ right)) :: pieces) (format :: formats)

/-- The text joins pieces for one or more formats with commas. -/
structure Lists (raw : String) (formats : List String) : Prop where
  some : formats ≠ []
  plain : ∀ format ∈ formats, IsFormat format
  joined : ∃ pieces, Itemizes pieces formats ∧ raw.toList = [','].intercalate pieces

def items (pieces : List (List Char)) : List String :=
  ((pieces.map trim).filter (· ≠ [])).map String.ofList

theorem readFormats?_eq (raw : String) : readFormats? raw =
    if items (raw.toList.splitOn ',') = [] then none
    else some (items (raw.toList.splitOn ',')) := by
  unfold readFormats? items
  split
  · rename_i none
    rw [none]
    rfl
  · rename_i some
    rw [if_neg fun none => some (List.map_eq_nil_iff.mp none)]

theorem readFormats?_eq_some_iff {raw : String} {formats : List String} :
    readFormats? raw = some formats ↔ formats ≠ [] ∧ items (raw.toList.splitOn ',') = formats := by
  rw [readFormats?_eq]
  split
  · rename_i none
    rw [none]
    exact ⟨nofun, fun ⟨given, same⟩ => absurd same.symm given⟩
  · rename_i some
    rw [Option.some.injEq]
    exact ⟨fun same => ⟨same ▸ some, same⟩, And.right⟩

theorem items_blank {piece : List Char} (blank : Blank piece) (pieces : List (List Char)) :
    items (piece :: pieces) = items pieces := by
  simp [items, trim_eq_nil_iff.mpr blank]

theorem items_format {left right : List Char} {format : String} (before : Blank left)
    (after : Blank right) (plain : IsFormat format) (pieces : List (List Char)) :
    items ((left ++ (format.toList ++ right)) :: pieces) = format :: items pieces := by
  simp [items, trim_blank_append_blank before plain.tight after, plain.some]

theorem Itemizes.items_eq {pieces : List (List Char)} {formats : List String}
    (itemized : Itemizes pieces formats) (plain : ∀ format ∈ formats, IsFormat format) :
    items pieces = formats := by
  induction itemized with
  | nil => rfl
  | blank blank _ ih => rw [items_blank blank, ih plain]
  | format before after _ ih =>
    obtain ⟨head, plain⟩ := List.forall_mem_cons.mp plain
    rw [items_format before after head, ih plain]

/-- The pieces of a list of formats are the ones that it was joined from. -/
theorem Itemizes.not_mem {pieces : List (List Char)} {formats : List String}
    (itemized : Itemizes pieces formats) (plain : ∀ format ∈ formats, IsFormat format) :
    ∀ piece ∈ pieces, ',' ∉ piece := by
  have comma {s : List Char} (blank : Blank s) : ',' ∉ s := fun inside => by
    cases blank ',' inside
  induction itemized with
  | nil => simp
  | blank blank _ ih => exact List.forall_mem_cons.mpr ⟨comma blank, ih plain⟩
  | format before after _ ih =>
    obtain ⟨head, plain⟩ := List.forall_mem_cons.mp plain
    refine List.forall_mem_cons.mpr ⟨?_, ih plain⟩
    simp [comma before, comma after, head.whole]

theorem isFormat_trim {piece : List Char} (inked : ¬ Blank piece) (whole : ',' ∉ piece) :
    IsFormat (String.ofList (trim piece)) := by
  obtain ⟨u, v, _, _, split⟩ := exists_blank_trim piece
  refine ⟨?_, ?_, ?_⟩
  · simpa [trim_eq_nil_iff] using inked
  · simpa using tight_trim piece
  · intro inside
    have inside : ',' ∈ trim piece := by simpa using inside
    rw [split] at whole
    exact whole (List.mem_append_right u (List.mem_append_left v inside))

theorem itemizes_items {pieces : List (List Char)} (whole : ∀ piece ∈ pieces, ',' ∉ piece) :
    (∀ format ∈ items pieces, IsFormat format) ∧ Itemizes pieces (items pieces) := by
  induction pieces with
  | nil => exact ⟨by simp [items], .nil⟩
  | cons piece pieces ih =>
    obtain ⟨head, whole⟩ := List.forall_mem_cons.mp whole
    obtain ⟨plain, itemized⟩ := ih whole
    by_cases blank : Blank piece
    · rw [items_blank blank]
      exact ⟨plain, .blank blank itemized⟩
    · obtain ⟨u, v, before, after, split⟩ := exists_blank_trim piece
      have format := isFormat_trim blank head
      have split : piece = u ++ ((String.ofList (trim piece)).toList ++ v) := by simpa using split
      rw [split, items_format before after format]
      exact ⟨List.forall_mem_cons.mpr ⟨format, plain⟩, .format before after itemized⟩

theorem readFormats?_eq_some_iff_lists {raw : String} {formats : List String} :
    readFormats? raw = some formats ↔ Lists raw formats := by
  rw [readFormats?_eq_some_iff]
  constructor
  · rintro ⟨some, rfl⟩
    obtain ⟨plain, itemized⟩ := itemizes_items fun piece => not_mem_of_mem_splitOn (s := raw.toList)
    exact ⟨some, plain, _, itemized, (List.intercalate_splitOn ',').symm⟩
  · rintro ⟨some, plain, pieces, itemized, joined⟩
    have pieces_some : pieces ≠ [] := by
      rintro rfl
      cases itemized
      exact some rfl
    rw [joined, List.splitOn_intercalate ',' (itemized.not_mem plain) pieces_some,
      itemized.items_eq plain]
    exact ⟨some, rfl⟩

theorem itemizes_formats (formats : List String) :
    Itemizes (formats.map String.toList) formats := by
  induction formats with
  | nil => exact .nil
  | cons format formats ih =>
    have blank : Blank [] := by simp [Blank]
    have itemized : Itemizes (([] ++ (format.toList ++ [])) :: formats.map String.toList) _ :=
      .format blank blank ih
    simpa using itemized

theorem Lists.of_joined {raw : String} {formats : List String} (lists : Lists raw formats) :
    Lists (",".intercalate formats) formats :=
  ⟨lists.some, lists.plain, _, itemizes_formats formats, by simp⟩

theorem items_eq_nil_iff {pieces : List (List Char)} :
    items pieces = [] ↔ ∀ piece ∈ pieces, Blank piece := by
  simp [items, trim_eq_nil_iff]

theorem readFormats?_eq_none_iff {raw : String} :
    readFormats? raw = none ↔ ∀ piece ∈ raw.toList.splitOn ',', Blank piece := by
  rw [readFormats?_eq, ite_eq_left_iff, ← items_eq_nil_iff]
  simp

/-- Without a format in it a text has commas and blanks alone. -/
theorem forall_blank_splitOn_iff (sep : Char) (s : List Char) :
    (∀ piece ∈ s.splitOn sep, Blank piece) ↔ ∀ c ∈ s, c = sep ∨ isBlank c = true := by
  constructor
  · intro blank c member
    by_cases here : c = sep
    · exact .inl here
    · obtain ⟨piece, part, inside⟩ := (exists_mem_splitOn s).mpr ⟨member, here⟩
      exact .inr (blank piece part c inside)
  · intro only piece part c inside
    obtain ⟨member, apart⟩ := (exists_mem_splitOn s).mp ⟨piece, part, inside⟩
    exact (only c member).resolve_left apart

/-- A text is read as the formats that it lists, when there are any: each is not empty, has no
comma and no blanks at its ends, and the text joins them with commas, blanks around them and blank
pieces between them. The formats that are read give themselves again when they are joined with
commas, and a text gives none when it has commas and blanks alone. -/
theorem readFormats?_inverts :
    (∀ raw formats, readFormats? raw = some formats ↔ Lists raw formats) ∧
    (∀ raw formats, readFormats? raw = some formats →
      readFormats? (",".intercalate formats) = some formats) ∧
    ∀ raw, readFormats? raw = none ↔ ∀ c ∈ raw.toList, c = ',' ∨ isBlank c = true := by
  refine ⟨fun raw formats => readFormats?_eq_some_iff_lists, fun raw formats read => ?_,
    fun raw => ?_⟩
  · exact readFormats?_eq_some_iff_lists.mpr (readFormats?_eq_some_iff_lists.mp read).of_joined
  · rw [readFormats?_eq_none_iff, forall_blank_splitOn_iff]

/-- Blanks of several kinds and blank pieces at the start, between the formats and at the end; a
blank inside a format stays. -/
theorem readFormats?_inverts_blanks :
    let raw := " ,\t%d %m ,\u3000,%Y%m%d\u00a0,"
    let formats := ["%d %m", "%Y%m%d"]
    readFormats? raw = some formats ∧ readFormats? (",".intercalate formats) = some formats := by
  intro raw formats
  have read : readFormats? raw = some formats := by decide
  exact ⟨read, readFormats?_inverts.2.1 raw formats read⟩

end Settings

end RecordFilter
