import RecordFilter.Record

/-!
What the name of a column stands for, said of the schema as a list. An exact name resolves to
the first entry that has it; any other name resolves, where case does not count, to the first
entry that differs from it in case alone.
-/
namespace RecordFilter

namespace Schema

/-- The first entry that meets a test. -/
def First (schema : Schema) (test : Field → Prop) (field : Field) : Prop :=
  test field ∧ ∃ before after, schema = before ++ field :: after ∧ ∀ other ∈ before, ¬ test other

inductive Resolves (schema : Schema) (caseSensitive : Bool) (name : String) : Field → Prop where
  | exact {field : Field} (first : schema.First (fun f => f.name = name) field) :
      Resolves schema caseSensitive name field
  | folded {field : Field} (insensitive : caseSensitive = false)
      (absent : ∀ other ∈ schema, other.name ≠ name)
      (first : schema.First (fun f => Text.sameLetters f.name.toList name.toList = true) field) :
      Resolves schema caseSensitive name field

variable {schema : Schema} {test : Field → Prop} {field : Field}

theorem First.mem (first : schema.First test field) : field ∈ schema := by
  obtain ⟨_, before, after, rfl, _⟩ := first
  simp

theorem first_cons (head : Field) : First (head :: schema) test field ↔
    (test head ∧ head = field) ∨ (¬ test head ∧ schema.First test field) := by
  constructor
  · rintro ⟨meets, before, after, eq, earlier⟩
    cases before with
    | nil =>
      cases eq
      exact .inl ⟨meets, rfl⟩
    | cons other before =>
      cases eq
      exact .inr ⟨earlier _ List.mem_cons_self, meets, before, after, rfl,
        fun f member => earlier f (List.mem_cons_of_mem _ member)⟩
  · rintro (⟨meets, rfl⟩ | ⟨fails, meets, before, after, rfl, earlier⟩)
    · exact ⟨meets, [], schema, rfl, by simp⟩
    · exact ⟨meets, head :: before, after, rfl, by simpa using ⟨fails, earlier⟩⟩

theorem exists_first (test : Field → Prop) (member : field ∈ schema) (meets : test field) :
    ∃ other, schema.First test other := by
  induction schema with
  | nil => cases member
  | cons head rest ih =>
    by_cases here : test head
    · exact ⟨head, (first_cons head).mpr (.inl ⟨here, rfl⟩)⟩
    · rcases List.mem_cons.mp member with rfl | later
      · exact absurd meets here
      · obtain ⟨other, first⟩ := ih later
        exact ⟨other, (first_cons head).mpr (.inr ⟨here, first⟩)⟩

theorem find?_eq_some_iff_first (p : Field → Bool) :
    schema.find? p = some field ↔ schema.First (fun f => p f = true) field := by
  simp only [List.find?_eq_some_iff_append, First, Bool.not_eq_true, Bool.not_eq_eq_eq_not,
    Bool.not_true]

theorem find?_name_eq_some_iff (name : String) :
    schema.find? (fun f => f.name == name) = some field ↔
      schema.First (fun f => f.name = name) field := by
  simp only [find?_eq_some_iff_first, beq_iff_eq]

theorem field?_eq_some_iff (caseSensitive : Bool) (name : String) :
    schema.field? caseSensitive name = some field ↔
      schema.Resolves caseSensitive name field := by
  unfold field?
  constructor
  · intro found
    split at found
    · rename_i f exactHit
      cases found
      exact .exact ((find?_name_eq_some_iff name).mp exactHit)
    · rename_i missed
      split at found
      · cases found
      · rename_i insensitive
        refine .folded (by simpa using insensitive) ?_ ((find?_eq_some_iff_first _).mp found)
        simpa using List.find?_eq_none.mp missed
  · intro resolved
    cases resolved with
    | exact first => rw [(find?_name_eq_some_iff name).mpr first]
    | folded insensitive absent first =>
      have missed : schema.find? (fun g => g.name == name) = none :=
        List.find?_eq_none.mpr (by simpa using absent)
      rw [missed, insensitive]
      exact (find?_eq_some_iff_first _).mpr first

theorem field?_eq_none_iff (caseSensitive : Bool) (name : String) :
    schema.field? caseSensitive name = none ↔
      ∀ field, ¬ schema.Resolves caseSensitive name field := by
  simp only [← field?_eq_some_iff, Option.eq_none_iff_forall_ne_some, ne_eq]

theorem Resolves.unique {caseSensitive : Bool} {name : String} {other : Field}
    (resolved : schema.Resolves caseSensitive name field)
    (resolved' : schema.Resolves caseSensitive name other) : field = other := by
  rw [← field?_eq_some_iff] at resolved resolved'
  exact Option.some.inj (resolved.symm.trans resolved')

theorem Resolves.mem {caseSensitive : Bool} {name : String}
    (resolved : schema.Resolves caseSensitive name field) : field ∈ schema := by
  cases resolved with
  | exact first => exact first.mem
  | folded _ _ first => exact first.mem

/-- The entry found is the first of its own name, also where it was found without regard to
case: an entry of that name before it would have been found instead. -/
theorem Resolves.first_named {caseSensitive : Bool} {name : String}
    (resolved : schema.Resolves caseSensitive name field) :
    schema.First (fun f => f.name = field.name) field := by
  cases resolved with
  | exact first =>
    have named : field.name = name := first.1
    rwa [named]
  | folded _ _ first =>
    obtain ⟨same, before, after, eq, earlier⟩ := first
    refine ⟨rfl, before, after, eq, ?_⟩
    intro other member named
    have folds : Text.sameLetters other.name.toList name.toList = true := named ▸ same
    exact earlier other member folds

end Schema

end RecordFilter
