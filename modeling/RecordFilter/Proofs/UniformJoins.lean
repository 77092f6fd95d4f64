import RecordFilter.Proofs.Running

/-!
Requests with one connector. Joined by `and` throughout, the terms that were built have to hold
all together, and joined by `or` throughout, one of them has to hold. Neither the order of the
parameters matters then nor how often each is repeated, though another parameter may come first
and start the expression, and a failing request may fail for another reason.
-/
namespace RecordFilter

/-- All elements have the property for `and`, some element for `or`. -/
def Connector.Over {α : Type} (c : Connector) (xs : List α) (property : α → Prop) : Prop :=
  match c with
  | .and => ∀ x ∈ xs, property x
  | .or => ∃ x ∈ xs, property x

namespace Connector

variable {α β : Type} {c : Connector}

theorem over_congr {xs ys : List α} {property : α → Prop} (same : ∀ x, x ∈ xs ↔ x ∈ ys) :
    c.Over xs property ↔ c.Over ys property := by
  cases c
  · exact forall_congr' fun x => imp_congr_left (same x)
  · exact exists_congr fun x => and_congr_left fun _ => same x

theorem over_cons {x : α} {xs : List α} {property : α → Prop} : c.Over (x :: xs) property ↔
    match c with
    | .and => property x ∧ c.Over xs property
    | .or => property x ∨ c.Over xs property := by
  cases c <;> simp [Over]

theorem over_map (f : α → β) (xs : List α) (property : β → Prop) :
    c.Over (xs.map f) property ↔ c.Over xs fun x => property (f x) := by
  cases c <;> simp [Over]

theorem over_forall₂ {related : α → β → Prop} {xs : List α} {ys : List β} {property : α → Prop}
    {property' : β → Prop} (all : List.Forall₂ related xs ys)
    (agree : ∀ x y, related x y → (property x ↔ property' y)) :
    c.Over xs property ↔ c.Over ys property' := by
  induction all with
  | nil => cases c <;> simp [Over]
  | cons head _ ih => cases c <;> simp only [over_cons, ih, agree _ _ head]

/-- What two answers come to may stand for both in a list of answers. -/
theorem over_join (a b : Bool) (answers : List Bool) :
    c.Over (c.join a b :: answers) (· = true) ↔ c.Over (a :: b :: answers) (· = true) := by
  cases c
  · simp only [over_cons, join, Bool.and_eq_true, and_assoc]
  · simp only [over_cons, join, Bool.or_eq_true, or_assoc]

end Connector

/-- The verdict so far counts as one answer more. -/
theorem Expr.verdict_uniform {c : Connector} (record : Record)
    (joints : List (Connector × Term)) (uniform : ∀ joint ∈ joints, joint.1 = c) (acc : Bool) :
    verdict record acc joints = true ↔
      c.Over (acc :: (joints.map Prod.snd).map (Term.holds record)) (· = true) := by
  induction joints generalizing acc with
  | nil => cases c <;> simp [verdict, Connector.Over]
  | cons joint rest ih =>
    obtain ⟨own, later⟩ := List.forall_mem_cons.mp uniform
    rw [verdict, own, ih later, List.map_cons, List.map_cons]
    exact Connector.over_join _ _ _

variable {schema : Schema} {settings : Settings} {c : Connector}

/-- The parameter stands for a term that holds on the record. -/
def Parameter.Holds (schema : Schema) (settings : Settings) (record : Record) (p : Parameter) :
    Prop :=
  ∃ t, p.Compiles schema settings t ∧ t.holds record = true

theorem Parameter.Compiles.holds_iff {p : Parameter} {t : Term} {record : Record}
    (compiles : p.Compiles schema settings t) :
    p.Holds schema settings record ↔ t.holds record = true := by
  constructor
  · rintro ⟨u, compiles', holds⟩
    rwa [compiles.unique compiles']
  · intro holds
    exact ⟨t, compiles, holds⟩

theorem Request.mem_active_congr {request request' : Request}
    (same : ∀ p, p ∈ request' ↔ p ∈ request) (p : Parameter) :
    p ∈ request'.active ↔ p ∈ request.active := by
  simp only [active, List.mem_filter, same]

namespace Predicate

theorem accepts_of_uniform {request : Request} {predicate : Predicate}
    (uniform : ∀ p ∈ request.active, p.connector = c)
    (built : build schema settings request = .ok predicate) (record : Record) :
    predicate.accepts record = true ↔
      c.Over request.active (Parameter.Holds schema settings record) := by
  obtain ⟨t, terms, all, verdict, _⟩ := run_of_build built record
  have later : ∀ joint ∈ (request.active.tail.map Parameter.connector).zip terms,
      joint.1 = c := by
    intro joint member
    obtain ⟨p, listed, eq⟩ := List.mem_map.mp (List.of_mem_zip member).1
    exact eq ▸ uniform p (List.mem_of_mem_tail listed)
  have length : terms.length ≤ (request.active.tail.map Parameter.connector).length := by
    simp [all.length_eq]
  calc predicate.accepts record = true
      ↔ c.Over (t.holds record :: terms.map (Term.holds record)) (· = true) := by
        rw [verdict, Expr.verdict_uniform record _ later, List.map_snd_zip length]
    _ ↔ c.Over (t :: terms) fun u => u.holds record = true :=
        Connector.over_map (Term.holds record) (t :: terms) (· = true)
    _ ↔ c.Over request.active (Parameter.Holds schema settings record) :=
        (Connector.over_forall₂ all fun _ _ compiles => compiles.holds_iff).symm

theorem exists_build_congr {request request' : Request}
    (same : ∀ p, p ∈ request'.active ↔ p ∈ request.active) :
    (∃ predicate, build schema settings request' = .ok predicate) ↔
      ∃ predicate, build schema settings request = .ok predicate := by
  have empty : request'.active = [] ↔ request.active = [] := by
    simp only [List.eq_nil_iff_forall_not_mem, same]
  simp only [exists_build_iff, ne_eq, empty, same]

/-- A request with one connector builds or fails with every request of the same parameters, in
whatever order and however often each occurs there, and both match the records on which all the
active terms hold, or one of them. -/
theorem build_uniform {request request' : Request}
    (uniform : ∀ p ∈ request.active, p.connector = c)
    (same : ∀ p, p ∈ request' ↔ p ∈ request) (schema : Schema) (settings : Settings) :
    ((∃ predicate, build schema settings request' = .ok predicate) ↔
      ∃ predicate, build schema settings request = .ok predicate) ∧
    ∀ predicate predicate', build schema settings request = .ok predicate →
      build schema settings request' = .ok predicate' → ∀ record : Record,
        predicate'.accepts record = predicate.accepts record ∧
        (predicate.accepts record = true ↔
          c.Over request.active (Parameter.Holds schema settings record)) := by
  have active := Request.mem_active_congr same
  refine ⟨exists_build_congr active, ?_⟩
  intro predicate predicate' built built' record
  have uniform' : ∀ p ∈ request'.active, p.connector = c := by
    intro p member
    exact uniform p ((active p).mp member)
  have accepted := accepts_of_uniform uniform built record
  have accepted' := accepts_of_uniform uniform' built' record
  rw [Connector.over_congr active] at accepted'
  exact ⟨Bool.eq_iff_iff.mpr (accepted'.trans accepted.symm), accepted⟩

/-- The same three parameters in another order, one of them twice, and an inactive parameter with
the other connector. -/
theorem build_uniform_reordered :
    let schema : Schema := [⟨"a", .int⟩, ⟨"b", .bool⟩, ⟨"c", .string⟩]
    let request : Request := [⟨"A", "2", .equal, .or⟩, ⟨"b", "", .equal, .and⟩,
      ⟨"B", "true", .equal, .or⟩, ⟨"C", "x", .notEqual, .or⟩]
    let request' : Request := [⟨"C", "x", .notEqual, .or⟩, ⟨"B", "true", .equal, .or⟩,
      ⟨"A", "2", .equal, .or⟩, ⟨"b", "", .equal, .and⟩, ⟨"C", "x", .notEqual, .or⟩]
    let a : Expr := .comparison "a" .equal (.int 2)
    let b : Expr := .comparison "b" .equal (.bool true)
    let c : Expr := .comparison "c" .notEqual (.string "x")
    let record : Record := fun name => if name = "b" then some (.bool true) else none
    (∀ p ∈ request.active, p.connector = .or) ∧ (∀ p, p ∈ request' ↔ p ∈ request) ∧
      build schema {} request = .ok ⟨(a.or b).or c⟩ ∧
      build schema {} request' = .ok ⟨((c.or b).or a).or c⟩ ∧
      Predicate.accepts ⟨((c.or b).or a).or c⟩ record = true ∧
      ∃ p ∈ request.active, p.Holds schema {} record := by
  intro schema request request' a b c record
  have uniform : ∀ p ∈ request.active, p.connector = .or := by decide
  have same : ∀ p, p ∈ request' ↔ p ∈ request := by
    intro p
    simp only [request, request', List.mem_cons, List.not_mem_nil]
    grind
  have built : build schema {} request = .ok ⟨(a.or b).or c⟩ := by decide
  have built' : build schema {} request' = .ok ⟨((c.or b).or a).or c⟩ := by decide
  have accepted : Predicate.accepts ⟨(a.or b).or c⟩ record = true := rfl
  have outcome := (build_uniform uniform same schema {}).2 _ _ built built' record
  exact ⟨uniform, same, built, built', outcome.1.trans accepted, outcome.2.mp accepted⟩

end Predicate

end RecordFilter
