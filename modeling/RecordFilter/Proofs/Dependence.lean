import RecordFilter.Proofs.Running

/-!
What an evaluation depends on. Which names are read depends on the values that were read before,
so the verdict and the names are followed together: two records that agree on the names one of
them is asked for are asked for the same names in the same order, and get the same verdict.
-/
namespace RecordFilter

variable {record other : Record}

theorem Term.holds_congr (t : Term) (agree : other t.column = record t.column) :
    t.holds other = t.holds record := by
  rw [holds_eq_judge, holds_eq_judge, agree]

theorem Connector.asks_iff (c : Connector) (left : Bool) :
    c.asks left = true ↔ (c = .and ∧ left = true) ∨ (c = .or ∧ left = false) := by
  cases c <;> cases left <;> decide

namespace Expr

/-- The names of the right side count only where it is asked, which the left side decides alike
on both records. -/
theorem congr_of_reads (e : Expr) (agree : ∀ name ∈ e.reads record, other name = record name) :
    e.evaluate other = e.evaluate record ∧ e.reads other = e.reads record := by
  induction e using byTerms with
  | term t => exact ⟨t.holds_congr (agree t.column (by simp)), rfl⟩
  | join l c r left right =>
    rw [reads_combine] at agree
    obtain ⟨verdict, names⟩ :=
      left fun name member => agree name (List.mem_append_left _ member)
    simp only [evaluate_combine, reads_combine, join_eq_ite, verdict, names]
    cases asks : c.asks (l.evaluate record) with
    | false => exact ⟨rfl, rfl⟩
    | true =>
      obtain ⟨verdict', names'⟩ := right fun name member => agree name (by simp [asks, member])
      simp only [if_true, verdict', names', and_self]

theorem reads_sublist_columns (e : Expr) (record : Record) :
    (e.reads record).Sublist e.columns := by
  induction e using byTerms with
  | term t => exact .refl _
  | join l c r left right =>
    rw [reads_combine, columns_combine]
    apply left.append
    split
    · exact right
    · exact List.nil_sublist _

theorem reads_first (e : Expr) (record : Record) :
    ∃ first names columns, e.reads record = first :: names ∧ e.columns = first :: columns := by
  induction e using byTerms with
  | term t => exact ⟨t.column, [], [], rfl, rfl⟩
  | join l c r left _ =>
    obtain ⟨first, names, columns, read, listed⟩ := left
    rw [reads_combine, columns_combine, read, listed]
    exact ⟨first, _, _, rfl, rfl⟩

theorem columns_length (e : Expr) : e.columns.length = e.termCount := by
  rw [columns_eq_leaves, termCount_eq_leaves, List.length_map]

/-- As the right side reads at least one name, the names tell whether it was asked. -/
theorem reads_combine_eq_append_iff (l r : Expr) (c : Connector) (record : Record) :
    (l.combine c r).reads record = l.reads record ++ r.reads record ↔
      c.asks (l.evaluate record) = true := by
  rw [reads_combine]
  cases c.asks (l.evaluate record) with
  | true => simp
  | false =>
    obtain ⟨first, names, _, read, _⟩ := r.reads_first record
    simp [read]

/-- An evaluation that notes what it reads has the verdict and the names of the plain one. They
are those of every record that agrees on these names; the names are some of the columns in their
order, the first of them always; and a join reads what its left side reads and, where that leaves
the result open, what its right side reads. -/
theorem reads_determine (e : Expr) (record : Record) :
    (e.run (Term.ask record)).run [] = (e.evaluate record, e.reads record) ∧
    (∀ other : Record, (∀ name ∈ e.reads record, other name = record name) →
      e.evaluate other = e.evaluate record ∧ e.reads other = e.reads record) ∧
    (e.reads record).Sublist e.columns ∧
    (∃ first names columns, e.reads record = first :: names ∧ e.columns = first :: columns) ∧
    e.columns.length = e.termCount ∧
    ∀ (c : Connector) (r : Expr),
      ((e.combine c r).reads record = e.reads record ∨
        (e.combine c r).reads record = e.reads record ++ r.reads record) ∧
      ((e.combine c r).reads record = e.reads record ++ r.reads record ↔
        (c = .and ∧ e.evaluate record = true) ∨ (c = .or ∧ e.evaluate record = false)) := by
  refine ⟨e.run_ask record [], fun _ => e.congr_of_reads, e.reads_sublist_columns record,
    e.reads_first record, e.columns_length, fun c r => ⟨?_, ?_⟩⟩
  · rw [reads_combine]
    cases c.asks (e.evaluate record)
    · exact .inl (List.append_nil _)
    · exact .inr rfl
  · rw [reads_combine_eq_append_iff, Connector.asks_iff]

/-- A join on the right of another. The records differ in the one field that is passed over. -/
theorem reads_determine_nested :
    let e : Expr := (Expr.comparison "a" .equal (.int 2)).or
      ((Expr.comparison "b" .notEqual (.bool true)).and (.comparison "c" .equal (.string "x")))
    let record : Record := fun name => if name = "a" then some (.int 1) else some (.bool true)
    let other : Record := fun name => if name = "c" then none else record name
    (∀ name ∈ e.reads record, other name = record name) ∧ record "c" ≠ other "c" ∧
      e.evaluate other = false ∧ e.reads other = ["a", "b"] := by
  intro e record other
  have agree : ∀ name ∈ e.reads record, other name = record name := by
    intro name member
    have read : name ∈ ["a", "b"] := member
    simp only [List.mem_cons, List.not_mem_nil, or_false] at read
    rcases read with rfl | rfl <;> rfl
  obtain ⟨verdict, names⟩ := (reads_determine e record).2.1 other agree
  exact ⟨agree, by decide, verdict, names⟩

end Expr

end RecordFilter
