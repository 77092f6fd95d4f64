import RecordFilter.Proofs.Outcome

/-!
Evaluation as it runs: terms are asked one after the other, and the answers so far decide
whether the next one is asked at all. On the expression that a request is built to, the verdict
on the terms before a term and the term's own connector decide; a term that is passed over does
not keep the later ones from being asked.
-/
namespace RecordFilter

/-- What a term says of a field's value; where there is none it fails. -/
def Term.judge (t : Term) : Option Value → Bool
  | some field => t.op.holds field t.constant
  | none => false

/-- Reads a field and notes its name. -/
def Record.look (record : Record) (name : String) : StateM (List String) (Option Value) := do
  modify (· ++ [name])
  pure (record name)

def Term.ask (record : Record) (t : Term) : StateM (List String) Bool := do
  let field ← Record.look record t.column
  pure (t.judge field)

theorem Term.holds_eq_judge (record : Record) (t : Term) :
    t.holds record = t.judge (record t.column) := by
  simp only [holds, expr, Expr.evaluate]
  cases record t.column <;> rfl

namespace Expr

/-- Evaluation over any way of asking the terms. -/
def run {m : Type → Type} [Monad m] (ask : Term → m Bool) : Expr → m Bool
  | comparison column op constant => ask ⟨column, op, constant⟩
  | and l r => do if ← l.run ask then r.run ask else pure false
  | or l r => do if ← l.run ask then pure true else r.run ask

@[simp] theorem run_expr {m : Type → Type} [Monad m] (ask : Term → m Bool) (t : Term) :
    t.expr.run ask = ask t := rfl

@[simp] theorem run_combine {m : Type → Type} [Monad m] (ask : Term → m Bool) (l r : Expr)
    (c : Connector) : (l.combine c r).run ask =
      l.run ask >>= fun left => if c.asks left then r.run ask else pure left := by
  cases c
  · refine congrArg (l.run ask >>= ·) (funext fun left => ?_)
    cases left <;> rfl
  · refine congrArg (l.run ask >>= ·) (funext fun left => ?_)
    cases left <;> rfl

theorem join_eq_ite (c : Connector) (left right : Bool) :
    c.join left right = if c.asks left then right else left := by
  cases c <;> cases left <;> rfl

theorem run_ask (record : Record) (e : Expr) (log : List String) :
    (e.run (Term.ask record)).run log = (e.evaluate record, log ++ e.reads record) := by
  induction e using byTerms generalizing log with
  | term t =>
    rw [evaluate_expr, Term.holds_eq_judge]
    rfl
  | join l c r left right =>
    rw [run_combine, StateT.run_bind, left, evaluate_combine, reads_combine, join_eq_ite]
    change StateT.run (if c.asks (l.evaluate record) then r.run (Term.ask record)
      else pure (l.evaluate record)) (log ++ l.reads record) = _
    cases asks : c.asks (l.evaluate record)
    · simp only [Bool.false_eq_true, if_false, StateT.run_pure, List.append_nil]
      rfl
    · simp [right]

/-- The verdict on terms that are joined to what has a verdict already. -/
def verdict (record : Record) : Bool → List (Connector × Term) → Bool
  | acc, [] => acc
  | acc, (c, t) :: rest => verdict record (c.join acc (t.holds record)) rest

def asked (record : Record) : Bool → List (Connector × Term) → List Term
  | _, [] => []
  | acc, (c, t) :: rest =>
    (if c.asks acc then [t] else []) ++ asked record (c.join acc (t.holds record)) rest

theorem evaluate_spine (record : Record) (e : Expr) (joints : List (Connector × Term)) :
    (e.spine joints).evaluate record = verdict record (e.evaluate record) joints := by
  induction joints generalizing e with
  | nil => rfl
  | cons joint rest ih => simp [spine, verdict, ih]

theorem reads_spine (record : Record) (e : Expr) (joints : List (Connector × Term)) :
    (e.spine joints).reads record =
      e.reads record ++ (asked record (e.evaluate record) joints).map Term.column := by
  induction joints generalizing e with
  | nil => simp [spine, asked]
  | cons joint rest ih =>
    cases asks : joint.1.asks (e.evaluate record) <;> simp [spine, asked, asks, ih]

end Expr

namespace Predicate

variable {schema : Schema} {settings : Settings} {request : Request} {predicate : Predicate}

/-- The verdict is that of the active terms in order, and the fields read are the first term's
and those of the later terms whose connector the verdict so far leaves open. -/
theorem run_of_build (built : build schema settings request = .ok predicate) (record : Record) :
    ∃ t terms, List.Forall₂ (Parameter.Compiles schema settings) request.active (t :: terms) ∧
      let joints := (request.active.tail.map Parameter.connector).zip terms
      predicate.accepts record = Expr.verdict record (t.holds record) joints ∧
      (predicate.expr.run (Term.ask record)).run [] = (predicate.accepts record,
        t.column :: (Expr.asked record (t.holds record) joints).map Term.column) := by
  obtain ⟨t, terms, all, spine⟩ := (build_eq_ok_iff_spine request predicate).mp built
  refine ⟨t, terms, all, ?_, ?_⟩
  · rw [accepts, ← spine, Expr.evaluate_spine, Expr.evaluate_expr]
  · rw [Expr.run_ask, accepts, ← spine, Expr.reads_spine, Expr.evaluate_expr, Expr.reads_expr]
    rfl

/-- Of three terms the second is passed over and the third is asked. What stands without a value on
a column that does not exist counts for nothing. -/
theorem run_of_build_skipping :
    let schema : Schema := [⟨"a", .int⟩, ⟨"b", .bool⟩, ⟨"c", .string⟩]
    let request : Request := [⟨"A", "2", .equal, .or⟩, ⟨"x", "", .equal, .and⟩,
      ⟨"B", "true", .equal, .and⟩, ⟨"C", "x", .notEqual, .or⟩]
    let predicate : Predicate := ⟨((Expr.comparison "a" .equal (.int 2)).and
      (.comparison "b" .equal (.bool true))).or (.comparison "c" .notEqual (.string "x"))⟩
    let record : Record := fun name => if name = "a" then some (.int 1) else some .null
    build schema {} request = .ok predicate ∧
      (predicate.expr.run (Term.ask record)).run [] = (true, ["a", "c"]) ∧
      ∃ t terms, List.Forall₂ (Parameter.Compiles schema {}) request.active (t :: terms) ∧
        predicate.accepts record = Expr.verdict record (t.holds record)
          ((request.active.tail.map Parameter.connector).zip terms) := by
  intro schema request predicate record
  have built : build schema {} request = .ok predicate := by decide
  obtain ⟨t, terms, all, verdict, _⟩ := run_of_build built record
  exact ⟨built, rfl, t, terms, all, verdict⟩

end Predicate

end RecordFilter
