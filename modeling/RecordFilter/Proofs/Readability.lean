import RecordFilter.Proofs.Marks
import RecordFilter.Proofs.Terms

/-!
What the text of an expression tells. A text that ends in an expression's text does so in one
way, so the text has one reading, whatever stands in the strings. From the left this fails: only
quotes are escaped, and where a string ends in a backslash its closing quote looks escaped, so
one expression's text may begin another's. From the right a string's text starts at the first
quote that no backslash precedes, since its opening quote follows a space.
-/
namespace RecordFilter

open Text

section Cutting

variable {c : Char} {u v s t : List Char}

theorem cut_first (absent : c ∉ u) (absent' : c ∉ v) (same : u ++ c :: s = v ++ c :: t) :
    u = v ∧ s = t := by
  induction u generalizing v with
  | nil =>
    cases v with
    | nil => exact ⟨rfl, (List.cons.inj same).2⟩
    | cons d v =>
      cases same
      exact absurd List.mem_cons_self absent'
  | cons d u ih =>
    cases v with
    | nil =>
      cases same
      exact absurd List.mem_cons_self absent
    | cons d' v =>
      simp only [List.cons_append, List.cons.injEq] at same
      obtain ⟨before, after⟩ := ih (List.not_mem_of_not_mem_cons absent)
        (List.not_mem_of_not_mem_cons absent') same.2
      exact ⟨by rw [same.1, before], after⟩

theorem cut_last (absent : c ∉ s) (absent' : c ∉ t) (same : u ++ c :: s = v ++ c :: t) :
    u = v ∧ s = t := by
  have reversed : s.reverse ++ c :: u.reverse = t.reverse ++ c :: v.reverse := by
    simpa using congrArg List.reverse same
  obtain ⟨after, before⟩ := cut_first (by simpa using absent) (by simpa using absent') reversed
  exact ⟨List.reverse_inj.mp before, List.reverse_inj.mp after⟩

theorem last_unmarked (unmarked : Unmarked s) (same : u ++ ' ' :: s = v ++ [c]) :
    isMark c = false := by
  rcases List.eq_nil_or_concat s with rfl | ⟨front, last, rfl⟩
  · obtain ⟨_, last⟩ := List.append_inj' same rfl
    cases last
    decide
  · have same : (u ++ ' ' :: front) ++ [last] = v ++ [c] := by simpa using same
    obtain ⟨_, eq⟩ := List.append_inj' same rfl
    cases eq
    exact unmarked c (by simp)

end Cutting

namespace Value

theorem escapeQuotes_quote (s : List Char) :
    escapeQuotes ('"' :: s) = '\\' :: '"' :: escapeQuotes s := rfl

theorem escapeQuotes_other {c : Char} (other : c ≠ '"') (s : List Char) :
    escapeQuotes (c :: s) = c :: escapeQuotes s := by
  simp [escapeQuotes, other]

theorem quote_escaped {s x y : List Char} (at_quote : escapeQuotes s = x ++ '"' :: y) :
    ∃ z, x = z ++ ['\\'] := by
  induction s generalizing x with
  | nil => cases x <;> cases at_quote
  | cons c s ih =>
    by_cases quote : c = '"'
    · rw [quote, escapeQuotes_quote] at at_quote
      match x with
      | [] => cases at_quote
      | [d] =>
        cases at_quote
        exact ⟨[], rfl⟩
      | d :: d' :: x =>
        simp only [List.cons_append, List.cons.injEq] at at_quote
        obtain ⟨z, rfl⟩ := ih at_quote.2.2
        exact ⟨d :: d' :: z, rfl⟩
    · rw [escapeQuotes_other quote] at at_quote
      cases x with
      | nil => exact absurd (List.cons.inj at_quote).1 quote
      | cons d x =>
        simp only [List.cons_append, List.cons.injEq] at at_quote
        obtain ⟨z, rfl⟩ := ih at_quote.2
        exact ⟨d :: z, rfl⟩

theorem opening_last {a s t : List Char}
    (same : ' ' :: '"' :: escapeQuotes s = a ++ ' ' :: '"' :: escapeQuotes t) : a = [] := by
  match a with
  | [] => rfl
  | [c] => cases (List.cons.inj (List.cons.inj same).2).1
  | c :: d :: a =>
    have inside : escapeQuotes s = (a ++ [' ']) ++ '"' :: escapeQuotes t := by
      simpa using (List.cons.inj (List.cons.inj same).2).2
    obtain ⟨z, eq⟩ := quote_escaped inside
    cases (List.append_inj' eq rfl).2

theorem cut_opening {u v s t : List Char}
    (same : u ++ ' ' :: '"' :: escapeQuotes s = v ++ ' ' :: '"' :: escapeQuotes t) :
    u = v ∧ escapeQuotes s = escapeQuotes t := by
  rcases List.append_eq_append_iff.mp same with ⟨a, rfl, rest⟩ | ⟨a, rfl, rest⟩
  · cases opening_last rest
    simpa using rest
  · cases opening_last rest
    simpa using rest.symm

end Value

theorem Value.render_cases (v : Value) :
    Unmarked v.render ∨ ∃ s, v.render = '"' :: Value.escapeQuotes s ++ ['"'] := by
  cases v with
  | string s => exact .inr ⟨s.toList, rfl⟩
  | _ => exact .inl (unmarked_render _ (by simp))

/-- A name that cannot be taken for more than a name. Quotes and the closing parenthesis in it
do no harm. -/
def PlainName (name : String) : Prop := ' ' ∉ name.toList ∧ '(' ∉ name.toList

instance (name : String) : Decidable (PlainName name) := inferInstanceAs (Decidable (_ ∧ _))

namespace Term

variable {t t' : Term} {u u' : List Char}

def subject (t : Term) : List Char :=
  'p' :: '.' :: t.column.toList ++ ' ' :: t.op.symbol.toList

theorem render_expr (t : Term) :
    t.expr.render = '(' :: (t.subject ++ ' ' :: t.constant.render) ++ [')'] := by
  simp [expr, Expr.render, Expr.joined, subject]

theorem symbol_plain : ∀ op : Operator, ' ' ∉ op.symbol.toList ∧ '(' ∉ op.symbol.toList := by
  intro op
  cases op <;> decide

theorem symbol_injective {op op' : Operator} (same : op.symbol.toList = op'.symbol.toList) :
    op = op' := by
  cases op <;> cases op' <;> first | rfl | exact absurd same (by decide)

theorem subject_plain (plain : PlainName t.column) : '(' ∉ t.subject := by
  have symbol := (symbol_plain t.op).2
  simp [subject, plain.2, symbol]

theorem body_plain (plain : PlainName t.column) {s : List Char} (unmarked : Unmarked s) :
    '(' ∉ t.subject ++ ' ' :: s := by
  have absent : '(' ∉ s := fun member => absurd (unmarked _ member) (by decide)
  simp [subject_plain plain, absent]

theorem cut_subject (plain : PlainName t.column) (plain' : PlainName t'.column) {s s' : List Char}
    (same : t.subject ++ ' ' :: s = t'.subject ++ ' ' :: s') :
    t.column = t'.column ∧ t.op = t'.op ∧ s = s' := by
  have same : t.column.toList ++ ' ' :: (t.op.symbol.toList ++ ' ' :: s) =
      t'.column.toList ++ ' ' :: (t'.op.symbol.toList ++ ' ' :: s') := by
    simpa [subject] using same
  obtain ⟨column, same⟩ := cut_first plain.1 plain'.1 same
  obtain ⟨symbol, rest⟩ := cut_first (symbol_plain _).1 (symbol_plain _).1 same
  exact ⟨String.toList_inj.mp column, symbol_injective symbol, rest⟩

theorem body_end {c : Char} {v : List Char} (unmarked : Unmarked t.constant.render)
    (same : u ++ '(' :: (t.subject ++ ' ' :: t.constant.render) = v ++ [c]) : isMark c = false := by
  have ends : (u ++ '(' :: t.subject) ++ ' ' :: t.constant.render = v ++ [c] := by simpa using same
  exact last_unmarked unmarked ends

theorem body_quoted {s : List Char}
    (string : t.constant.render = '"' :: Value.escapeQuotes s ++ ['"']) :
    u ++ '(' :: (t.subject ++ ' ' :: t.constant.render) =
      ((u ++ '(' :: t.subject) ++ ' ' :: '"' :: Value.escapeQuotes s) ++ ['"'] := by
  simp [string]

theorem cut_body (plain : PlainName t.column) (plain' : PlainName t'.column)
    (same : u ++ '(' :: (t.subject ++ ' ' :: t.constant.render) =
      u' ++ '(' :: (t'.subject ++ ' ' :: t'.constant.render)) :
    u = u' ∧ t.subject ++ ' ' :: t.constant.render = t'.subject ++ ' ' :: t'.constant.render := by
  rcases t.constant.render_cases with unmarked | ⟨s, string⟩ <;>
    rcases t'.constant.render_cases with unmarked' | ⟨s', string'⟩
  · exact cut_last (body_plain plain unmarked) (body_plain plain' unmarked') same
  · rw [body_quoted string'] at same
    cases body_end unmarked same
  · rw [body_quoted string] at same
    cases body_end unmarked' same.symm
  · rw [body_quoted string, body_quoted string'] at same
    obtain ⟨before, inside⟩ := Value.cut_opening (List.append_cancel_right same)
    obtain ⟨outside, subject⟩ := cut_last (subject_plain plain) (subject_plain plain') before
    exact ⟨outside, by rw [subject, string, string', inside]⟩

end Term

namespace Expr

/-- Trees of one shape with the same connectors, whose terms differ at most in constants that
have the same text. -/
inductive Alike : Expr → Expr → Prop where
  | term {t t' : Term} (column : t.column = t'.column) (op : t.op = t'.op)
      (text : t.constant.render = t'.constant.render) : Alike t.expr t'.expr
  | join {l l' r r' : Expr} (c : Connector) (left : Alike l l') (right : Alike r r') :
      Alike (l.combine c r) (l'.combine c r')

theorem render_combine (l r : Expr) (c : Connector) : (l.combine c r).render =
    ('(' :: l.render ++ ' ' :: c.keyword.toList ++ ' ' :: r.render) ++ [')'] := by
  cases c <;> simp [combine, render, joined]

theorem Alike.render_eq {e e' : Expr} (alike : e.Alike e') : e.render = e'.render := by
  induction alike with
  | @term t t' column op text => simp only [Term.render_expr, Term.subject, column, op, text]
  | join c _ _ left right => simp only [render_combine, left, right]

theorem render_closed (e : Expr) : ∃ s, e.render = s ++ [')'] := by
  induction e using byTerms with
  | term t => exact ⟨_, t.render_expr⟩
  | join l c r _ _ => exact ⟨_, render_combine l r c⟩

/-- Before the last parenthesis a term has its constant and a join has a parenthesis. -/
theorem term_ne_join {t : Term} {l r : Expr} {c : Connector} {u u' : List Char} :
    u ++ t.expr.render ≠ u' ++ (l.combine c r).render := by
  intro same
  obtain ⟨s, closed⟩ := r.render_closed
  rw [Term.render_expr, render_combine, closed, ← List.append_assoc, ← List.append_assoc] at same
  have inner : u ++ '(' :: (t.subject ++ ' ' :: t.constant.render) =
      (u' ++ '(' :: (l.render ++ ' ' :: c.keyword.toList ++ ' ' :: s)) ++ [')'] := by
    simpa using List.append_cancel_right same
  rcases t.constant.render_cases with unmarked | ⟨_, string⟩
  · cases Term.body_end unmarked inner
  · rw [Term.body_quoted string] at inner
    cases (List.append_inj' inner rfl).2

theorem keyword_cut {c c' : Connector} {s s' : List Char}
    (same : s ++ (' ' :: c.keyword.toList ++ [' ']) = s' ++ (' ' :: c'.keyword.toList ++ [' '])) :
    c = c' ∧ s = s' := by
  have reversed := congrArg List.reverse same
  cases c <;> cases c'
  · exact ⟨rfl, List.append_cancel_right same⟩
  · simp [Connector.keyword] at reversed
  · simp [Connector.keyword] at reversed
  · exact ⟨rfl, List.append_cancel_right same⟩

theorem render_suffix {e e' : Expr} (plain : ∀ name ∈ e.columns, PlainName name)
    (plain' : ∀ name ∈ e'.columns, PlainName name) {u u' : List Char}
    (same : u ++ e.render = u' ++ e'.render) : u = u' ∧ e.Alike e' := by
  induction e using byTerms generalizing e' u u' with
  | term t =>
    cases e' using byTerms with
    | term t' =>
      have name : PlainName t.column := plain _ List.mem_cons_self
      have name' : PlainName t'.column := plain' _ List.mem_cons_self
      rw [Term.render_expr, Term.render_expr, ← List.append_assoc, ← List.append_assoc] at same
      obtain ⟨before, body⟩ := Term.cut_body name name' (List.append_cancel_right same)
      obtain ⟨column, op, text⟩ := Term.cut_subject name name' body
      exact ⟨before, .term column op text⟩
    | join l' c' r' => exact absurd same term_ne_join
  | join l c r left right =>
    cases e' using byTerms with
    | term t' => exact absurd same.symm term_ne_join
    | join l' c' r' =>
      simp only [columns_combine, List.forall_mem_append] at plain plain'
      rw [render_combine, render_combine] at same
      -- The right operand is read first; what stands before it ends in the connector.
      have closed :
          ((u ++ '(' :: l.render ++ (' ' :: c.keyword.toList ++ [' '])) ++ r.render) ++ [')'] =
          ((u' ++ '(' :: l'.render ++ (' ' :: c'.keyword.toList ++ [' '])) ++ r'.render) ++ [')'] :=
        by simpa using same
      obtain ⟨front, rights⟩ := right plain.2 plain'.2 (List.append_cancel_right closed)
      obtain ⟨rfl, outer⟩ := keyword_cut front
      have opened : (u ++ ['(']) ++ l.render = (u' ++ ['(']) ++ l'.render := by simpa using outer
      obtain ⟨before, lefts⟩ := left plain.1 plain'.1 opened
      exact ⟨List.append_cancel_right before, .join c lefts rights⟩

/-- The text of an expression tells its shape, connectors, columns and operators and the text of
every constant; a constant's text cannot pass for anything else. -/
theorem render_eq_iff_alike (e e' : Expr) (plain : ∀ name ∈ e.columns, PlainName name)
    (plain' : ∀ name ∈ e'.columns, PlainName name) : e.render = e'.render ↔ e.Alike e' := by
  constructor
  · intro same
    have bare : [] ++ e.render = [] ++ e'.render := same
    exact (render_suffix plain plain' bare).2
  · exact Alike.render_eq

theorem render_eq_iff_alike_backslash :
    let e := (comparison "a" .equal (.string "x\\")).and (.comparison "b" .notEqual (.int 5))
    let e' := (comparison "a" .equal (.string "x\\")).and (.comparison "b" .notEqual (.long 5))
    (∀ name ∈ e.columns, PlainName name) ∧ (∀ name ∈ e'.columns, PlainName name) ∧
      e ≠ e' ∧ e.render = e'.render ∧ e.Alike e' := by
  intro e e'
  have plain : ∀ name ∈ e.columns, PlainName name := by decide
  have plain' : ∀ name ∈ e'.columns, PlainName name := by decide
  have same : e.render = e'.render := by decide
  exact ⟨plain, plain', by decide, same, (render_eq_iff_alike e e' plain plain').mp same⟩

example : (comparison "a" .equal (.string "x\\")).render <+:
    (comparison "a" .equal (.string "x\") AndAlso (p.b == ")).render := by decide

end Expr

end RecordFilter
