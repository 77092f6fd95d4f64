import RecordFilter.Proofs.Outcome
import RecordFilter.Request.Encoding

/-!
Elements of a stored request that give no value: the value is missing, null or the empty text.
They are read as inactive parameters and no others are, so they may be taken out of the array,
and one way to give no value may stand for another. The first element with a value starts the
expression, and whichever connector it gives is not looked at.
-/
namespace RecordFilter

/-- Two objects with the same member at every other key. -/
def Json.AgreeBut (key : String) (members members' : List (String × Json)) : Prop :=
  ∀ other, other ≠ key → Json.member? members' other = Json.member? members other

theorem Json.member?_filter {key other : String} (different : other ≠ key)
    (members : List (String × Json)) :
    member? (members.filter fun m => m.1 != key) other = member? members other := by
  simp only [member?]
  induction members with
  | nil => rfl
  | cons m rest ih =>
    by_cases here : m.1 = key
    · have absent : (other == m.1) = false := by simpa [here] using different
      rw [List.filter_cons_of_neg (by simp [here]), ih, List.lookup_cons, absent]
    · rw [List.filter_cons_of_pos (by simp [here]), List.lookup_cons, List.lookup_cons, ih]

/-- So do two objects that are one without the members at the key. -/
theorem Json.agreeBut_of_filter {key : String} {members members' : List (String × Json)}
    (same : (members'.filter fun m => m.1 != key) = members.filter fun m => m.1 != key) :
    AgreeBut key members members' := by
  intro other different
  rw [← member?_filter different members', same, member?_filter different]

namespace Parameter

inductive NoValue : Option Json → Prop where
  | missing : NoValue none
  | null : NoValue (some .null)
  | empty : NoValue (some (.string ""))

/-- An element without a value, written as an object or as a row. -/
inductive Valueless : Json → Prop where
  | object {members : List (String × Json)} (none : NoValue (Json.member? members "value")) :
      Valueless (.object members)
  | short (columnName : Json) : Valueless (.array [columnName])
  | row {columnName value : Json} {rest : List Json} (none : NoValue (some value)) :
      Valueless (.array (columnName :: value :: rest))

/-- The second array comes of the first by taking out elements without a value, and by giving no
value in another way in objects that give none. -/
inductive Thinned : List Json → List Json → Prop where
  | nil : Thinned [] []
  | keep (item : Json) {items items' : List Json} (rest : Thinned items items') :
      Thinned (item :: items) (item :: items')
  | delete {item : Json} {items items' : List Json} (valueless : Valueless item)
      (rest : Thinned items items') : Thinned (item :: items) items'
  | exchange {members members' : List (String × Json)} {items items' : List Json}
      (none : NoValue (Json.member? members "value"))
      (none' : NoValue (Json.member? members' "value"))
      (others : Json.AgreeBut "value" members members') (rest : Thinned items items') :
      Thinned (.object members :: items) (.object members' :: items')

/-- The second element differs from the first in its connector, which is read as `c`. A row that
ended before the operator has to give the default operator before it. -/
inductive Reconnected (c : Connector) : Json → Json → Prop where
  | object {members members' : List (String × Json)}
      (others : Json.AgreeBut "connector" members members')
      (read : connectorOfJson? (Json.member? members' "connector") = some c) :
      Reconnected c (.object members) (.object members')
  | row {columnName value operator : Json} {former connector : Option Json}
      (read : connectorOfJson? connector = some c) :
      Reconnected c (.array (columnName :: value :: operator :: former.toList))
        (.array (columnName :: value :: operator :: connector.toList))
  | pair {columnName value operator connector : Json}
      (default : Operator.ofJson? operator = some .equal)
      (read : Connector.ofJson? connector = some c) :
      Reconnected c (.array [columnName, value]) (.array [columnName, value, operator, connector])

section Members

variable {columnName value operator connector : Option Json} {p : Parameter}

theorem ofMembers?_eq_some_iff : ofMembers? columnName value operator connector = some p ↔
    columnName.bind Json.string? = some p.columnName ∧ valueOfJson? value = some p.value ∧
      operatorOfJson? operator = some p.operator ∧
      connectorOfJson? connector = some p.connector := by
  cases p
  simp [ofMembers?, Option.bind_eq_some_iff]

theorem valueOfJson?_eq_empty_iff : valueOfJson? value = some "" ↔ NoValue value := by
  constructor
  · intro read
    cases value with
    | none => exact .missing
    | some json =>
      cases json <;> simp only [valueOfJson?, Json.string?, Option.some.injEq, reduceCtorEq] at read
      case null => exact .null
      case string => exact read ▸ .empty
  · intro none
    cases none <;> rfl

/-- A row of three or four. -/
theorem ofJson?_row (columnName value operator : Json) (connector : Option Json) :
    ofJson? (.array (columnName :: value :: operator :: connector.toList)) =
      ofMembers? columnName value operator connector := by
  cases connector <;> rfl

end Members

variable {p : Parameter} {item item' : Json} {c : Connector}

theorem valueless_object {members : List (String × Json)} :
    Valueless (.object members) ↔ NoValue (Json.member? members "value") := by
  constructor
  · intro valueless
    cases valueless with
    | object none => exact none
  · exact .object

theorem valueless_short (columnName : Json) :
    Valueless (.array [columnName]) ↔ NoValue none :=
  iff_of_true (.short columnName) .missing

theorem valueless_row {columnName value : Json} {rest : List Json} :
    Valueless (.array (columnName :: value :: rest)) ↔ NoValue (some value) := by
  constructor
  · intro valueless
    cases valueless with
    | row none => exact none
  · exact .row

/-- What an element gives for the value, in whichever form it is written. -/
theorem exists_value_of_ofJson? (read : ofJson? item = some p) :
    ∃ value, valueOfJson? value = some p.value ∧ (Valueless item ↔ NoValue value) := by
  unfold ofJson? at read
  split at read
  case h_1 => exact ⟨_, (ofMembers?_eq_some_iff.mp read).2.1, valueless_object⟩
  case h_2 => exact ⟨_, (ofMembers?_eq_some_iff.mp read).2.1, valueless_short _⟩
  case h_6 => cases read
  all_goals exact ⟨_, (ofMembers?_eq_some_iff.mp read).2.1, valueless_row⟩

theorem valueless_iff_inactive (read : ofJson? item = some p) :
    Valueless item ↔ p.isActive = false := by
  obtain ⟨value, given, valueless⟩ := exists_value_of_ofJson? read
  rw [valueless, ← valueOfJson?_eq_empty_iff, given, Option.some.injEq]
  simp [isActive]

theorem ofJson?_exchange {members members' : List (String × Json)}
    (none : NoValue (Json.member? members "value"))
    (none' : NoValue (Json.member? members' "value"))
    (others : Json.AgreeBut "value" members members') :
    ofJson? (.object members') = ofJson? (.object members) := by
  rw [← valueOfJson?_eq_empty_iff] at none none'
  simp only [ofJson?, ofMembers?, none, none', others "columnName" (by decide),
    others "operator" (by decide), others "connector" (by decide)]

theorem Reconnected.read (reconnected : Reconnected c item item') (read : ofJson? item = some p) :
    ofJson? item' = some { p with connector := c } := by
  cases reconnected with
  | object others connector =>
    obtain ⟨columnName, value, operator, _⟩ := ofMembers?_eq_some_iff.mp read
    rw [← others _ (by decide)] at columnName value operator
    exact ofMembers?_eq_some_iff.mpr ⟨columnName, value, operator, connector⟩
  | row connector =>
    rw [ofJson?_row] at read ⊢
    obtain ⟨columnName, value, operator, _⟩ := ofMembers?_eq_some_iff.mp read
    exact ofMembers?_eq_some_iff.mpr ⟨columnName, value, operator, connector⟩
  | pair default connector =>
    obtain ⟨columnName, value, operator, _⟩ := ofMembers?_eq_some_iff.mp read
    exact ofMembers?_eq_some_iff.mpr ⟨columnName, value, default.trans operator, connector⟩

theorem exists_reconnected (read : ofJson? item = some p) (valued : ¬ Valueless item)
    (c : Connector) : ∃ item', Reconnected c item item' := by
  have known : connectorOfJson? (some c.toJson) = some c := by cases c <;> rfl
  have longer (columnName value operator : Json) (former : Option Json) : ∃ item',
      Reconnected c (.array (columnName :: value :: operator :: former.toList)) item' :=
    ⟨_, .row known⟩
  unfold ofJson? at read
  split at read
  case h_1 members =>
    have others : Json.AgreeBut "connector" members
        (("connector", c.toJson) :: members.filter fun m => m.1 != "connector") :=
      Json.agreeBut_of_filter (by simp)
    exact ⟨_, .object others known⟩
  case h_2 columnName => exact absurd (.short columnName) valued
  case h_3 => exact ⟨_, .pair (Operator.ofJson?_toJson .equal) known⟩
  case h_4 => exact longer _ _ _ none
  case h_5 => exact longer _ _ _ (some _)
  case h_6 => cases read

end Parameter

namespace Request

open Parameter

variable {items items' : List Json} {request : Request}

/-- The elements are read one by one. -/
def Reads (items : List Json) (request : Request) : Prop :=
  List.Forall₂ (fun item p => Parameter.ofJson? item = some p) items request

theorem ofJson?_array_iff (items : List Json) (request : Request) :
    ofJson? (.array items) = some request ↔ Reads items request := by
  change items.mapM Parameter.ofJson? = some request ↔ _
  induction items generalizing request with
  | nil => simp [Reads, eq_comm]
  | cons item items ih =>
    simp only [List.mapM_cons, Option.bind_eq_bind, Option.bind_eq_some_iff, ih, Option.pure_def,
      Option.some.injEq, Reads, List.forall₂_cons_left_iff, @eq_comm _ request, exists_and_left]

/-- Thinning an array takes inactive parameters out of the request and changes no other. -/
theorem Reads.thinned (reads : Reads items request) (thinned : Thinned items items') :
    ∃ request', Reads items' request' ∧ request'.active = request.active := by
  -- only the active parameters agree at each step: the requests may differ in length
  induction thinned generalizing request with
  | nil =>
    cases reads
    exact ⟨[], .nil, rfl⟩
  | keep item _ ih =>
    obtain _ | ⟨read, reads⟩ := reads
    obtain ⟨request', reads', same⟩ := ih reads
    refine ⟨_, .cons read reads', ?_⟩
    rw [active_cons, active_cons, same]
  | delete valueless _ ih =>
    obtain _ | ⟨read, reads⟩ := reads
    obtain ⟨request', reads', same⟩ := ih reads
    refine ⟨request', reads', ?_⟩
    rw [active_cons, (valueless_iff_inactive read).mp valueless, same]
    rfl
  | exchange none none' others _ ih =>
    obtain _ | ⟨read, reads⟩ := reads
    obtain ⟨request', reads', same⟩ := ih reads
    rw [← ofJson?_exchange none none' others] at read
    refine ⟨_, .cons read reads', ?_⟩
    rw [active_cons, active_cons, same]

theorem Reads.split {before after : List Json} (reads : Reads (before ++ after) request) :
    ∃ earlier later, request = earlier ++ later ∧ Reads before earlier ∧ Reads after later := by
  have front := List.forall₂_take_append _ before after reads.flip
  have back := List.forall₂_drop_append _ before after reads.flip
  exact ⟨_, _, (List.take_append_drop before.length request).symm, front.flip, back.flip⟩

theorem Reads.active_eq_nil (reads : Reads items request)
    (valueless : ∀ item ∈ items, Valueless item) : request.active = [] := by
  induction reads with
  | nil => rfl
  | cons read _ ih =>
    obtain ⟨none, valueless⟩ := List.forall_mem_cons.mp valueless
    rw [active_cons, (valueless_iff_inactive read).mp none, ih valueless]
    rfl

/-- The first element with a value is the first active parameter. -/
theorem Reads.first_active {before after : List Json} {item : Json}
    (reads : Reads (before ++ item :: after) request)
    (valueless : ∀ earlier ∈ before, Valueless earlier) (valued : ¬ Valueless item) :
    ∃ earlier p later, request = earlier ++ p :: later ∧ Reads before earlier ∧
      Parameter.ofJson? item = some p ∧ Reads after later ∧
      ∀ q : Parameter, q.value = p.value → active (earlier ++ q :: later) = q :: active later := by
  obtain ⟨earlier, rest, rfl, front, back⟩ := reads.split
  cases back with
  | @cons _ p _ later read back =>
    refine ⟨earlier, p, later, rfl, front, read, back, ?_⟩
    rw [valueless_iff_inactive read, Bool.not_eq_false] at valued
    intro q same
    have active : q.isActive = true := by rwa [isActive, same]
    rw [Request.active, List.filter_append, ← Request.active, front.active_eq_nil valueless]
    exact (active_cons q later).trans (if_pos active)

end Request

namespace Predicate

variable {schema : Schema} {settings : Settings} {request request' : Request}

theorem build_congr_active (same : request'.active = request.active) :
    build schema settings request' = build schema settings request := by
  simp only [build, Request.build, same]

theorem build_congr_first {p : Parameter} {c : Connector} {rest : Request}
    (active : request.active = p :: rest)
    (active' : request'.active = { p with connector := c } :: rest) :
    build schema settings request' = build schema settings request := by
  simp only [build, Request.build, active, active']
  rfl

open Parameter in
/-- Thinning the elements without a value leaves an array that is read and built to the same
result, and so does another connector in the first element that has a value. -/
theorem build_valueless {items : List Json} {request : Request}
    (read : Request.ofJson? (.array items) = some request) (schema : Schema)
    (settings : Settings) :
    (∀ items', Thinned items items' → ∃ request',
      Request.ofJson? (.array items') = some request' ∧
        build schema settings request' = build schema settings request) ∧
    ∀ before item after, items = before ++ item :: after →
      (∀ earlier ∈ before, Valueless earlier) → ¬ Valueless item →
        ∀ c, (∃ item', Reconnected c item item') ∧
          ∀ item', Reconnected c item item' → ∃ request',
            Request.ofJson? (.array (before ++ item' :: after)) = some request' ∧
              build schema settings request' = build schema settings request := by
  simp only [Request.ofJson?_array_iff] at read ⊢
  constructor
  · intro items' thinned
    obtain ⟨request', reads, same⟩ := read.thinned thinned
    exact ⟨request', reads, build_congr_active same⟩
  · rintro before item after rfl valueless valued c
    obtain ⟨earlier, p, later, rfl, front, given, back, active⟩ :=
      read.first_active valueless valued
    refine ⟨exists_reconnected given valued c, ?_⟩
    intro item' reconnected
    refine ⟨_, List.rel_append front (.cons (reconnected.read given) back), ?_⟩
    exact build_congr_first (active p rfl) (active { p with connector := c } rfl)

open Parameter in
/-- An element without a value stands first and names no column of the schema; it gives no value
in another way, or in none at all when it is gone. A row before the last element goes too. -/
theorem build_valueless_first :
    let schema : Schema := [⟨"a", .int⟩, ⟨"b", .bool⟩]
    let ghost : List (String × Json) := [("columnName", .string "ghost"), ("connector", .string "Or")]
    let ghost' : List (String × Json) := ("value", .null) :: ghost
    let first (connector : String) : Json := .object
      [("columnName", .string "A"), ("value", .string "2"), ("connector", .string connector)]
    let row : Json := .array [.string "b", .string "", .string "NotEqual"]
    let last : Json := .array [.string "B", .string "true", .string "Equal", .string "OrElse"]
    let predicate : Predicate :=
      ⟨(Expr.comparison "a" .equal (.int 2)).or (.comparison "b" .equal (.bool true))⟩
    let Gives (items : List Json) : Prop := ∃ request,
      Request.ofJson? (.array items) = some request ∧ build schema {} request = .ok predicate
    Gives [.object ghost, first "And", row, last] ∧ Gives [.object ghost', first "And", last] ∧
      Gives [first "And", row, last] ∧ Gives [.object ghost, first "OrElse", row, last] := by
  intro schema ghost ghost' first row last predicate Gives
  have read : Request.ofJson? (.array [.object ghost, first "And", row, last]) =
    some [⟨"ghost", "", .equal, .or⟩, ⟨"A", "2", .equal, .and⟩, ⟨"b", "", .notEqual, .and⟩,
      ⟨"B", "true", .equal, .or⟩] := rfl
  have built : build schema {} [⟨"ghost", "", .equal, .or⟩, ⟨"A", "2", .equal, .and⟩,
      ⟨"b", "", .notEqual, .and⟩, ⟨"B", "true", .equal, .or⟩] = .ok predicate := by decide
  obtain ⟨inert, reconnected⟩ := build_valueless read schema {}
  rw [built] at inert reconnected
  have absent : NoValue (Json.member? ghost "value") := .missing
  have others : Json.AgreeBut "value" ghost ghost' := Json.agreeBut_of_filter rfl
  have valued : ¬ Valueless (first "And") := by
    rw [valueless_object, ← valueOfJson?_eq_empty_iff]
    decide
  have connector : Reconnected .or (first "And") (first "OrElse") :=
    .object (Json.agreeBut_of_filter rfl) rfl
  refine ⟨⟨_, read, built⟩, ?_, ?_, ?_⟩
  · apply inert
    exact .exchange absent .null others (.keep _ (.delete (.row .empty) (.keep _ .nil)))
  · apply inert
    exact .delete (.object absent) (.keep _ (.keep _ (.keep _ .nil)))
  · apply (reconnected [.object ghost] (first "And") [row, last] rfl ?_ valued .or).2 _ connector
    rintro earlier (_ | ⟨_, ⟨⟩⟩)
    exact .object absent

end Predicate

end RecordFilter
