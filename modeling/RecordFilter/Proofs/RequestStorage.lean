import RecordFilter.Predicate
import RecordFilter.Proofs.JsonText
import RecordFilter.Request.Encoding

/-!
Storing requests. A request is written in one form and read in many; what is written for it holds
no number and no key twice, so the request itself is read back of the document and of its text. A
document in any other form can be replaced by the one written for the request it gives.
-/
namespace RecordFilter

namespace Parameter

@[simp] theorem ofJson?_toJson (p : Parameter) : ofJson? p.toJson = some p := by
  have members : ofJson? p.toJson = ofMembers? (some (.string p.columnName))
      (some (.string p.value)) (some p.operator.toJson) (some p.connector.toJson) := rfl
  simp [members, ofMembers?, valueOfJson?, operatorOfJson?, connectorOfJson?, Json.string?]

theorem numberless_toJson (p : Parameter) : p.toJson.Numberless := by
  refine .object (by simp) ?_
  simp only [List.forall_mem_cons]
  exact ⟨.string _, .string _, .string _, .string _, fun _ none => nomatch none⟩

end Parameter

namespace Request

def text (request : Request) : List Char := request.toJson.write

def ofText? (s : List Char) : Option Request := (Json.read? s).bind ofJson?

/-- Reads a document, stores the request and reads what is stored. -/
def restore? (json : Json) : Option Request := do
  let request ← ofJson? json
  ofText? request.text

theorem ofJson?_toJson (request : Request) : ofJson? request.toJson = some request := by
  change (request.map Parameter.toJson).mapM Parameter.ofJson? = some request
  induction request with
  | nil => rfl
  | cons p rest ih => simp [ih]

theorem numberless_toJson (request : Request) : request.toJson.Numberless := by
  refine .array fun json member => ?_
  obtain ⟨p, _, rfl⟩ := List.mem_map.mp member
  exact p.numberless_toJson

theorem ofText?_text (request : Request) : ofText? request.text = some request := by
  rw [ofText?, text, Json.read?_write request.numberless_toJson, Option.bind_some, ofJson?_toJson]

theorem restore?_eq (json : Json) : restore? json = ofJson? json := by
  cases read : ofJson? json with
  | none => simp [restore?, read]
  | some request => simp [restore?, read, ofText?_text]

end Request

namespace Predicate

open Request in
/-- Every request is read back of its document and of its text. A document from which a request is
read, in whichever form, is restored to the same request and is built to the same result. -/
theorem build_restored :
    (∀ request : Request,
      ofJson? request.toJson = some request ∧ ofText? request.text = some request) ∧
    ∀ json, restore? json = ofJson? json ∧ ∀ schema settings,
      (restore? json).map (build schema settings) = (ofJson? json).map (build schema settings) := by
  refine ⟨fun request => ⟨ofJson?_toJson request, ofText?_text request⟩, fun json => ?_⟩
  exact ⟨restore?_eq json, fun schema settings => congrArg _ (restore?_eq json)⟩

open Request in
/-- A row, an object with longer names and one with a member too many. -/
theorem build_restored_mixed :
    let json : Json := .array [
      .array [.string "age", .string "18", .object [("GreaterThanOrEqual", .null)]],
      .object [("connector", .string "OrElse"), ("columnName", .string "name \n"),
        ("value", .string "\"bob\"")],
      .object [("columnName", .string "id"), ("note", .bool true), ("value", .null)]]
    let schema : Schema := [⟨"age", .int⟩, ⟨"name \n", .string⟩]
    restore? json = some [⟨"age", "18", .greaterOrEqual, .and⟩, ⟨"name \n", "\"bob\"", .equal, .or⟩,
      ⟨"id", "", .equal, .and⟩] ∧
    (restore? json).map (build schema {}) = some (.ok
      ⟨.or (.comparison "age" .greaterOrEqual (.int 18))
        (.comparison "name \n" .equal (.string "\"bob\""))⟩) := by
  intro json schema
  obtain ⟨same, built⟩ := build_restored.2 json
  refine ⟨same.trans (by decide), (built schema {}).trans ?_⟩
  rfl

end Predicate

end RecordFilter
