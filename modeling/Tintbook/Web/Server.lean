import Tintbook.Web.Http
import Tintbook.Web.Page
import Tintbook.Web.Url
import Tintbook.Submission.Json
import Tintbook.Submission.Form
import Tintbook.Store.Workflow
import Tintbook.Formula.Json
/-!
# The server

The server answers requests from the store. Its routes:

| path | methods | answer |
|---|---|---|
| `/health` | GET | `OK` |
| `/` | GET | the list of formulas |
| `/formula/add` | GET, POST | the form to add a formula; a submission |
| `/formula/{id}` | GET | one formula |
| `/formula/edit/{id}` | GET | the form to edit a formula |
| `/api/formulas` | GET | the formulas as JSON |
| `/api/formulas/{id}` | GET, DELETE | one formula with its lines as JSON; its removal |

A path no route matches gets 404, a method a route does not take gets 405, both with an
empty body; HEAD is answered as GET without the body. An `{id}` is one nonempty segment,
percent-decoded and read as a 64-bit integer; when it is not one the request gets 400 with
a plain-text reason.

A failure of the store answers with the failure's own sentence when the client is to
blame (400 for a rejected submission or malformed lines, 404 for a missing formula), and
with a fixed sentence and status 500 otherwise. The JSON routes write a failure as
`{"success": false, "error": …}`, the pages as an error page. A submission that succeeds
is answered `{"success": true}`; whatever fails leaves the store as it was. A submission's
body is read only once its content type is accepted, and only up to 2 MiB: a longer body is
refused with 400 before any of it is read.

## What this module delivers

- `Route`, `Route.ofPath?`, `Route.allows`: the routes.
- `HttpError`: a failed request, with its JSON and page responses.
- `bodyLimit`, `readSubmission`: the submission a request's body carries.
- `respond`: the response to a request, and the store after it.
-/

set_option autoImplicit false

namespace Tintbook

open Store

/-- The routes of the server; a route with an id keeps the segment as written. -/
inductive Route where
  | health
  | index
  | addForm
  | detail (id : String)
  | edit (id : String)
  | list
  | formula (id : String)
  deriving DecidableEq, Repr

/-- The route a path matches, if any. -/
def Route.ofPath? (path : String) : Option Route :=
  match path.splitOn "/" with
  | ["", "health"] => some .health
  | ["", ""] => some .index
  | ["", "formula", "add"] => some .addForm
  | ["", "formula", id] => if id.isEmpty then none else some (.detail id)
  | ["", "formula", "edit", id] => if id.isEmpty then none else some (.edit id)
  | ["", "api", "formulas"] => some .list
  | ["", "api", "formulas", id] => if id.isEmpty then none else some (.formula id)
  | _ => none

/-- Whether a route takes a method; HEAD counts as GET. -/
def Route.allows : Route → String → Bool
  | .addForm, m => m == "GET" || m == "POST"
  | .formula _, m => m == "GET" || m == "DELETE"
  | _, m => m == "GET"

/-- A failed request: its status and sentence. -/
structure HttpError where
  status : Nat
  message : String
  deriving DecidableEq, Repr

namespace HttpError

/-- The JSON answer of a failed request. -/
def json (e : HttpError) : Response :=
  Response.json e.status (.obj [("success", .bool false), ("error", .str e.message)])

/-- The page answer of a failed request. -/
def page (e : HttpError) : Response := Response.html e.status (Page.error e.status e.message)

/-- How a failure answers: with its own sentence when the client is to blame, else with
the fixed sentence `fallback`. -/
def ofFailure (fallback : String) : Failure → HttpError
  | .notFound e => ⟨404, (Failure.notFound e).message⟩
  | .invalid r => ⟨400, (Failure.invalid r).message⟩
  | .malformedPayload e => ⟨400, (Failure.malformedPayload e).message⟩
  | _ => ⟨500, fallback⟩

/-- A formula that does not exist. -/
def missing : HttpError := ⟨404, "Formula not found"⟩

end HttpError

/-- The id a path segment gives, or the plain-text answer when it gives none. -/
def pathId (raw : String) : Except Response Int :=
  match Utf8.decode? (Url.percentDecode raw.toUTF8.toList) with
  | none => .error (Response.plain 400 "Invalid URL: Invalid UTF-8 in \x60id\x60")
  | some s =>
    match readInt64 s with
    | .ok n => .ok n
    | .error _ => .error (Response.plain 400 ("Invalid URL: Cannot parse \x60" ++ s ++ "\x60 to a \x60i64\x60"))

/-- The reason a JSON body gives no submission: the path to the value at fault, if any, and
the reader's sentence, after a phrase telling a malformed text from a misshapen one. -/
def jsonRejection (r : Json.Refusal) : String :=
  let path := match r.path with
    | some (s :: rest) => Json.Step.render (s :: rest) ++ ": "
    | _ => ""
  let head := match r.error.category with
    | .data => "Failed to deserialize the JSON body into the target type: "
    | _ => "Failed to parse the request body as JSON: "
  head ++ path ++ r.error.message

/-- The most bytes of a body the server reads: 2 MiB. -/
def bodyLimit : Nat := 2097152

/-- Whether a request's body is longer than the server reads. -/
def Request.tooLarge (req : Request) : Bool := req.body.utf8ByteSize > bodyLimit

/-- The refusal of a body longer than the server reads. -/
def bodyTooLarge : HttpError := ⟨400, "Failed to buffer the request body: length limit exceeded"⟩

/-- The submission a request's body carries: JSON when the content type starts with
`application/json`, else a form, which needs the form content type. The content type is
checked before the body is read, and a body longer than `bodyLimit` is not read at all. -/
def readSubmission (req : Request) : Except HttpError Submission :=
  let ct := req.contentText
  if ct.any (·.startsWith "application/json") then
    if (ct.bind MediaType.parse?).any MediaType.isJson then
      if req.tooLarge then .error bodyTooLarge
      else
        match Submission.shape.read req.body with
        | .ok j => .ok (Submission.ofJson j)
        | .error r => .error ⟨400, jsonRejection r⟩
    else .error ⟨400, "Expected request with \x60Content-Type: application/json\x60"⟩
  else if ct.any (·.startsWith "application/x-www-form-urlencoded") then
    if req.tooLarge then .error bodyTooLarge
    else
      match Submission.ofPairs (Url.formPairs req.body) with
      | .ok s => .ok s
      | .error f => .error ⟨400, "Failed to deserialize form body: " ++ f.message⟩
  else
    .error ⟨400, "Form requests must have \x60Content-Type: application/x-www-form-urlencoded\x60"⟩

/-- The answer to a submission that succeeded. -/
def accepted : Response := Response.json 200 (.obj [("success", .bool true)])

/-- The workflow a command runs: creating a formula or changing one. -/
def Command.workflow (now : Instant) : Command → Work FormulaDetail
  | .create nf => createFormula nf now
  | .update id a => updateFormula id a now

/-- The fixed sentence a command's failure is answered with when the client is not to
blame. -/
def Command.fallback : Command → String
  | .create _ => "Failed to create formula"
  | .update _ _ => "Failed to update formula"

/-- Applies a submission: creates or changes a formula. The database after a failed
workflow is the one its transaction left. -/
def submit (req : Request) (now : Instant) (db : Database) : Response × Database :=
  match readSubmission req with
  | .error e => (e.json, db)
  | .ok s =>
    match s.toCommand with
    | .error f => ((HttpError.ofFailure "Invalid submission" f).json, db)
    | .ok cmd =>
      match (cmd.workflow now).run.run db with
      | (.ok _, db') => (accepted, db')
      | (.error f, db') => ((HttpError.ofFailure cmd.fallback f).json, db')

/-- A formula with its lines for a route with an id, or the failure to answer with. -/
def detailFor (raw : String) (db : Database) : Except (Response ⊕ HttpError) FormulaDetail :=
  match pathId raw with
  | .error r => .error (.inl r)
  | .ok id =>
    match getFormulaDetail id db with
    | .ok (some d) => .ok d
    | .ok none => .error (.inr HttpError.missing)
    | .error f => .error (.inr (HttpError.ofFailure "Failed to get formula" f))

/-- The page of a formula with its lines, rendered by `view`, or the error page. -/
def pageFor (raw : String) (db : Database) (view : FormulaDetail → String) : Response :=
  match detailFor raw db with
  | .ok d => Response.html 200 (view d)
  | .error (.inl r) => r
  | .error (.inr e) => e.page

/-- The answer of a route to a method it takes, and the store after it. -/
def serve (route : Route) (method : String) (req : Request) (now : Instant) (db : Database) :
    Response × Database :=
  match route with
  | .health => (Response.plain 200 "OK", db)
  | .index =>
    match listFormulas db with
    | .ok fs => (Response.html 200 (Page.index fs), db)
    | .error f => ((HttpError.ofFailure "Failed to list formulas" f).page, db)
  | .addForm =>
    if method == "POST" then submit req now db
    else (Response.html 200 (Page.form none), db)
  | .detail raw => (pageFor raw db Page.detail, db)
  | .edit raw => (pageFor raw db (fun d => Page.form (some d)), db)
  | .list =>
    match listFormulas db with
    | .ok fs => (Response.json 200 (.arr (fs.map Formula.toJson)), db)
    | .error f => ((HttpError.ofFailure "Failed to list formulas" f).json, db)
  | .formula raw =>
    if method == "DELETE" then
      match pathId raw with
      | .error r => (r, db)
      | .ok id =>
        match (deleteFormula id).run.run db with
        | (.ok true, db') => (Response.empty 204, db')
        | (.ok false, db') => (HttpError.missing.json, db')
        | (.error f, db') => ((HttpError.ofFailure "Failed to delete formula" f).json, db')
    else
      match detailFor raw db with
      | .ok d => (Response.json 200 d.toJson, db)
      | .error (.inl r) => (r, db)
      | .error (.inr e) => (e.json, db)

/-- The response to a request at an instant, and the store after it. -/
def respond (req : Request) (now : Instant) (db : Database) : Response × Database :=
  match Route.ofPath? req.path with
  | none => (Response.empty 404, db)
  | some route =>
    let head := req.method == "HEAD"
    let method := if head then "GET" else req.method
    if route.allows method then
      let (r, db') := serve route method req now db
      (if head then { r with body := "" } else r, db')
    else (Response.empty 405, db)

end Tintbook
