import Tintbook.Formula.Payload
import Tintbook.Text.Integer
/-!
# Pages

The server renders plain HTML pages: the list of formulas, one formula with its lines, the
form that adds or edits a formula, and a page for errors. Every page shares one frame, a
title and a line of navigation. Every stored text passes through `escape` before it reaches
a page, so no stored value can add markup: the five characters that could, `&`, `<`, `>`,
`"` and `'`, are written as character references.

## What this module delivers

- `escape`: text made safe for HTML, character by character.
- `Page.frame`: the frame of every page.
- `Page.index`, `Page.detail`, `Page.form`, `Page.error`: the pages.
-/

set_option autoImplicit false

namespace Tintbook

/-- The HTML of one character of text: the characters that could start markup are written
as character references, every other character as itself. -/
def escapeChar : Char → List Char
  | '&' => "&amp;".toList
  | '<' => "&lt;".toList
  | '>' => "&gt;".toList
  | '"' => "&quot;".toList
  | '\x27' => "&#39;".toList
  | c => [c]

/-- Text made safe to stand in HTML, as content or as the value of a quoted attribute. -/
def escape (s : String) : String := String.ofList (s.toList.flatMap escapeChar)

namespace Page

/-- A page with a title and a body, in the frame shared by all pages. -/
def frame (title body : String) : String :=
  "<!DOCTYPE html>\n<html lang=\"en\">\n<head>\n<meta charset=\"utf-8\">\n<title>" ++
    escape title ++ " - Basecoat</title>\n</head>\n<body>\n" ++
    "<nav><a href=\"/\">Formulas</a> | <a href=\"/formula/add\">Add formula</a></nav>\n" ++
    body ++ "\n</body>\n</html>\n"

/-- The row of a formula in the list. -/
def indexRow (f : Formula) : String :=
  "<tr><td><a href=\"/formula/" ++ showInt f.id ++ "\">" ++ escape f.name ++ "</a></td><td>" ++
    escape f.number ++ "</td><td>" ++ escape f.customer ++ "</td><td>" ++ escape f.summary ++
    "</td><td>" ++ f.modified.minuteText ++ "</td></tr>\n"

/-- The list of formulas, or a note that there is none yet. -/
def index (formulas : List Formula) : String :=
  let head := "<h1>Formulas</h1>\n"
  if formulas.isEmpty then frame "Formulas" (head ++ "<p>No formulas yet.</p>\n")
  else
    frame "Formulas" (head ++
      "<table>\n<thead><tr><th>Name</th><th>Number</th><th>Customer</th>" ++
      "<th>Summary</th><th>Last modified</th></tr></thead>\n<tbody>\n" ++
      String.join (formulas.map indexRow) ++ "</tbody>\n</table>\n")

/-- The list item of a colorant line: its name and amount. -/
def colorantItem (c : Colorant) : String :=
  "<li>" ++ escape c.name ++ " (" ++ showInt c.amount ++ ")</li>\n"

/-- The list item of a base line: its name and product. -/
def baseItem (b : Base) : String :=
  "<li>" ++ escape b.base ++ " - " ++ escape b.product ++ "</li>\n"

/-- One formula with its fields, times and lines, and a link to edit it. -/
def detail (d : FormulaDetail) : String :=
  let f := d.formula
  frame f.name ("<h1>" ++ escape f.name ++ "</h1>\n" ++
    "<dl>\n<dt>Number</dt><dd>" ++ escape f.number ++ "</dd>\n<dt>Customer</dt><dd>" ++
    escape f.customer ++ "</dd>\n<dt>Summary</dt><dd>" ++ escape f.summary ++
    "</dd>\n<dt>Notes</dt><dd>" ++ escape f.notes ++ "</dd>\n<dt>Created</dt><dd>" ++
    f.created.minuteText ++ "</dd>\n<dt>Last modified</dt><dd>" ++ f.modified.minuteText ++
    "</dd>\n</dl>\n<h2>Colorants</h2>\n<ul>\n" ++ String.join (d.colorants.map colorantItem) ++
    "</ul>\n<h2>Bases</h2>\n<ul>\n" ++ String.join (d.bases.map baseItem) ++
    "</ul>\n<p><a href=\"/formula/edit/" ++ showInt f.id ++ "\">Edit</a></p>\n")

/-- The script that sends the form and shows the error it meets, if any. -/
def submitScript : String :=
  "<script>\n" ++
  "document.getElementById(\"formula-form\").addEventListener(\"submit\", async (event) => \x7b\n" ++
  "  event.preventDefault();\n" ++
  "  const response = await fetch(event.target.action, \x7b\n" ++
  "    method: \"POST\",\n" ++
  "    body: new URLSearchParams(new FormData(event.target)),\n" ++
  "  \x7d);\n" ++
  "  const result = await response.json();\n" ++
  "  if (result.success) \x7b\n" ++
  "    window.location = \"/\";\n" ++
  "  \x7d else \x7b\n" ++
  "    document.getElementById(\"form-error\").textContent = result.error;\n" ++
  "  \x7d\n" ++
  "\x7d);\n" ++
  "</script>"

/-- A labelled one-line text field with a value. -/
def textInput (name label value : String) : String :=
  "<p><label for=\"" ++ name ++ "\">" ++ label ++ "</label> <input type=\"text\" id=\"" ++
    name ++ "\" name=\"" ++ name ++ "\" value=\"" ++ escape value ++ "\"></p>\n"

/-- A labelled text area with a value. -/
def textArea (name label value : String) : String :=
  "<p><label for=\"" ++ name ++ "\">" ++ label ++ "</label><br><textarea id=\"" ++ name ++
    "\" name=\"" ++ name ++ "\" rows=\"4\" cols=\"60\">" ++ escape value ++ "</textarea></p>\n"

/-- The form that adds a formula, or, given a formula with its lines, the form that edits
it, filled with its fields and its lines as text. -/
def form (d : Option FormulaDetail) : String :=
  let f := d.map (·.formula)
  let field (get : Formula → String) : String := (f.map get).getD ""
  let colorants := (d.map (fun d => d.colorants.map (fun c => (⟨c.name, c.amount⟩ : ColorantLine)))).getD []
  let bases := (d.map (fun d => d.bases.map (fun b => (⟨b.base, b.product⟩ : BaseLine)))).getD []
  let title := match f with
    | some f => "Edit " ++ f.name
    | none => "Add formula"
  let idValue := (f.map (fun f => showInt f.id)).getD ""
  frame title ("<h1>" ++ escape title ++ "</h1>\n<p id=\"form-error\"></p>\n" ++
    "<form id=\"formula-form\" method=\"post\" action=\"/formula/add\">\n" ++
    "<input type=\"hidden\" name=\"formula_id\" value=\"" ++ idValue ++ "\">\n" ++
    textInput "formula_name" "Name" (field (·.name)) ++
    textInput "formula_number" "Number" (field (·.number)) ++
    textInput "customer_name" "Customer" (field (·.customer)) ++
    textInput "summary" "Summary" (field (·.summary)) ++
    textArea "notes" "Notes" (field (·.notes)) ++
    textArea "colorants" "Colorants (JSON list of colorant_name/amount)"
      (Payload.encodeColorants colorants) ++
    textArea "bases" "Bases (JSON list of base_name/product_name)"
      (Payload.encodeBases bases) ++
    "<p><button type=\"submit\">Save</button></p>\n</form>\n" ++ submitScript)

/-- The page of an error: its status code and message. -/
def error (status : Nat) (message : String) : String :=
  frame "Error" ("<h1>" ++ showInt status ++ "</h1>\n<p>" ++ escape message ++ "</p>\n")

end Page

end Tintbook
