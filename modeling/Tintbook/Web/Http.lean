import Tintbook.Json.Writer
/-!
# Requests and responses

A request is a method, a target (the path with any query), an optional content type and a
body; a response is a status, an optional content type and a body. This module gives the
kinds of response the server sends and the rules by which it reads the content type of a
request.

A content type names JSON when it parses as a media type whose type is `application` and
whose subtype is `json` or ends in `+json`. A media type is a token, `/`, a token, and then
parameters `;name=value` where a value is a token or a quoted string; names and values are
tokens of the characters that HTTP allows in them.

## What this module delivers

- `Request`, `Response`, and the responses `Response.json`, `Response.html`,
  `Response.plain`, `Response.empty`.
- `Request.path`: the path of a request's target.
- `MediaType.parse?`, `MediaType.isJson`: reading a content type.
- `Request.contentText`: the content type as visible ASCII text, if it is.
-/

set_option autoImplicit false

namespace Tintbook

/-- A request to the server. -/
structure Request where
  method : String
  target : String
  contentType : Option String := none
  body : String := ""
  deriving DecidableEq, Repr

/-- A response of the server. -/
structure Response where
  status : Nat
  contentType : Option String
  body : String
  deriving DecidableEq, Repr

namespace Response

/-- A JSON document, compact. -/
def json (status : Nat) (doc : Json) : Response :=
  ⟨status, some "application/json", Json.compact doc⟩

/-- An HTML page. -/
def html (status : Nat) (page : String) : Response :=
  ⟨status, some "text/html; charset=utf-8", page⟩

/-- Plain text. -/
def plain (status : Nat) (text : String) : Response :=
  ⟨status, some "text/plain; charset=utf-8", text⟩

/-- A status alone. -/
def empty (status : Nat) : Response := ⟨status, none, ""⟩

end Response

/-- The path of a request's target: what comes before a `?` or `#`. -/
def Request.path (r : Request) : String :=
  String.ofList (r.target.toList.takeWhile (fun c => c != '?' && c != '#'))

/-- The content type of a request as text, when it is made of visible ASCII characters and
tabs only. -/
def Request.contentText (r : Request) : Option String :=
  r.contentType.bind (fun s =>
    if s.toList.all (fun c => c == '\t' || (' ' ≤ c && c ≤ '~')) then some s else none)

/-- A media type: its type, its subtype, and the suffix after the last `+` of the subtype,
all in lower case. -/
structure MediaType where
  type : String
  subtype : String
  suffix : Option String
  deriving DecidableEq, Repr

namespace MediaType

/-- The characters of a token. -/
def isToken (c : Char) : Bool :=
  c.isAlphanum || "!#$%&\x27*+-.^_\x60|~".toList.contains c

/-- The characters of a quoted parameter value. -/
def isQuotedChar (c : Char) : Bool := c.toNat > 31 && c.toNat != 127 && c.toNat < 128

/-- Reads a quoted value after its opening quote: the closing quote, then blanks, then the
end or a `;` before the next parameter. -/
def quoted : List Char → Option (List Char)
  | [] => none
  | '"' :: rest =>
    let rest := rest.dropWhile (· == ' ')
    match rest with
    | [] => some []
    | ';' :: more => some more
    | _ => none
  | c :: rest => if isQuotedChar c then quoted rest else none

/-- Whether parameters, after the `;` that opens them, are well formed: blanks before a
name are passed over, a name is a token followed by `=`, and a value is a token ending at
`;` or the end, or a quoted string. -/
def params (fuel : Nat) (cs : List Char) : Bool :=
  match fuel with
  | 0 => true
  | fuel + 1 =>
    match cs with
    | [] => true
    | ' ' :: rest => params fuel rest
    | _ =>
      let name := cs.takeWhile isToken
      match cs.drop name.length with
      | '=' :: afterEq =>
        if name.isEmpty then false
        else
          match afterEq with
          | '"' :: inner =>
            match quoted inner with
            | some more => params fuel more
            | none => false
          | _ =>
            let value := afterEq.takeWhile isToken
            match afterEq.drop value.length with
            | [] => true
            | ';' :: more => if value.isEmpty then false else params fuel more
            | _ => false
      | _ => false

/-- The media type a content type names, if it is well formed. -/
def parse? (s : String) : Option MediaType :=
  let cs := s.toList
  let type := cs.takeWhile isToken
  match cs.drop type.length with
  | '/' :: rest =>
    if type.isEmpty then none
    else
      let sub := rest.takeWhile isToken
      let after := rest.drop sub.length
      let wellFormed :=
        match after with
        | [] => true
        | ';' :: more => !sub.isEmpty && params (more.length + 1) more
        | _ => false
      if !wellFormed then none
      else
        let lower (xs : List Char) : String := String.ofList (xs.map Char.toLower)
        let plusAt := (sub.zipIdx.filter (fun (c, i) => c == '+' && i > 0)).getLast?.map (·.2)
        match plusAt with
        | some i => some ⟨lower type, lower (sub.take i), some (lower (sub.drop (i + 1)))⟩
        | none => some ⟨lower type, lower sub, none⟩
  | _ => none

/-- Whether a media type is JSON: `application/json`, or `application` with a subtype
ending in `+json`. -/
def isJson (m : MediaType) : Bool :=
  m.type == "application" && (m.subtype == "json" || m.suffix == some "json")

end MediaType

end Tintbook
