import Tintbook.Toml.Document
import Tintbook.Decimal.Nearest
/-!
# Reading TOML text

The grammar of TOML, read by parsers that either take their input, fail softly so that an
alternative may be tried, or fail for good once the input is known to be wrong. A failure
keeps the place where reading stopped, the names of what was being read (*labels*), what was
expected there, and its cause; the report says `invalid` and the first label, then
`expected` and the expected things, then the cause, each on its own line.

The grammar, by its parts:

- blanks are spaces and tabs; a comment runs from `#` to the line's end; a line ends in a
  line feed, a carriage return and line feed, or the end of the text;
- a key is one or more bare or quoted parts joined by `.`, with blanks around each part;
- a value is chosen by its first character: a quote starts a string, `[` an array, `{` a
  table in braces, a sign or digit a date, time, float or integer (tried in that order), and
  `t`, `f`, `i`, `n` the words `true`, `false`, `inf` and `nan`; anything else is reported as
  an invalid string;
- a line holds a key-value pair, a header `[key]` or `[[key]]`, a comment, or nothing, and
  after a pair or a header only blanks and a comment may follow on its line.

## What this module delivers

- `Toml.parse`: the root table of a document, or its first fault.
-/

set_option autoImplicit false

namespace Tintbook

namespace TomlSyntax

/-- What a failure was reading or expecting. -/
inductive Note where
  | label (what : String)
  | expected (what : String)
  deriving DecidableEq, Repr

/-- A failure: whether it is final, where reading stopped, the notes gathered on the way
out, in order, and its cause. -/
structure Failure where
  final : Bool
  pos : Nat
  notes : List Note
  cause : Option String
  deriving Repr

/-- The report of a failure: `invalid` and its first label, the expected things, and the
cause, each on a line. -/
def Failure.message (f : Failure) : String :=
  let label := f.notes.findSome? (fun n => match n with
    | .label s => some s
    | .expected _ => none)
  let expected := f.notes.filterMap (fun n => match n with
    | .expected s => some s
    | .label _ => none)
  let parts := (match label with
      | some l => ["invalid " ++ l]
      | none => []) ++
    (if expected.isEmpty then [] else ["expected " ++ ", ".intercalate expected]) ++
    (match f.cause with
      | some c => [c]
      | none => [])
  "\n".intercalate parts

/-- The unread input and the number of bytes read, places in the text being counted in bytes
of its UTF-8 encoding. -/
structure Cursor where
  rest : List Char
  pos : Nat

/-- The number of bytes of characters in UTF-8. -/
def bytesOf (cs : List Char) : Nat := cs.foldl (fun n c => n + c.utf8Size) 0

/-- A parser. -/
abbrev P := StateT Cursor (Except Failure)

/-- The number of bytes read. -/
def here : P Nat := do return (← get).pos

/-- The next character, unread. -/
def peekChar : P (Option Char) := do return (← get).rest.head?

/-- Fails softly where reading stands. -/
def soft {α : Type} : P α := do throw ⟨false, (← get).pos, [], none⟩

/-- Fails softly at a place, with a cause. -/
def softAt {α : Type} (pos : Nat) (cause : Option String) : P α := throw ⟨false, pos, [], cause⟩

/-- Adds a note to a failure of `p`. -/
def note {α : Type} (n : Note) (p : P α) : P α :=
  tryCatch p (fun e => throw { e with notes := e.notes ++ [n] })

/-- Makes a failure of `p` final. -/
def commit {α : Type} (p : P α) : P α := tryCatch p (fun e => throw { e with final := true })

/-- Runs `p`; when it fails softly, nothing is read and the result is none. -/
def opt {α : Type} (p : P α) : P (Option α) :=
  tryCatch (some <$> p) (fun e => if e.final then throw e else pure none)

/-- Runs `p`, or `q` from the same place when `p` fails softly. -/
def orElse {α : Type} (p q : P α) : P α :=
  tryCatch p (fun e => if e.final then throw e else q)

/-- Runs `p` as often as it succeeds, at most `fuel` times. -/
def many (p : P Unit) : Nat → P Unit
  | 0 => pure ()
  | fuel + 1 => do
    match ← opt p with
    | some () => many p fuel
    | none => pure ()

/-- Runs `p`, then, at most `fuel` times, `sep` followed by `p`, as long as both succeed. -/
def sepBy1 {α : Type} (p : P α) (sep : P Unit) (fuel : Nat) : P (List α) := do
  let first ← p
  let rec more : Nat → List α → P (List α)
    | 0, acc => pure acc.reverse
    | f + 1, acc => do
      match ← opt (do sep; p) with
      | some a => more f (a :: acc)
      | none => pure acc.reverse
  more fuel [first]

/-- Like `sepBy1`, but nothing at all is also taken. -/
def sepBy0 {α : Type} (p : P α) (sep : P Unit) (fuel : Nat) : P (List α) := do
  match ← opt p with
  | none => pure []
  | some first =>
    let rec more : Nat → List α → P (List α)
      | 0, acc => pure acc.reverse
      | f + 1, acc => do
        match ← opt (do sep; p) with
        | some a => more f (a :: acc)
        | none => pure acc.reverse
    more fuel [first]

/-- The characters `p` reads. -/
def recognize (p : P Unit) : P (List Char) := do
  let c ← get
  p
  let c' ← get
  return c.rest.take (c.rest.length - c'.rest.length)

/-- Runs `p` and checks its result; a result refused fails softly where `p` started, with the
refusal's cause. -/
def check {α β : Type} (p : P α) (f : α → Except (Option String) β) : P β := do
  let start ← here
  let a ← p
  match f a with
  | .ok b => pure b
  | .error cause => softAt start cause

/-- Reads the given characters. -/
def tag (s : List Char) : P Unit := do
  let c ← get
  if s.isPrefixOf c.rest then set (⟨c.rest.drop s.length, c.pos + bytesOf s⟩ : Cursor) else soft

/-- Reads one character that satisfies `p`. -/
def oneOf (p : Char → Bool) : P Char := do
  let c ← get
  match c.rest with
  | x :: r => if p x then do set (⟨r, c.pos + x.utf8Size⟩ : Cursor); return x else soft
  | [] => soft

/-- Reads any one character. -/
def anyChar : P Char := oneOf (fun _ => true)

/-- Reads from `m` to `n` characters that satisfy `p`, as many as there are. -/
def takeRun (m n : Nat) (p : Char → Bool) : P (List Char) := do
  let c ← get
  let taken := (c.rest.takeWhile p).take n
  if taken.length < m then soft
  else do
    set (⟨c.rest.drop taken.length, c.pos + bytesOf taken⟩ : Cursor)
    return taken

/-- More characters than any text has. -/
def unbounded : Nat := Nat.pow 2 62

/-- Succeeds at the end of the input only. -/
def eof : P Unit := do if (← get).rest.isEmpty then pure () else soft

/-! ## Blanks, comments and line ends -/

/-- Whether a character is a blank. -/
def isBlank (c : Char) : Bool := c == ' ' || c == '\t'

/-- Whether a character may stand in a comment. -/
def isCommentChar (c : Char) : Bool :=
  c == '\t' || (0x20 ≤ c.toNat && c.toNat ≤ 0x7E) || c.toNat ≥ 0x80

/-- Blanks. -/
def ws : P Unit := discard (takeRun 0 unbounded isBlank)

/-- A comment. -/
def comment : P Unit := do tag ['#']; discard (takeRun 0 unbounded isCommentChar)

/-- A line feed, or a carriage return and line feed. -/
def newline : P Unit := orElse (tag ['\n']) (tag ['\r', '\n'])

/-- A line end, or the end of the text. -/
def lineEnding : P Unit := orElse newline eof

/-- What may follow a pair or a header on its line. -/
def lineTrailing : P Unit := do ws; discard (opt comment); lineEnding

/-- Blanks and line ends, after a line end. -/
def wsNewlines (fuel : Nat) : P Unit := do
  newline
  many (orElse newline (discard (takeRun 1 unbounded isBlank))) fuel

/-- Blanks, comments and line ends, as between the items of an array. -/
def wsCommentNewline : Nat → P Unit
  | 0 => pure ()
  | fuel + 1 => do
    let start ← here
    ws
    match ← peekChar with
    | some '#' => comment; newline
    | some '\n' | some '\r' => newline
    | _ => pure ()
    if (← here) == start then pure () else wsCommentNewline fuel

/-! ## Strings -/

/-- Whether a character may stand unescaped in a basic string. -/
def isBasicUnescaped (c : Char) : Bool :=
  isBlank c || c.toNat == 0x21 || (0x23 ≤ c.toNat && c.toNat ≤ 0x5B) ||
    (0x5D ≤ c.toNat && c.toNat ≤ 0x7E) || c.toNat ≥ 0x80

/-- Whether a character may stand in a literal string. -/
def isLiteralChar (c : Char) : Bool :=
  c == '\t' || (0x20 ≤ c.toNat && c.toNat ≤ 0x26) || (0x28 ≤ c.toNat && c.toNat ≤ 0x7E) ||
    c.toNat ≥ 0x80

/-- Whether a character is a hexadecimal digit. -/
def isHexDigit (c : Char) : Bool :=
  ('0' ≤ c && c ≤ '9') || ('a' ≤ c && c ≤ 'f') || ('A' ≤ c && c ≤ 'F')

/-- The value of a hexadecimal digit. -/
def hexValue (c : Char) : Nat :=
  if '0' ≤ c && c ≤ '9' then c.toNat - 48
  else if 'a' ≤ c && c ≤ 'f' then c.toNat - 87
  else c.toNat - 55

/-- The character of `n` hexadecimal digits, which has to be a Unicode scalar value. -/
def hexEscape (n : Nat) : P Char := do
  let start ← here
  let ds ← takeRun 0 n isHexDigit
  if ds.length != n then softAt start none
  let v := ds.foldl (fun acc d => acc * 16 + hexValue d) 0
  if v > 0x10FFFF || (0xD800 ≤ v && v ≤ 0xDFFF) then softAt start (some TomlFault.outOfRange.message)
  else return Char.ofNat v

/-- The character an escape stands for, after its backslash. The letter of an escape is read
as one byte, so an escape that names no character is reported just after the first byte of
what follows the backslash. -/
def escapeSeqChar : P Char := do
  let start ← here
  match ← anyChar with
  | 'b' => return Char.ofNat 8
  | 'f' => return Char.ofNat 12
  | 'n' => return '\n'
  | 'r' => return '\r'
  | 't' => return '\t'
  | '\\' => return '\\'
  | '"' => return '"'
  | 'u' => note (.label "unicode 4-digit hex code") (commit (hexEscape 4))
  | 'U' => note (.label "unicode 8-digit hex code") (commit (hexEscape 8))
  | _ =>
    throw ⟨true, start + 1,
      .label "escape sequence" ::
        (["b", "f", "n", "r", "t", "u", "U", "\\", "\""].map (fun e => .expected ("`" ++ e ++ "`"))),
      none⟩

/-- An escape, at its backslash. -/
def escaped : P Char := do tag ['\\']; escapeSeqChar

/-- A basic string, at its opening quote. -/
def basicString (fuel : Nat) : P String := do
  tag ['"']
  let chunk : P String := orElse (String.ofList <$> takeRun 1 unbounded isBasicUnescaped)
    (String.singleton <$> escaped)
  let rec chunks : Nat → String → P String
    | 0, acc => pure acc
    | f + 1, acc => do
      match ← opt chunk with
      | some s => chunks f (acc ++ s)
      | none => pure acc
  let s ← chunks fuel ""
  note (.label "basic string") (commit (tag ['"']))
  return s

/-- A literal string, at its opening apostrophe. -/
def literalString : P String :=
  note (.label "literal string") (do
    tag ['\'']
    let cs ← commit (takeRun 0 unbounded isLiteralChar)
    commit (tag ['\''])
    return String.ofList cs)

/-- Whether a character may stand unescaped in a multi-line basic string. -/
def isMultiBasicUnescaped (c : Char) : Bool := isBasicUnescaped c

/-- One or two quotes followed by what `term` reads, which is left unread; two are taken when
they can be. -/
def quotesBefore (q : Char) (term : P Unit) : P String := do
  let start ← get
  match ← opt (do tag [q, q]; let c ← get; term; set c) with
  | some () => return String.ofList [q, q]
  | none => do
    set start
    tag [q]
    let c ← get
    term
    set c
    return String.singleton q

/-- A piece of a multi-line basic string's body. -/
def mlbContent (fuel : Nat) : P String :=
  orElse (String.ofList <$> takeRun 1 unbounded isMultiBasicUnescaped)
    (orElse (do
        let escapedNewline : P Unit := do tag ['\\']; ws; wsNewlines fuel
        escapedNewline
        many escapedNewline fuel
        pure "")
      (orElse (String.singleton <$> escaped) (do newline; pure "\n")))

/-- Runs `p` as often as it succeeds, at most `fuel` times, joining what it gives to `acc`. -/
def chunksOf (p : P String) : Nat → String → P String
  | 0, acc => pure acc
  | f + 1, acc => do
    match ← opt p with
    | some s => chunksOf p f (acc ++ s)
    | none => pure acc

/-- The body of a multi-line basic string. -/
def mlbBody (fuel : Nat) : P String := do
  let c ← chunksOf (mlbContent fuel) fuel ""
  let rec quoted : Nat → String → P String
    | 0, acc => pure acc
    | f + 1, acc => do
      match ← opt (quotesBefore '"' (discard (oneOf (· != '"')))) with
      | some q =>
        match ← opt (mlbContent fuel) with
        | some first =>
          let more ← chunksOf (mlbContent fuel) fuel ""
          quoted f (acc ++ q ++ first ++ more)
        | none => pure acc
      | none => pure acc
  let c ← quoted fuel c
  match ← opt (quotesBefore '"' (tag ['"', '"', '"'])) with
  | some q => return c ++ q
  | none => return c

/-- A multi-line basic string, at its opening quotes. -/
def mlBasicString (fuel : Nat) : P String :=
  note (.label "multiline basic string") (do
    tag ['"', '"', '"']
    discard (opt newline)
    let s ← commit (mlbBody fuel)
    commit (tag ['"', '"', '"'])
    return s)

/-- Whether a character may stand in a multi-line literal string. -/
def isMllChar (c : Char) : Bool :=
  c == '\t' || (0x20 ≤ c.toNat && c.toNat ≤ 0x26) || (0x28 ≤ c.toNat && c.toNat ≤ 0x7E) ||
    c.toNat ≥ 0x80

/-- A piece of a multi-line literal string's body. -/
def mllContent : P Unit := orElse (discard (oneOf isMllChar)) newline

/-- The body of a multi-line literal string, as written. -/
def mllBody (fuel : Nat) : P (List Char) := recognize (do
  many mllContent fuel
  many (do
    discard (quotesBefore '\'' (discard (oneOf (· != '\''))))
    mllContent
    many mllContent fuel) fuel
  discard (opt (quotesBefore '\'' (tag ['\'', '\'', '\'']))))

/-- The text of a multi-line literal body: each carriage return and line feed becomes a line
feed. -/
def unixLines : List Char → List Char
  | '\r' :: '\n' :: rest => '\n' :: unixLines rest
  | c :: rest => c :: unixLines rest
  | [] => []

/-- A multi-line literal string, at its opening apostrophes. -/
def mlLiteralString (fuel : Nat) : P String :=
  note (.label "multiline literal string") (do
    tag ['\'', '\'', '\'']
    discard (opt newline)
    let body ← commit (mllBody fuel)
    commit (tag ['\'', '\'', '\''])
    return String.ofList (unixLines body))

/-- A string of any of the four kinds. -/
def string (fuel : Nat) : P String :=
  orElse (mlBasicString fuel) (orElse (basicString fuel) (orElse (mlLiteralString fuel) literalString))

/-! ## Keys -/

/-- Whether a character may stand in a bare key. -/
def isBareKeyChar (c : Char) : Bool :=
  ('A' ≤ c && c ≤ 'Z') || ('a' ≤ c && c ≤ 'z') || ('0' ≤ c && c ≤ '9') || c == '-' || c == '_'

/-- One part of a key: its name, the text it was written as, and where. -/
def simpleKey (fuel : Nat) : P TomlKey := do
  let start ← get
  let name ← match ← peekChar with
    | some '"' => basicString fuel
    | some '\'' => literalString
    | _ => String.ofList <$> takeRun 1 unbounded isBareKeyChar
  let stop ← get
  return ⟨name, String.ofList (start.rest.take (start.rest.length - stop.rest.length)), ⟨start.pos, stop.pos⟩⟩

/-- How deep arrays and tables in braces may nest, counting the outermost as one; also the
least number of parts a key may not have. -/
def nestingLimit : Nat := 80

/-- A key of dotted parts, each with blanks around it. -/
def key (fuel : Nat) : P (List TomlKey) :=
  check (note (.label "key") (sepBy1 (do ws; let k ← simpleKey fuel; ws; pure k) (tag ['.']) fuel))
    (fun ks => if ks.length < nestingLimit then .ok ks else .error (some TomlFault.recursionLimit.message))

/-! ## Numbers, dates and times -/

/-- Whether a character is a decimal digit. -/
def isDigit (c : Char) : Bool := '0' ≤ c && c ≤ '9'

/-- Digits satisfying `isD`, each `_` between two of them. -/
def digitsAfterFirst (isD : Char → Bool) (fuel : Nat) : P Unit :=
  many (orElse (discard (oneOf isD))
    (do discard (oneOf (· == '_')); note (.expected "digit") (commit (discard (oneOf isD))))) fuel

/-- A decimal integer with an optional sign: `0`, or digits not starting with `0`. -/
def decInt (fuel : Nat) : P (List Char) :=
  note (.label "integer") (recognize (do
    discard (opt (oneOf (fun c => c == '+' || c == '-')))
    orElse (do discard (oneOf (fun c => '1' ≤ c && c ≤ '9')); digitsAfterFirst isDigit fuel)
      (discard (oneOf isDigit))))

/-- Digits that may start with `0`. -/
def zeroPrefixableInt (fuel : Nat) : P Unit := do
  discard (oneOf isDigit)
  digitsAfterFirst isDigit fuel

/-- The value of digits in a radix, underscores left out. -/
def digitsValue (radix : Nat) (ds : List Char) : Nat :=
  (ds.filter (· != '_')).foldl (fun acc d => acc * radix + hexValue d) 0

/-- An integer in a radix after its prefix. -/
def radixInt (pfx : List Char) (isD : Char → Bool) (label : String) (fuel : Nat) : P (List Char) :=
  note (.label label) (do
    tag pfx
    commit (recognize (do discard (oneOf isD); digitsAfterFirst isD fuel)))

/-- A 64-bit integer from a magnitude, or why it is none. -/
def toInt64 (negative : Bool) (magnitude : Nat) : Except (Option String) Int :=
  if negative then
    if magnitude > int64Max.toNat + 1 then .error (some IntegerError.tooSmall.message) else .ok (-(magnitude : Int))
  else if magnitude > int64Max.toNat then .error (some IntegerError.tooLarge.message)
  else .ok magnitude

/-- An integer: decimal, or hexadecimal, octal or binary after `0x`, `0o`, `0b`. -/
def integer (fuel : Nat) : P Int := do
  let c ← get
  let radix (pfx : List Char) (isD : Char → Bool) (label : String) (r : Nat) : P Int :=
    commit (check (radixInt pfx isD label fuel) (fun ds => toInt64 false (digitsValue r ds)))
  match c.rest with
  | '0' :: 'x' :: _ => radix ['0', 'x'] isHexDigit "hexadecimal integer" 16
  | '0' :: 'o' :: _ => radix ['0', 'o'] (fun d => '0' ≤ d && d ≤ '7') "octal integer" 8
  | '0' :: 'b' :: _ => radix ['0', 'b'] (fun d => d == '0' || d == '1') "binary integer" 2
  | _ =>
    let start ← here
    let ds ← decInt fuel
    let (negative, digits) := match ds with
      | '-' :: r => (true, r)
      | '+' :: r => (false, r)
      | r => (false, r)
    match toInt64 negative (digitsValue 10 digits) with
    | .ok n => pure n
    | .error cause => throw ⟨true, start, [], cause⟩

/-- An exponent: `e` or `E`, an optional sign, digits. -/
def exponent (fuel : Nat) : P Unit := do
  discard (oneOf (fun c => c == 'e' || c == 'E'))
  discard (opt (oneOf (fun c => c == '+' || c == '-')))
  commit (zeroPrefixableInt fuel)

/-- A fraction: `.` and digits. -/
def fraction (fuel : Nat) : P Unit := do
  tag ['.']
  note (.expected "digit") (commit (zeroPrefixableInt fuel))

/-- The nearest double to a decimal text of digits, an optional fraction and an optional
exponent. -/
def decimalValue (cs : List Char) : Float :=
  let cs := cs.filter (· != '_')
  let (negative, body) := match cs with
    | '-' :: r => (true, r)
    | '+' :: r => (false, r)
    | r => (false, r)
  let whole := body.takeWhile isDigit
  let afterWhole := body.drop whole.length
  let frac := match afterWhole with
    | '.' :: r => r.takeWhile isDigit
    | _ => []
  let afterFrac := match afterWhole with
    | '.' :: r => r.drop frac.length
    | r => r
  let exp : Int := match afterFrac with
    | e :: r =>
      if e == 'e' || e == 'E' then
        match r with
        | '-' :: ds => -((digitsValue 10 ds : Nat) : Int)
        | '+' :: ds => (digitsValue 10 ds : Int)
        | ds => (digitsValue 10 ds : Int)
      else 0
    | [] => 0
  Decimal.toFloat ⟨negative, digitsValue 10 (whole ++ frac), exp - frac.length⟩

/-- The positive infinity. -/
def infinity : Float := 1.0 / 0.0

/-- A float: a decimal integer followed by an exponent, or by a fraction and an optional
exponent, whose value is not the positive infinity; or `inf` or `nan` with an optional
sign. -/
def float (fuel : Nat) : P Float :=
  note (.label "floating-point number") (orElse
    (do
      let start ← here
      let text ← recognize (do
        discard (decInt fuel)
        orElse (exponent fuel) (do fraction fuel; discard (opt (exponent fuel))))
      let v := decimalValue text
      if v == infinity then throw ⟨true, start, [], none⟩ else pure v)
    (do
      let sign ← opt (oneOf (fun c => c == '+' || c == '-'))
      let v ← orElse (do tag ['i', 'n', 'f']; pure infinity) (do tag ['n', 'a', 'n']; pure (0.0 / 0.0))
      pure (if sign == some '-' then -v else v)))

/-- Exactly `n` digits, with their value. -/
def digitsN (n : Nat) : P Nat := do
  let ds ← takeRun n n isDigit
  return digitsValue 10 ds

/-- Digits of a field that has to lie between `lo` and `hi`. -/
def field (n lo hi : Nat) : P Nat :=
  check (digitsN n) (fun v => if lo ≤ v && v ≤ hi then .ok v else .error (some TomlFault.outOfRange.message))

/-- The number of days of a month. -/
def monthDays (year month : Nat) : Nat :=
  if month == 2 then (if year % 4 == 0 && (year % 100 != 0 || year % 400 == 0) then 29 else 28)
  else if month == 4 || month == 6 || month == 9 || month == 11 then 30
  else 31

/-- A date: year, month and day. -/
def fullDate : P Unit := do
  let year ← digitsN 4
  tag ['-']
  let month ← commit (field 2 1 12)
  commit (tag ['-'])
  let dayStart ← here
  let day ← commit (field 2 1 31)
  if monthDays year month < day then throw ⟨true, dayStart, [], some TomlFault.outOfRange.message⟩

/-- A time of day: hours, minutes, seconds and an optional fraction. -/
def partialTime : P Unit := do
  discard (field 2 0 23)
  tag [':']
  commit (do
    discard (field 2 0 59)
    tag [':']
    discard (field 2 0 60)
    discard (opt (do tag ['.']; discard (takeRun 1 unbounded isDigit))))

/-- A zone: `Z`, or a sign, hours and minutes. -/
def timeOffset : P Unit :=
  note (.label "time offset") (orElse (discard (oneOf (fun c => c == 'Z' || c == 'z')))
    (do
      discard (oneOf (fun c => c == '+' || c == '-'))
      commit (do discard (field 2 0 23); tag [':']; discard (field 2 0 59))))

/-- A date, optionally with a time and zone; or a time of day. -/
def dateTime : P Unit :=
  orElse (do
      fullDate
      discard (opt (do
        discard (oneOf (fun c => c == 'T' || c == 't' || c == ' '))
        partialTime
        discard (opt timeOffset))))
    partialTime

/-! ## Values -/

/-- The notes for a value that starts with no valid character: an invalid string, where a
quote was expected. -/
def asString {α : Type} (p : P α) : P α :=
  note (.expected "\x60'\x60") (note (.expected "\x60\"\x60") (note (.label "string") p))

/-- A word, once its first letter has been seen. -/
def word (w : List Char) : P Unit := commit (tag w)

/-- Enters one level of arrays or tables in braces, below `depth` levels: a failure for good
at the limit. -/
def enter (depth : Nat) : P Nat := do
  if nestingLimit ≤ depth + 1 then throw ⟨false, (← here), [], some TomlFault.recursionLimit.message⟩
  else pure (depth + 1)

mutual
/-- A value, at its first character, inside `depth` levels of arrays and tables in braces. -/
def value (depth : Nat) : Nat → P Toml
  | 0 => soft
  | fuel + 1 => do
    let start ← here
    let spanTo (stop : Nat) : Span := ⟨start, stop⟩
    match ← peekChar with
    | some '"' | some '\'' =>
      let s ← string fuel
      return .str s (spanTo (← here))
    | some '[' => array depth fuel
    | some '{' => braces depth fuel
    | some c =>
      if c == '+' || c == '-' || isDigit c then
        orElse (do
            let text ← recognize dateTime
            return .datetime (String.ofList text) (spanTo (← here)))
          (orElse (do let f ← float fuel; return .float f (spanTo (← here)))
            (do let n ← integer fuel; return .int n (spanTo (← here))))
      else if c == '_' then
        note (.expected "leading digit") (do let n ← integer fuel; return .int n (spanTo (← here)))
      else if c == '.' then
        note (.expected "leading digit") (do let f ← float fuel; return .float f (spanTo (← here)))
      else if c == 't' then
        asString (do word ['t', 'r', 'u', 'e']; return .bool true (spanTo (← here)))
      else if c == 'f' then
        asString (do word ['f', 'a', 'l', 's', 'e']; return .bool false (spanTo (← here)))
      else if c == 'i' then
        asString (do tag ['i', 'n', 'f']; return .float infinity (spanTo (← here)))
      else if c == 'n' then
        asString (do tag ['n', 'a', 'n']; return .float (0.0 / 0.0) (spanTo (← here)))
      else asString soft
    | none => soft

/-- An array, at its opening bracket. -/
def array (depth : Nat) : Nat → P Toml
  | 0 => soft
  | fuel + 1 => do
    let start ← here
    tag ['[']
    let items ← commit (do
      let inner ← enter depth
      let vs ← opt (do
        let vs ← sepBy1 (do wsCommentNewline fuel; let v ← value inner fuel; wsCommentNewline fuel; pure v)
          (tag [',']) fuel
        discard (opt (tag [',']))
        pure vs)
      wsCommentNewline fuel
      pure (vs.getD []))
    note (.expected "\x60]\x60") (note (.label "array") (commit (tag [']'])))
    return .array items ⟨start, (← here)⟩

/-- A table in braces, at its opening brace. -/
def braces (depth : Nat) : Nat → P Toml
  | 0 => soft
  | fuel + 1 => do
    let start ← here
    tag ['{']
    let afterBrace ← here
    let pairs ← commit (do
      let inner ← enter depth
      let kvs ← sepBy0 (do
          let ks ← key fuel
          commit (do
            note (.expected "\x60=\x60") (note (.expected "\x60.\x60") (discard (oneOf (· == '='))))
            ws
            let v ← value inner fuel
            ws
            match ks.getLast? with
            | some k => pure (ks.dropLast, k, v)
            | none => soft))
        (tag [',']) fuel
      ws
      match inlineTable kvs with
      | .ok t => pure t
      | .error f => throw ⟨true, afterBrace, [], some f.message⟩)
    note (.expected "\x60\x7d\x60") (note (.label "inline table") (commit (tag ['}'])))
    return .inline pairs.entries pairs.implicit pairs.dotted (some ⟨start, (← here)⟩)
end

/-! ## Documents -/

/-- A key-value line, put into the document. -/
def keyval (fuel : Nat) (d : TomlDocument) : P TomlDocument := do
  let start ← here
  let ks ← key fuel
  let v ← commit (do
    note (.expected "\x60=\x60") (note (.expected "\x60.\x60") (discard (oneOf (· == '='))))
    ws
    let v ← value 0 fuel
    note (.expected "\x60#\x60") (note (.expected "newline") lineTrailing)
    pure v)
  match ks.getLast? with
  | none => soft
  | some k =>
    match d.onKeyval ks.dropLast k v with
    | .ok d' => pure d'
    | .error f => softAt start (some f.message)

/-- A header `[key]` or `[[key]]`, put into the document. -/
def header (fuel : Nat) (d : TomlDocument) : P TomlDocument :=
  note (.label "table header") (do
    let c ← get
    let start := c.pos
    -- the kind of header is told by its first two characters, which have to be there
    if c.rest.length < 2 then soft
    let isArray := match c.rest with
      | '[' :: '[' :: _ => true
      | _ => false
    let (opening, closing, closeText) :=
      if isArray then (['[', '['], [']', ']'], "\x60]]\x60") else (['['], [']'], "\x60]\x60")
    tag opening
    let ks ← commit (key fuel)
    note (.expected closeText) (note (.expected "\x60.\x60") (commit (tag closing)))
    let stop ← here
    note (.expected "\x60#\x60") (note (.expected "newline") (commit lineTrailing))
    let result := if isArray then d.onArrayHeader ks ⟨start, stop⟩ else d.onStdHeader ks ⟨start, stop⟩
    match result with
    | .ok d' => pure d'
    | .error f => softAt start (some f.message))

/-- The lines of a document, from the current place on. -/
def lines : Nat → TomlDocument → P TomlDocument
  | 0, d => pure d
  | fuel + 1, d => do
    let step : P TomlDocument := do
      let d' ← match ← peekChar with
        | some '#' => commit (do comment; lineEnding; pure d)
        | some '[' => commit (header fuel d)
        | some '\n' | some '\r' => do newline; pure d
        | some _ => commit (keyval fuel d)
        | none => soft
      ws
      pure d'
    match ← opt step with
    | some d' => lines fuel d'
    | none => pure d

/-- A whole document. -/
def document (fuel : Nat) : P TomlDocument := do
  discard (opt (tag [Char.ofNat 0xFEFF]))
  ws
  let d ← lines fuel {}
  eof
  pure d

end TomlSyntax

/-- The root table of a TOML document, or its first fault. -/
def Toml.parse (source : String) : Except TomlError (List (TomlKey × Toml)) :=
  let cs := source.toList
  let fuel := 2 * cs.length + 16
  match (TomlSyntax.document fuel).run ⟨cs, 0⟩ with
  | .error f =>
    let stop := if f.pos < source.utf8ByteSize then f.pos + 1 else f.pos
    .error ⟨some ⟨f.pos, stop⟩, f.message⟩
  | .ok (d, _) =>
    match d.finish with
    | .ok root => .ok root
    | .error f => .error ⟨none, f.message⟩

end Tintbook
