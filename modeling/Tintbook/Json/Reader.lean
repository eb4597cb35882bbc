import Tintbook.Json.Fault
import Tintbook.Decimal.Nearest
/-!
# Reading the form of a JSON text

The text is read byte by byte from the front. Every fault of form is reported at a place:
either *here*, just past the last byte read, or *ahead*, just past the next unread byte
(which is here again at the end of the text). Which of the two a fault uses, and how far the
reader has gone when it finds it, are part of the rules below.

- Blanks between tokens are space, tab, line feed and carriage return.
- A number is an optional minus, then `0` or a digit from 1 to 9 followed by digits, then an
  optional fraction and exponent. A number without fraction and exponent is an integer when
  it lies in the 64-bit range (natural numbers up to `2^64 - 1`, negative ones down to
  `-2^63`); every other number, `-0` included, is a double. The double is the significand's
  nearest double times or divided by the power of ten, one rounding each; a product that
  overflows is out of range.
- A string may not hold a control character; its escapes are `\"`, `\\`, `\/`, `\b`, `\f`,
  `\n`, `\r`, `\t` and `\u` with four hex digits, where a high surrogate must be followed by
  `\u` and a low surrogate.
- Containers nest at most 127 deep below the outermost one.
- A value that is only skipped, such as an unknown member, is checked more loosely: its
  strings may hold any `\u` escape, its numbers may be of any size.

## What this module delivers

- `Cursor`, `Reader`: the reading state, which is kept when a fault is raised.
- `Reader.readNumber`, `Reader.readString`: a number or string at the front.
- `Reader.readAny`: a whole value, with members in order and duplicates kept.
- `Reader.skipValue`: a value checked and passed over.
- `Reader.endList`, `Reader.endObject`: the closing of a container.
-/

set_option autoImplicit false

namespace Tintbook.Json

/-- Where reading stands: the unread bytes, and the line and column just past the last
byte read. -/
structure Cursor where
  rest : List UInt8
  line : Nat
  column : Nat

/-- The cursor before the first byte of a text. -/
def Cursor.start (bytes : List UInt8) : Cursor := ⟨bytes, 1, 0⟩

/-- The cursor once the next byte is read. -/
def Cursor.consume (c : Cursor) : Cursor :=
  match c.rest with
  | [] => c
  | b :: r => if b == 10 then ⟨r, c.line + 1, 0⟩ else ⟨r, c.line, c.column + 1⟩

/-- A step of a path into a document: an item of a list or a member of an object. -/
inductive Step where
  | index (i : Nat)
  | key (k : String)
  deriving DecidableEq, Repr

/-- The text of a path: keys separated by dots, indices in brackets. -/
def Step.render : List Step → String
  | [] => ""
  | s :: rest =>
    let first := match s with
      | .index i => "[" ++ showInt i ++ "]"
      | .key k => k
    first ++ (rest.foldl (fun acc s => acc ++ match s with
      | .index i => "[" ++ showInt i ++ "]"
      | .key k => "." ++ k) "")

/-- A refusal together with the path of the innermost value being read when it arose,
once that is known. -/
structure Refusal where
  error : ReadError
  path : Option (List Step)
  deriving Repr

/-- Reading: a computation on the cursor that may refuse; the cursor stays where the
refusal was found. -/
abbrev Reader := ExceptT Refusal (StateM Cursor)

namespace Reader

/-- The next byte, unread. -/
def peek : Reader (Option UInt8) := do return (← get).rest.head?

/-- Reads the next byte. -/
def eat : Reader Unit := modify Cursor.consume

/-- Reads and returns the next byte. -/
def next : Reader (Option UInt8) := do
  let b := (← get).rest.head?
  modify Cursor.consume
  return b

/-- The place just past the last byte read. -/
def here : Reader Position := do
  let c ← get
  return ⟨c.line, c.column⟩

/-- The place just past the next byte, or here at the end of the text. -/
def ahead : Reader Position := do
  let c ← get
  match c.rest with
  | [] => return ⟨c.line, c.column⟩
  | b :: _ => return if b == 10 then ⟨c.line + 1, 0⟩ else ⟨c.line, c.column + 1⟩

/-- Refuses with a fault of form, here. -/
def fail {α : Type} (f : FormFault) : Reader α := do
  throw ⟨⟨.form f, some (← here)⟩, none⟩

/-- Refuses with a fault of form, ahead. -/
def failAhead {α : Type} (f : FormFault) : Reader α := do
  throw ⟨⟨.form f, some (← ahead)⟩, none⟩

/-- Refuses with a fault of content, placed here. -/
def failDataHere {α : Type} (f : DataFault) : Reader α := do
  throw ⟨⟨.data f, some (← here)⟩, none⟩

/-- Refuses with a fault of content, not yet placed. -/
def failData {α : Type} (f : DataFault) : Reader α :=
  throw ⟨⟨.data f, none⟩, none⟩

/-- Runs a reading and returns its outcome, keeping the cursor where it stopped. -/
def attempt {α : Type} (r : Reader α) : Reader (Except Refusal α) :=
  ExceptT.lift r.run

/-- The outcome of a reading, where a refusal without a place is placed here. -/
def placed {α : Type} (r : Except Refusal α) : Reader α := do
  match r with
  | .ok a => return a
  | .error e =>
    match e.error.place with
    | some _ => throw e
    | none => throw { e with error := { e.error with place := some (← here) } }

/-- Runs a reading for the value at `path`, so that a refusal from it that has no path yet
gets this one. -/
def tracked {α : Type} (path : List Step) (r : Reader α) : Reader α :=
  tryCatch r fun e => throw (match e.path with
    | some _ => e
    | none => { e with path := some path })

/-- Whether a byte is a blank between tokens. -/
def isBlankByte (b : UInt8) : Bool := b == 32 || b == 10 || b == 9 || b == 13

/-- The cursor after the blanks at the front of `rest`, which begins at the given line and
column. -/
def skipBlanksFrom : List UInt8 → Nat → Nat → Cursor
  | [], line, column => ⟨[], line, column⟩
  | b :: r, line, column =>
    if isBlankByte b then
      if b == 10 then skipBlanksFrom r (line + 1) 0 else skipBlanksFrom r line (column + 1)
    else ⟨b :: r, line, column⟩

/-- The cursor after the blanks at its front. -/
def skipBlanks (c : Cursor) : Cursor := skipBlanksFrom c.rest c.line c.column

/-- Reads the blanks at the front and returns the next byte, unread. -/
def skipBlank : Reader (Option UInt8) := do
  modify skipBlanks
  peek

/-- Whether a byte is an ASCII digit. -/
def isDigit (b : UInt8) : Bool := 48 ≤ b && b ≤ 57

/-- The value of an ASCII digit. -/
def digit (b : UInt8) : Nat := b.toNat - 48

/-- Reads the bytes of `word` one by one, refusing at the first that differs. -/
def expectWord : List UInt8 → Reader Unit
  | [] => pure ()
  | w :: ws => do
    match ← next with
    | none => fail .eofValue
    | some b => if b == w then expectWord ws else fail .expectedIdent

/-! ## Numbers -/

/-- The largest natural number of 64 bits. -/
def natMax : Nat := Nat.pow 2 64 - 1

/-- Whether `acc * 10 + d` would pass `bound`. -/
def overflows (acc d bound : Nat) : Bool := acc * 10 + d > bound

/-- A number as read: a natural number of 64 bits, a negative 64-bit integer, or a double. -/
inductive Num where
  | unsigned (n : Nat)
  | signed (n : Int)
  | float (f : Float)

/-- The document leaf of a number. -/
def Num.toJson : Num → Json
  | .unsigned n => .int n
  | .signed n => .int n
  | .float f => .float f.toBits

/-- What a number is, as something found where it was not wanted. -/
def Num.unexpected : Num → Unexpected
  | .unsigned n => .unsigned n
  | .signed n => .signed n
  | .float f => .float f.toBits

/-- The powers of ten from `10^0` to `10^308`, each the nearest double. -/
def powersOfTen : Array Float :=
  (List.range 309).toArray.map fun (k : Nat) => Float.ofBits (Decimal.nearestBits 1 (k : Int))

/-- The power of ten `10^k` for `k ≤ 308`. -/
def powerOfTen (k : Nat) : Float := powersOfTen.getD k 1

/-- The double `significand · 10^exponent`, made as the nearest double to the significand
times or divided by a power of ten; exponents beyond 308 are brought in by dividing by
`10^308` first. A product that overflows is out of range. -/
def composeFloat (positive : Bool) (significand : Nat) (exponent : Int) : Reader Float := do
  let base := Decimal.ofNat significand
  let f ← go base exponent 8
  return if positive then f else -f
where
  go (f : Float) (e : Int) : Nat → Reader Float
    | 0 => return f
    | fuel + 1 =>
      if e.natAbs ≤ 308 then
        if 0 ≤ e then
          let g := f * powerOfTen e.toNat
          if g.isInf then fail .numberOutOfRange else return g
        else return f / powerOfTen e.natAbs
      else if f == 0 then return f
      else if 0 ≤ e then fail .numberOutOfRange
      else go (f / powerOfTen 308) (e + 308) fuel

/-- The 32-bit signed bounds of a decimal exponent. -/
def exponentMax : Int := 2147483647

/-- Adds to an exponent, saturating at the 32-bit signed bounds. -/
def saturate (e : Int) : Int :=
  if e > exponentMax then exponentMax else if e < -exponentMax - 1 then -exponentMax - 1 else e

/-- Skips the digits at the front. -/
def skipDigits : Nat → Reader Unit
  | 0 => pure ()
  | fuel + 1 => do
    match ← peek with
    | some b => if isDigit b then do eat; skipDigits fuel else pure ()
    | none => pure ()

/-- The exponent part, after the `e`, of a double with the given significand. -/
def readExponent (positive : Bool) (significand : Nat) (start : Int) (fuel : Nat) :
    Reader Float := do
  eat
  let positiveExp ← do
    match ← peek with
    | some 43 => eat; pure true
    | some 45 => eat; pure false
    | _ => pure true
  match ← next with
  | none => fail .eofValue
  | some b =>
    if !isDigit b then fail .invalidNumber
    else
      let rec loop : Nat → Nat → Reader Float
        | 0, exp => finish positiveExp exp
        | f + 1, exp => do
          match ← peek with
          | some c =>
            if isDigit c then do
              eat
              if overflows exp (digit c) exponentMax.toNat then
                if significand != 0 && positiveExp then fail .numberOutOfRange
                else
                  skipDigits fuel
                  return if positive then 0.0 else -0.0
              else loop f (exp * 10 + digit c)
            else finish positiveExp exp
          | none => finish positiveExp exp
      loop fuel (digit b)
where
  finish (positiveExp : Bool) (exp : Nat) : Reader Float :=
    composeFloat positive significand (saturate (if positiveExp then start + exp else start - exp))

/-- The digits after a point that would overflow the significand are skipped. -/
def readDecimalOverflow (positive : Bool) (significand : Nat) (exponent : Int) (fuel : Nat) :
    Reader Float := do
  skipDigits fuel
  match ← peek with
  | some 101 | some 69 => readExponent positive significand exponent fuel
  | _ => composeFloat positive significand exponent

/-- The fraction part, at the point, of a double whose integer digits gave `significand`. -/
def readDecimal (positive : Bool) (significand : Nat) (before : Int) (fuel : Nat) :
    Reader Float := do
  eat
  let rec loop : Nat → Nat → Int → Reader Float
    | 0, sig, after => close sig after
    | f + 1, sig, after => do
      match ← peek with
      | some c =>
        if isDigit c then
          if overflows sig (digit c) natMax then
            readDecimalOverflow positive sig (before + after) fuel
          else do
            eat
            loop f (sig * 10 + digit c) (after - 1)
        else close sig after
      | none => close sig after
  loop fuel significand 0
where
  close (sig : Nat) (after : Int) : Reader Float := do
    if after == 0 then
      match ← peek with
      | some _ => failAhead .invalidNumber
      | none => failAhead .eofValue
    else
      match ← peek with
      | some 101 | some 69 => readExponent positive sig (before + after) fuel
      | _ => composeFloat positive sig (before + after)

/-- The integer digits beyond what a 64-bit significand holds, each raising the exponent. -/
def readLongInteger (positive : Bool) (significand : Nat) (fuel : Nat) : Reader Float :=
  let rec loop : Nat → Int → Reader Float
    | 0, exp => composeFloat positive significand exp
    | f + 1, exp => do
      match ← peek with
      | some c =>
        if isDigit c then do eat; loop f (exp + 1)
        else if c == 46 then readDecimal positive significand exp fuel
        else if c == 101 || c == 69 then readExponent positive significand exp fuel
        else composeFloat positive significand exp
      | none => composeFloat positive significand exp
  loop fuel 0

/-- What follows the integer digits: a fraction, an exponent, or the end of an integer. -/
def finishNumber (positive : Bool) (significand : Nat) (fuel : Nat) : Reader Num := do
  match ← peek with
  | some 46 => return .float (← readDecimal positive significand 0 fuel)
  | some 101 | some 69 => return .float (← readExponent positive significand 0 fuel)
  | _ =>
    if positive then return .unsigned significand
    else if significand == 0 then return .float (-(0.0 : Float))
    else if significand ≤ Nat.pow 2 63 then return .signed (-(significand : Int))
    else return .float (-(Decimal.ofNat significand))

/-- A number, after its optional minus sign has been read. -/
def readNumber (positive : Bool) (fuel : Nat) : Reader Num := do
  match ← next with
  | none => fail .eofValue
  | some b =>
    if b == 48 then
      match ← peek with
      | some c => if isDigit c then failAhead .invalidNumber else finishNumber positive 0 fuel
      | none => finishNumber positive 0 fuel
    else if isDigit b then
      let rec loop : Nat → Nat → Reader Num
        | 0, sig => finishNumber positive sig fuel
        | f + 1, sig => do
          match ← peek with
          | some c =>
            if isDigit c then
              if overflows sig (digit c) natMax then
                return .float (← readLongInteger positive sig fuel)
              else do
                eat
                loop f (sig * 10 + digit c)
            else finishNumber positive sig fuel
          | none => finishNumber positive sig fuel
      loop fuel (digit b)
    else fail .invalidNumber

/-! ## Strings -/

/-- The value of a hex digit. -/
def hexValue? (b : UInt8) : Option Nat :=
  if 48 ≤ b && b ≤ 57 then some (b.toNat - 48)
  else if 97 ≤ b && b ≤ 102 then some (b.toNat - 87)
  else if 65 ≤ b && b ≤ 70 then some (b.toNat - 55)
  else none

/-- Four hex digits of a `\u` escape. All four bytes are read before they are checked; when
fewer than four are left, all of them are read and the string is unfinished. -/
def readHex4 : Reader Nat := do
  let c ← get
  match c.rest with
  | a :: b :: d :: e :: _ =>
    eat; eat; eat; eat
    match hexValue? a, hexValue? b, hexValue? d, hexValue? e with
    | some w, some x, some y, some z => return ((w * 16 + x) * 16 + y) * 16 + z
    | _, _, _, _ => fail .invalidEscape
  | rest =>
    for _ in rest do eat
    fail .eofString

/-- The UTF-8 bytes of a code point, in reverse order, put before `acc`. -/
def pushCodePoint (n : Nat) (acc : List UInt8) : List UInt8 :=
  (String.utf8EncodeChar (Char.ofNat n)).reverse ++ acc

/-- The rest of a `\u` escape, after the `u`: a character, or a surrogate pair. -/
def readUnicodeEscape (acc : List UInt8) : Reader (List UInt8) := do
  let n ← readHex4
  if 0xDC00 ≤ n && n ≤ 0xDFFF then fail .loneSurrogate
  else if n < 0xD800 || n > 0xDBFF then return pushCodePoint n acc
  else
    match ← peek with
    | none => fail .eofString
    | some b =>
      if b != 92 then do eat; fail .unexpectedEndOfHexEscape
      else
        eat
        match ← peek with
        | none => fail .eofString
        | some u =>
          if u != 117 then do eat; fail .unexpectedEndOfHexEscape
          else
            eat
            let n2 ← readHex4
            if n2 < 0xDC00 || n2 > 0xDFFF then fail .loneSurrogate
            else return pushCodePoint ((((n - 0xD800) * 1024) + (n2 - 0xDC00)) + 0x10000) acc

/-- An escape, after its backslash, put before `acc`. -/
def readEscape (acc : List UInt8) : Reader (List UInt8) := do
  match ← next with
  | none => fail .eofString
  | some b =>
    if b == 34 || b == 92 || b == 47 then return b :: acc
    else if b == 98 then return 8 :: acc
    else if b == 102 then return 12 :: acc
    else if b == 110 then return 10 :: acc
    else if b == 114 then return 13 :: acc
    else if b == 116 then return 9 :: acc
    else if b == 117 then readUnicodeEscape acc
    else fail .invalidEscape

/-- The text of the bytes of a string. -/
def decodeText (bytes : List UInt8) : Reader String :=
  match String.fromUTF8? (ByteArray.mk bytes.toArray) with
  | some s => return s
  | none => fail .invalidUnicode

/-- A string, after its opening quote. -/
def readString (fuel : Nat) : Reader String :=
  let rec loop : Nat → List UInt8 → Reader String
    | 0, _ => fail .eofString
    | f + 1, acc => do
      match ← peek with
      | none => fail .eofString
      | some b =>
        if b == 34 then do eat; decodeText acc.reverse
        else if b == 92 then do eat; loop f (← readEscape acc)
        else if b < 32 then do eat; fail .controlCharacter
        else do eat; loop f (b :: acc)
  loop fuel []

/-! ## Skipping a value -/

/-- An escape of a skipped string, after its backslash. -/
def skipEscape : Reader Unit := do
  match ← next with
  | none => fail .eofString
  | some b =>
    if b == 34 || b == 92 || b == 47 || b == 98 || b == 102 || b == 110 || b == 114 || b == 116 then
      pure ()
    else if b == 117 then do let _ ← readHex4; pure ()
    else fail .invalidEscape

/-- A skipped string, after its opening quote. A control character is refused before it
is read. -/
def skipString : Nat → Reader Unit
  | 0 => fail .eofString
  | f + 1 => do
    match ← peek with
    | none => fail .eofString
    | some b =>
      if b == 34 then eat
      else if b == 92 then do eat; skipEscape; skipString f
      else if b < 32 then fail .controlCharacter
      else do eat; skipString f

/-- The exponent of a skipped number, at its `e`. -/
def skipExponent (fuel : Nat) : Reader Unit := do
  eat
  match ← peek with
  | some 43 | some 45 => eat
  | _ => pure ()
  match ← next with
  | some b => if isDigit b then skipDigits fuel else fail .invalidNumber
  | none => fail .invalidNumber

/-- A skipped number, after its optional minus sign. -/
def skipNumber (fuel : Nat) : Reader Unit := do
  match ← next with
  | some 48 =>
    match ← peek with
    | some c => if isDigit c then failAhead .invalidNumber else pure ()
    | none => pure ()
  | some b => if isDigit b then skipDigits fuel else fail .invalidNumber
  | none => fail .invalidNumber
  match ← peek with
  | some 46 =>
    eat
    match ← peek with
    | some c =>
      if isDigit c then
        skipDigits fuel
        match ← peek with
        | some 101 | some 69 => skipExponent fuel
        | _ => pure ()
      else failAhead .invalidNumber
    | none => failAhead .invalidNumber
  | some 101 | some 69 => skipExponent fuel
  | _ => pure ()

/-- Passes over a value, checking its form. Open containers are kept on a stack; a skipped
value knows no depth limit. -/
def skipValue (fuel : Nat) : Reader Unit :=
  let rec scalar (b : UInt8) : Reader (Option UInt8) := do
    if b == 110 then do eat; expectWord [117, 108, 108]; pure none
    else if b == 116 then do eat; expectWord [114, 117, 101]; pure none
    else if b == 102 then do eat; expectWord [97, 108, 115, 101]; pure none
    else if b == 45 then do eat; skipNumber fuel; pure none
    else if isDigit b then do skipNumber fuel; pure none
    else if b == 34 then do eat; skipString fuel; pure none
    else if b == 91 || b == 123 then do eat; pure (some b)
    else failAhead .expectedValue
  -- `closeLoop` reads closing brackets and commas after a value; it returns the frame of
  -- the container that continues, or none when the outermost one has closed
  let rec closeLoop : Nat → Bool → UInt8 → List UInt8 → Reader (Option (UInt8 × List UInt8))
    | 0, _, _, _ => fail .eofValue
    | f + 1, acceptComma, frame, stack => do
      match ← skipBlank with
      | some 44 =>
        if acceptComma then do eat; return some (frame, stack)
        else return some (frame, stack)
      | some 93 =>
        if frame == 91 then do
          eat
          match stack with
          | [] => return none
          | fr :: st => closeLoop f true fr st
        else if acceptComma then failAhead .expectedObjectCommaOrEnd
        else return some (frame, stack)
      | some 125 =>
        if frame == 123 then do
          eat
          match stack with
          | [] => return none
          | fr :: st => closeLoop f true fr st
        else if acceptComma then failAhead .expectedListCommaOrEnd
        else return some (frame, stack)
      | some _ =>
        if acceptComma then
          failAhead (if frame == 91 then .expectedListCommaOrEnd else .expectedObjectCommaOrEnd)
        else return some (frame, stack)
      | none => failAhead (if frame == 91 then .eofList else .eofObject)
  let rec loop : Nat → Option UInt8 → List UInt8 → Reader Unit
    | 0, _, _ => fail .eofValue
    | f + 1, enclosing, stack => do
      let b ← skipBlank
      match b with
      | none => failAhead .eofValue
      | some b =>
        let stack := match enclosing with | some e => e :: stack | none => stack
        let opened ← scalar b
        let cont ← match opened with
          | some frame => closeLoop f false frame stack
          | none =>
            match stack with
            | [] => pure none
            | fr :: st => closeLoop f true fr st
        match cont with
        | none => pure ()
        | some (frame, stack) =>
          if frame == 123 then
            match ← skipBlank with
            | some 34 => eat
            | some _ => failAhead .keyMustBeString
            | none => failAhead .eofObject
            skipString fuel
            match ← skipBlank with
            | some 58 => eat
            | some _ => failAhead .expectedColon
            | none => failAhead .eofObject
          loop f (some frame) stack
  loop fuel none []

end Reader

end Tintbook.Json
