import Tintbook.Json.Reader
/-!
# Reading a JSON text against a shape

A *shape* says what a text is expected to hold: a string, a 64-bit integer, an optional
value, a list, a record with named fields, a choice between shapes, or anything at all.
Reading a text against a shape gives the value it holds, laid out after the shape: a record
becomes an object of exactly its fields in their declared order, with defaults put in for
missing fields that have one; a choice becomes the value of the first alternative that
takes it; anything becomes a free-form value whose objects hold each key once, in key order.

The text is read from the front, and the first fault met is the one reported, whether of
form or of content; so a field of the wrong type is reported even when the text is broken
further on. A record may also be written as a list of its field values in order. A record
rejects a field given twice and one that is missing and has no default; it passes over
fields it does not know. A choice first reads the whole value and then offers it to its
alternatives in turn.

## What this module delivers

- `Shape`: the shapes.
- `Shape.conform`: whether a value read as anything fits a shape, and the value laid out.
- `Json.freeForm`: a value read as anything, held as a free-form value.
- `Reader.readAny`, `Reader.readAs`: reading a value, free or against a shape.
- `Shape.read`: reading a whole text against a shape.
-/

set_option autoImplicit false

namespace Tintbook.Json

/-- What a text is expected to hold. -/
inductive Shape where
  /-- A string. -/
  | text
  /-- An integer of the 64-bit signed range. -/
  | int64
  /-- `null` for nothing, or a value of the inner shape. -/
  | optional (s : Shape)
  /-- A list of values of the inner shape. -/
  | list (s : Shape)
  /-- A record with the named fields; each field has a shape, and a default when it may be
  left out. -/
  | record (name : String) (fields : List (String × Shape × Option Json))
  /-- The first of the alternatives that takes the value. -/
  | choice (name : String) (alternatives : List Shape)
  /-- Any value. -/
  | anything

mutual
/-- A value read as anything, held as a free-form value: each object keeps each key once,
with its last value, in key order. -/
def freeForm : Json → Json
  | .arr xs => .arr (freeFormItems xs)
  | .obj ms => .obj (sortedObject (freeFormMembers ms))
  | j => j

/-- The items of a list, held as free-form values. -/
def freeFormItems : List Json → List Json
  | [] => []
  | x :: xs => freeForm x :: freeFormItems xs

/-- The members of an object, their values held as free-form values. -/
def freeFormMembers : List (String × Json) → List (String × Json)
  | [] => []
  | (k, v) :: ms => (k, freeForm v) :: freeFormMembers ms
end

namespace Shape

/-- The number of fields of a record shape, as named in messages. -/
def fieldCount (fields : List (String × Shape × Option Json)) : Nat := fields.length

/-- The words for what a record shape expects when written as a list. -/
def recordExpectation (name : String) (fields : List (String × Shape × Option Json)) : String :=
  "struct " ++ name ++ " with " ++ showInt (fieldCount fields) ++ " elements"

/-- Whether a value read as anything fits the shape, and the value laid out after it. A
record written as a list must have no more items than fields; one written as an object must
not repeat a field; a field it does not know is passed over. -/
def conform : Shape → Json → Option Json
  | .text, .str s => some (.str s)
  | .text, _ => none
  | .int64, .int n => if int64Min ≤ n && n ≤ int64Max then some (.int n) else none
  | .int64, _ => none
  | .optional _, .null => some .null
  | .optional s, v => conform s v
  | .list s, .arr xs => (xs.mapM fun x => conform s x).map .arr
  | .list _, _ => none
  | .record _ fields, .arr xs =>
    if xs.length > fields.length then none
    else
      let items : List (Option Json) := (List.range fields.length).map fun i => xs[i]?
      ((fields.attach.zip items).mapM fun (p : {f // f ∈ fields} × Option Json) =>
        match p with
        | (⟨(k, s, _), _h⟩, some x) => (conform s x).map (k, ·)
        | (⟨(k, _, d), _⟩, none) => d.map (k, ·)).map .obj
  | .record _ fields, .obj ms =>
    let known := ms.filter fun (k, _) => fields.any (·.1 == k)
    let keys := known.map (·.1)
    if keys.length != keys.eraseDups.length then none
    else
      (fields.attach.mapM fun (p : {f // f ∈ fields}) =>
        match p, field? known p.1.1 with
        | ⟨(k, s, _), _h⟩, some x => (conform s x).map (k, ·)
        | ⟨(k, _, d), _⟩, none => d.map (k, ·)).map .obj
  | .record _ _, _ => none
  | .choice _ alts, v => alts.attach.findSome? fun ⟨a, _h⟩ => conform a v
  | .anything, v => some (freeForm v)
termination_by s => sizeOf s
decreasing_by
  all_goals
    try simp_wf
    try omega
  all_goals
    have := List.sizeOf_lt_of_mem ‹_ ∈ _›
    simp_all
    omega

end Shape

namespace Reader

/-- The first refusal of a reading and the closing of its container. -/
def firstOf {α : Type} (r : Except Refusal α) (close : Except Refusal Unit) : Except Refusal α :=
  match r, close with
  | .ok a, .ok () => .ok a
  | .error e, _ => .error e
  | .ok _, .error e => .error e

/-- The closing of a list: a bracket, where a comma before it is refused. -/
def endList : Reader Unit := do
  match ← skipBlank with
  | some 93 => eat
  | some 44 =>
    eat
    match ← skipBlank with
    | some 93 => failAhead .trailingComma
    | _ => failAhead .trailingCharacters
  | some _ => failAhead .trailingCharacters
  | none => failAhead .eofList

/-- The closing of an object: a brace. -/
def endObject : Reader Unit := do
  match ← skipBlank with
  | some 125 => eat
  | some 44 => failAhead .trailingComma
  | some _ => failAhead .trailingCharacters
  | none => failAhead .eofObject

/-- The colon after a member's name. -/
def colon : Reader Unit := do
  match ← skipBlank with
  | some 58 => eat
  | some _ => failAhead .expectedColon
  | none => failAhead .eofObject

/-- Moves to the next item of a list: `none` at its closing bracket, else the first byte of
the item, after the comma that separates it from the one before. -/
def nextItem (first : Bool) : Reader (Option UInt8) := do
  let b ← skipBlank
  let start ← match b with
    | some 93 => return none
    | some 44 =>
      if first then pure b
      else do eat; skipBlank
    | some _ => if first then pure b else failAhead .expectedListCommaOrEnd
    | none => failAhead .eofList
  match start with
  | some 93 => failAhead .trailingComma
  | some c => return some c
  | none => failAhead .eofValue

/-- Moves to the next member of an object and reads its name: `none` at the closing brace. -/
def nextKey (first : Bool) (fuel : Nat) : Reader (Option String) := do
  let b ← skipBlank
  let start ← match b with
    | some 125 => return none
    | some 44 =>
      if first then pure b
      else do eat; skipBlank
    | some _ => if first then pure b else failAhead .expectedObjectCommaOrEnd
    | none => failAhead .eofObject
  match start with
  | some 34 => eat; return some (← readString fuel)
  | some 125 => failAhead .trailingComma
  | some _ => failAhead .keyMustBeString
  | none => failAhead .eofValue

/-- Refuses the value at the front as not of the expected kind, after reading it when it is
a leaf, and places the refusal just past it. A malformed leaf is refused for its form. -/
def refuseKind {α : Type} (expected : String) (fuel : Nat) : Reader α := do
  match ← peek with
  | some 110 => eat; expectWord [117, 108, 108]; failDataHere (.invalidType .null expected)
  | some 116 => eat; expectWord [114, 117, 101]; failDataHere (.invalidType (.bool true) expected)
  | some 102 =>
    eat; expectWord [97, 108, 115, 101]; failDataHere (.invalidType (.bool false) expected)
  | some 45 =>
    eat
    let n ← readNumber false fuel
    failDataHere (.invalidType n.unexpected expected)
  | some 34 =>
    eat
    let s ← readString fuel
    failDataHere (.invalidType (.str s) expected)
  | some 91 => failDataHere (.invalidType .seq expected)
  | some 123 => failDataHere (.invalidType .map expected)
  | some b =>
    if isDigit b then do
      let n ← readNumber true fuel
      failDataHere (.invalidType n.unexpected expected)
    else failAhead .expectedValue
  | none => failAhead .expectedValue

/-- Enters a container whose opening byte is next, when the depth allows one more. -/
def enter (depth : Nat) : Reader Unit := do
  if depth ≤ 1 then failAhead .recursionLimit else eat

mutual
/-- A value of any kind at `path`, with members in order and duplicates kept. -/
def readAny (path : List Step) : Nat → Nat → Reader Json
  | _, 0 => fail .recursionLimit
  | depth, fuel + 1 => tracked path do
    match ← skipBlank with
    | none => failAhead .eofValue
    | some b =>
      if b == 110 then do eat; expectWord [117, 108, 108]; pure .null
      else if b == 116 then do eat; expectWord [114, 117, 101]; pure (.bool true)
      else if b == 102 then do eat; expectWord [97, 108, 115, 101]; pure (.bool false)
      else if b == 45 then do eat; return (← readNumber false fuel).toJson
      else if isDigit b then return (← readNumber true fuel).toJson
      else if b == 34 then do eat; return .str (← readString fuel)
      else if b == 91 then do
        enter depth
        let items ← readAnyItems path (depth - 1) fuel true 0 []
        endList
        return .arr items
      else if b == 123 then do
        enter depth
        let members ← readAnyMembers path (depth - 1) fuel true []
        endObject
        return .obj members
      else failAhead .expectedValue

/-- The items of a list read as anything, after the opening bracket. -/
def readAnyItems (path : List Step) (depth : Nat) :
    Nat → Bool → Nat → List Json → Reader (List Json)
  | 0, _, _, _ => fail .recursionLimit
  | fuel + 1, first, i, acc => do
    let item ← tracked (path ++ [.index i]) do
      match ← nextItem first with
      | none => pure none
      | some _ => return some (← readAny (path ++ [.index i]) depth fuel)
    match item with
    | none => return acc.reverse
    | some v => readAnyItems path depth fuel false (i + 1) (v :: acc)

/-- The members of an object read as anything, after the opening brace. -/
def readAnyMembers (path : List Step) (depth : Nat) :
    Nat → Bool → List (String × Json) → Reader (List (String × Json))
  | 0, _, _ => fail .recursionLimit
  | fuel + 1, first, acc => do
    match ← nextKey first fuel with
    | none => return acc.reverse
    | some k =>
      let v ← tracked (path ++ [.key k]) do
        colon
        readAny (path ++ [.key k]) depth fuel
      readAnyMembers path depth fuel false ((k, v) :: acc)
end

/-- A string value. -/
def readText (fuel : Nat) : Reader Json := do
  match ← skipBlank with
  | none => failAhead .eofValue
  | some 34 => eat; return .str (← readString fuel)
  | some _ => refuseKind "a string" fuel

/-- A number as a 64-bit signed integer. -/
def asInt64 (n : Num) : Reader Json :=
  match n with
  | .unsigned k =>
    if (k : Int) ≤ int64Max then return .int k
    else failDataHere (.invalidValue (.unsigned k) "i64")
  | .signed k => return .int k
  | .float f => failDataHere (.invalidType (.float f.toBits) "i64")

/-- A 64-bit signed integer value. -/
def readInt64 (fuel : Nat) : Reader Json := do
  match ← skipBlank with
  | none => failAhead .eofValue
  | some 45 => eat; asInt64 (← readNumber false fuel)
  | some b =>
    if isDigit b then asInt64 (← readNumber true fuel)
    else refuseKind "i64" fuel

mutual
/-- A value of the given shape at `path`. -/
def readAs (path : List Step) : Nat → Nat → Shape → Reader Json
  | _, 0, _ => fail .recursionLimit
  | depth, fuel + 1, shape => tracked path do
    match shape with
    | .text => readText fuel
    | .int64 => readInt64 fuel
    | .optional s =>
      match ← skipBlank with
      | some 110 => eat; expectWord [117, 108, 108]; pure .null
      | _ => readAs path depth fuel s
    | .list s =>
      match ← skipBlank with
      | none => failAhead .eofValue
      | some 91 =>
        enter depth
        let r ← attempt (readItemsAs path (depth - 1) fuel s true 0 [])
        let e ← attempt endList
        placed (firstOf r e)
      | some _ => refuseKind "a sequence" fuel
    | .record name fields =>
      match ← skipBlank with
      | none => failAhead .eofValue
      | some 91 =>
        enter depth
        let r ← attempt (readFieldsInOrder path (depth - 1) fuel name fields fields true 0 [])
        let e ← attempt endList
        placed (firstOf r e)
      | some 123 =>
        enter depth
        let r ← attempt (readFieldsByName path (depth - 1) fuel fields true
          (fields.map fun _ => none))
        let e ← attempt endObject
        placed (firstOf r e)
      | some _ => refuseKind ("struct " ++ name) fuel
    | .choice name alts =>
      let v ← readAny path depth fuel
      match (Shape.choice name alts).conform v with
      | some w => return w
      | none => failData (.noAlternative name)
    | .anything => return freeForm (← readAny path depth fuel)

/-- The items of a list of the given shape, after the opening bracket. -/
def readItemsAs (path : List Step) (depth : Nat) :
    Nat → Shape → Bool → Nat → List Json → Reader Json
  | 0, _, _, _, _ => fail .recursionLimit
  | fuel + 1, s, first, i, acc => do
    let item ← tracked (path ++ [.index i]) do
      match ← nextItem first with
      | none => pure none
      | some _ => return some (← readAs (path ++ [.index i]) depth fuel s)
    match item with
    | none => return .arr acc.reverse
    | some v => readItemsAs path depth fuel s false (i + 1) (v :: acc)

/-- The fields of a record written as a list, in their declared order. -/
def readFieldsInOrder (path : List Step) (depth : Nat) :
    Nat → String → List (String × Shape × Option Json) → List (String × Shape × Option Json) →
      Bool → Nat → List (String × Json) → Reader Json
  | 0, _, _, _, _, _, _ => fail .recursionLimit
  | _, _, _, [], _, _, acc => return .obj acc.reverse
  | fuel + 1, name, all, (k, s, d) :: rest, first, i, acc => do
    let item ← tracked (path ++ [.index i]) do
      match ← nextItem first with
      | none => pure none
      | some _ => return some (← readAs (path ++ [.index i]) depth fuel s)
    match item with
    | some v => readFieldsInOrder path depth fuel name all rest false (i + 1) ((k, v) :: acc)
    | none =>
      match d with
      | some v => readFieldsInOrder path depth fuel name all rest first (i + 1) ((k, v) :: acc)
      | none => failData (.invalidLength i (Shape.recordExpectation name all))

/-- The fields of a record written as an object, by name; `slots` holds what has been read
of each declared field. -/
def readFieldsByName (path : List Step) (depth : Nat) :
    Nat → List (String × Shape × Option Json) → Bool → List (Option Json) → Reader Json
  | 0, _, _, _ => fail .recursionLimit
  | fuel + 1, fields, first, slots => do
    match ← nextKey first fuel with
    | none =>
      let filled : Except String (List (String × Json)) := (fields.zip slots).mapM fun ((k, _, d), slot) =>
        match slot, d with
        | some v, _ => .ok (k, v)
        | none, some v => .ok (k, v)
        | none, none => .error k
      match filled with
      | .ok members => return .obj members
      | .error k => failData (.missingField k)
    | some k =>
      match fields.findIdx? (·.1 == k) with
      | some i =>
        match slots[i]? with
        | some (some _) => failData (.duplicateField k)
        | _ =>
          let s := (fields[i]?.map (·.2.1)).getD .anything
          let v ← tracked (path ++ [.key k]) do
            colon
            readAs (path ++ [.key k]) depth fuel s
          readFieldsByName path depth fuel fields false (slots.set i (some v))
      | none =>
        tracked (path ++ [.key k]) do
          colon
          skipValue fuel
        readFieldsByName path depth fuel fields false slots
end

end Reader

/-- Reads a whole text against a shape: the value, then nothing but blanks. -/
def Shape.read (shape : Shape) (text : String) : Except Refusal Json :=
  let bytes := text.toUTF8.toList
  let fuel := 4 * bytes.length + 16
  let whole : Reader Json := do
    let v ← Reader.readAs [] 128 fuel shape
    match ← Reader.skipBlank with
    | some _ => Reader.failAhead .trailingCharacters
    | none => return v
  (whole.run.run (Cursor.start bytes)).1

end Tintbook.Json
