/-!
# JSON documents

A JSON document as this library reads and writes it. Numbers keep the kind they were read
as: an integer of the 64-bit range, or a double kept by its bits (so that documents have
decidable equality). Objects keep their members in order, duplicates included; the
`Json.sortedObject` view of an object keeps the last value of each key, in key order, which
is how a document is held once it has been read as a free-form value.

## What this module delivers

- `Json`: the documents.
- `Json.sortedObject`: members in key order, the last of equal keys winning.
- `Json.field?`: the value of a member of an object.
-/

set_option autoImplicit false

namespace Tintbook

/-- A JSON document. -/
inductive Json where
  | null
  | bool (b : Bool)
  /-- An integer: a natural number below `2^64`, or a negative number of the 64-bit range. -/
  | int (n : Int)
  /-- A double, by its bits. -/
  | float (bits : UInt64)
  | str (s : String)
  | arr (items : List Json)
  | obj (members : List (String × Json))
  deriving Inhabited, Repr

namespace Json

/-- Puts a member into a list of members sorted by key, replacing the value of an equal key. -/
def insertSorted (k : String) (v : Json) : List (String × Json) → List (String × Json)
  | [] => [(k, v)]
  | (k', v') :: rest =>
    if k < k' then (k, v) :: (k', v') :: rest
    else if k == k' then (k, v) :: rest
    else (k', v') :: insertSorted k v rest

/-- The members in key order, each key once with its last value. -/
def sortedObject (members : List (String × Json)) : List (String × Json) :=
  members.foldl (fun acc (k, v) => insertSorted k v acc) []

/-- The value of the first member named `k`. -/
def field? (members : List (String × Json)) (k : String) : Option Json :=
  (members.find? (·.1 == k)).map (·.2)

end Json

end Tintbook
