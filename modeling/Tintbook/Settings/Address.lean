import Tintbook.Text.Integer
/-!
# Listen addresses

The server listens on `host:port`, which must be a socket address: an IPv4 address of four
decimal octets (no leading zeros, each at most 255) and a port, or an IPv6 address in
brackets, optionally with a numeric zone after `%`, and a port. Host names are not
addresses. An address is written back with its IPv6 part in the shortest form: small hex
digits, the longest run of two or more zero groups written `::`, and an IPv4-mapped
address as `::ffff:` and its dotted quad.

## What this module delivers

- `SocketAddress`, with `SocketAddress.render`.
- `SocketAddress.parse?`: the address a text names, if any.
-/

set_option autoImplicit false

namespace Tintbook

/-- A socket address: an IPv4 or IPv6 address with a port. -/
inductive SocketAddress where
  | v4 (octets : List Nat) (port : Nat)
  | v6 (groups : List Nat) (zone : Nat) (port : Nat)
  deriving DecidableEq, Repr

namespace Address

/-- Reading state: the unread characters. -/
abbrev Reading := StateT (List Char) Option

/-- Runs a reading, and on failure leaves the state as it was. -/
def attempt {α : Type} (r : Reading α) : Reading (Option α) := fun s =>
  match r s with
  | some (a, s') => some (some a, s')
  | none => some (none, s)

/-- Reads the given character. -/
def expect (c : Char) : Reading Unit := fun s =>
  match s with
  | d :: r => if d == c then some ((), r) else none
  | [] => none

/-- The value of a digit in a radix. -/
def digitIn (radix : Nat) (c : Char) : Option Nat :=
  let v := if '0' ≤ c && c ≤ '9' then c.toNat - 48
    else if 'a' ≤ c && c ≤ 'z' then c.toNat - 87
    else if 'A' ≤ c && c ≤ 'Z' then c.toNat - 55
    else 99
  if v < radix then some v else none

/-- A number in a radix: at least one digit, at most `maxDigits` when given, within `bound`,
and with no leading zero unless `zeroPrefix`. -/
def number (radix : Nat) (maxDigits : Option Nat) (zeroPrefix : Bool) (bound : Nat) :
    Reading Nat := fun s =>
  let ds := s.takeWhile fun c => (digitIn radix c).isSome
  let tooMany := match maxDigits with
    | some m => ds.length > m
    | none => false
  if ds.isEmpty || tooMany then none
  else if !zeroPrefix && ds.head? == some '0' && ds.length > 1 then none
  else
    let v := ds.foldl (fun acc d => acc * radix + (digitIn radix d).getD 0) 0
    if v > bound then none else some (v, s.drop ds.length)

/-- An IPv4 address: four decimal octets separated by dots. -/
def ipv4 : Reading (List Nat) := do
  let a ← number 10 (some 3) false 255
  expect '.'
  let b ← number 10 (some 3) false 255
  expect '.'
  let c ← number 10 (some 3) false 255
  expect '.'
  let d ← number 10 (some 3) false 255
  return [a, b, c, d]

/-- Up to `limit` groups of an IPv6 address separated by colons, the last two possibly an
embedded IPv4 address; also whether that was read. -/
def groups (limit : Nat) : Nat → List Nat → Reading (List Nat × Bool)
  | 0, acc => return (acc.reverse, false)
  | fuel + 1, acc => do
    let i := acc.length
    if i ≥ limit then return (acc.reverse, false)
    let sep : Reading Unit := if i > 0 then expect ':' else pure ()
    if i + 1 < limit then
      match ← attempt (do sep; ipv4) with
      | some [a, b, c, d] => return ((acc.reverse ++ [a * 256 + b, c * 256 + d]), true)
      | _ => pure ()
    match ← attempt (do sep; number 16 (some 4) true 65535) with
    | some g => groups limit fuel (g :: acc)
    | none => return (acc.reverse, false)

/-- An IPv6 address: eight groups, or groups around one `::` that stands for zeros. -/
def ipv6 : Reading (List Nat) := do
  let (head, headV4) ← groups 8 8 []
  if head.length == 8 then return head
  if headV4 then failure
  expect ':'
  expect ':'
  let (tail, _) ← groups (8 - (head.length + 1)) 8 []
  return head ++ List.replicate (8 - head.length - tail.length) 0 ++ tail

/-- A port after its colon. -/
def port : Reading Nat := do
  expect ':'
  number 10 none true 65535

/-- A whole socket address. -/
def socket : Reading SocketAddress := fun s =>
  let v4 : Reading SocketAddress := do
    let o ← ipv4
    let p ← port
    return .v4 o p
  let v6 : Reading SocketAddress := do
    expect '['
    let g ← ipv6
    let z ← match ← attempt (expect '%') with
      | some () => number 10 none true 4294967295
      | none => pure 0
    expect ']'
    let p ← port
    return .v6 g z p
  match v4 s with
  | some (a, []) => some (a, [])
  | _ =>
    match v6 s with
    | some (a, []) => some (a, [])
    | _ => none

/-- The small hex digits of a group. -/
def hex (n : Nat) : String := String.ofList (Nat.toDigits 16 n)

/-- Groups separated by colons. -/
def joinGroups (gs : List Nat) : String := String.intercalate ":" (gs.map hex)

/-- The first longest run of zero groups: its start and length. -/
def longestZeros (gs : List Nat) : Nat × Nat :=
  let step := fun (acc : (Nat × Nat) × (Nat × Nat) × Nat) (g : Nat) =>
    let ((bs, bl), (cs, cl), i) := acc
    if g == 0 then
      let cur := if cl == 0 then (i, 1) else (cs, cl + 1)
      let best := if cur.2 > bl then cur else (bs, bl)
      (best, cur, i + 1)
    else ((bs, bl), (0, 0), i + 1)
  (gs.foldl step ((0, 0), (0, 0), 0)).1

/-- The text of an IPv6 address. -/
def ipv6Text (gs : List Nat) : String :=
  match gs with
  | [0, 0, 0, 0, 0, 0xffff, a, b] =>
    "::ffff:" ++ String.intercalate "." ([a / 256, a % 256, b / 256, b % 256].map fun (n : Nat) => showInt n)
  | _ =>
    let (start, len) := longestZeros gs
    if len > 1 then joinGroups (gs.take start) ++ "::" ++ joinGroups (gs.drop (start + len))
    else joinGroups gs

end Address

/-- The text of a socket address. -/
def SocketAddress.render : SocketAddress → String
  | .v4 o p => String.intercalate "." (o.map fun (n : Nat) => showInt n) ++ ":" ++ showInt p
  | .v6 g z p =>
    "[" ++ Address.ipv6Text g ++ (if z == 0 then "" else "%" ++ showInt z) ++ "]:" ++ showInt p

/-- The socket address a text names, if any. -/
def SocketAddress.parse? (s : String) : Option SocketAddress :=
  (Address.socket s.toList).map (·.1)

end Tintbook
