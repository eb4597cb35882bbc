import Tintbook.Proofs.Json.Leaves
/-!
# The texts the reader takes

The grammar of the JSON texts the reader takes, as relations over bytes: `R xs … ys` says that
the bytes `xs` begin with a text of the kind `R` describes and that `ys` is what follows it.
Blanks may stand before every token (`afterBlanks`); a relation for a value does not read the
blanks after it, which belong to what comes next.

The reader checks values in two ways, and so there are two grammars of values:

- A value that is read is *strict*: its strings may hold only escapes of characters (a high
  surrogate `\u` escape must be followed by an escape of a low one), and its text must be UTF-8.
- A value that is only passed over, such as the value of a member nobody asked for, is
  *loose* (`LooseValue`): its strings may hold any `\u` escape, its numbers may be of any size,
  and containers nest without bound. This is the plain JSON grammar.

Numbers are in either case an optional minus sign, then a lone zero or a digit from one to
nine and all the digits after it, an optional point with at least one digit, and an optional
exponent with an optional sign and at least one digit (`NumberText`). Every part is taken as
far as it goes, so a text is read as a number in at most one way.

## What this module delivers

- `Hex4`, `Escape`, `StringBody`, `StringText`: strict strings and their text.
- `Int64Text`: an integer as the reader keeps it for a 64-bit field: its shortest decimal form.
- `NumberText`: the form of a number.
- `LooseValue` and its companions: the values that are passed over.
- `ItemsText`: the items of a list or the members of an object, each of a given kind.
- That each of these relations reads at least one byte (`length_lt`).
-/

set_option autoImplicit false

namespace Tintbook.Json

open Reader

/-! ## Strings -/

/-- The escapes of one letter after a backslash, each with the byte it stands for. -/
def shortEscapes : List (UInt8 × UInt8) :=
  [(34, 34), (92, 92), (47, 47), (98, 8), (102, 12), (110, 10), (114, 13), (116, 9)]

/-- Four hex digits, and the number they write. -/
inductive Hex4 : List UInt8 → Nat → List UInt8 → Prop
  | mk {a b d e : UInt8} {w x y z : Nat} (ys : List UInt8) (ha : hexValue? a = some w)
      (hb : hexValue? b = some x) (hd : hexValue? d = some y) (he : hexValue? e = some z) :
      Hex4 (a :: b :: d :: e :: ys) (((w * 16 + x) * 16 + y) * 16 + z) ys

/-- An escape of a string after its backslash, and the UTF-8 bytes it stands for: a letter,
`u` and the four hex digits of a character that is no surrogate, or `u` and a high surrogate
followed by `\u` and a low one, which together write one character beyond the first 2^16. -/
inductive Escape : List UInt8 → List UInt8 → List UInt8 → Prop
  | short {e v : UInt8} (ys : List UInt8) (h : (e, v) ∈ shortEscapes) : Escape (e :: ys) [v] ys
  | unit {xs ys : List UInt8} {n : Nat} (h : Hex4 xs n ys) (hn : n < 0xD800 ∨ 0xDFFF < n) :
      Escape (117 :: xs) (String.utf8EncodeChar (Char.ofNat n)) ys
  | pair {xs zs ys : List UInt8} {hi lo : Nat} (hhi : Hex4 xs hi (92 :: 117 :: zs))
      (hlo : Hex4 zs lo ys) (hh : 0xD800 ≤ hi ∧ hi ≤ 0xDBFF) (hl : 0xDC00 ≤ lo ∧ lo ≤ 0xDFFF) :
      Escape (117 :: xs)
        (String.utf8EncodeChar (Char.ofNat ((hi - 0xD800) * 1024 + (lo - 0xDC00) + 0x10000))) ys

/-- The body of a string after its opening quote, up to and with its closing quote, and the
bytes it stands for: bytes that are no control, quote or backslash stand for themselves. -/
inductive StringBody : List UInt8 → List UInt8 → List UInt8 → Prop
  | close (ys : List UInt8) : StringBody (34 :: ys) [] ys
  | plain {b : UInt8} {xs out ys : List UInt8} (hb : PlainByte b) (h : StringBody xs out ys) :
      StringBody (b :: xs) (b :: out) ys
  | escape {xs zs out₁ out ys : List UInt8} (he : Escape xs out₁ zs) (h : StringBody zs out ys) :
      StringBody (92 :: xs) (out₁ ++ out) ys

/-- A string, from its opening quote, whose bytes are the UTF-8 text `s`. -/
def StringText (xs : List UInt8) (s : String) (ys : List UInt8) : Prop :=
  ∃ zs, xs = 34 :: zs ∧ StringBody zs (utf8 s) ys

/-! ## Numbers -/

/-- The decimal digits at the front, as far as they go. -/
def Digits (xs ys : List UInt8) : Prop :=
  ∃ ds, xs = ds ++ ys ∧ (∀ d ∈ ds, isDigit d = true) ∧ ∀ b ∈ ys.head?, isDigit b = false

/-- At least one decimal digit, and the digits after it. -/
def SomeDigits (xs ys : List UInt8) : Prop :=
  ∃ d zs, xs = d :: zs ∧ isDigit d = true ∧ Digits zs ys

/-- The integer part of a number: a lone zero, or digits that do not begin with zero. -/
def IntegerPart (xs ys : List UInt8) : Prop :=
  (xs = 48 :: ys ∧ ∀ b ∈ ys.head?, isDigit b = false) ∨ (xs.head? ≠ some 48 ∧ SomeDigits xs ys)

/-- The fraction of a number: a point and digits, or nothing where no point follows. -/
def FractionPart (xs ys : List UInt8) : Prop :=
  (ys = xs ∧ xs.head? ≠ some 46) ∨ ∃ zs, xs = 46 :: zs ∧ SomeDigits zs ys

/-- The exponent of a number: `e` or `E`, an optional sign and digits, or nothing where no
`e` follows. -/
def ExponentPart (xs ys : List UInt8) : Prop :=
  (ys = xs ∧ xs.head? ≠ some 101 ∧ xs.head? ≠ some 69) ∨
    ∃ e zs ws, xs = e :: zs ∧ (e = 101 ∨ e = 69) ∧ (zs = 43 :: ws ∨ zs = 45 :: ws ∨ zs = ws) ∧
      SomeDigits ws ys

/-- A number after its optional minus sign. -/
def NumberText (xs ys : List UInt8) : Prop :=
  ∃ zs ws, IntegerPart xs zs ∧ FractionPart zs ws ∧ ExponentPart ws ys

/-- An integer of the 64-bit signed range, written in its shortest decimal form, with nothing
after it that would go on a number. -/
def Int64Text (xs : List UInt8) (n : Int) (ys : List UInt8) : Prop :=
  xs = utf8 (showInt n) ++ ys ∧ EndsNumber ys ∧ int64Min ≤ n ∧ n ≤ int64Max

/-! ## Values passed over -/

/-- An escape of a string that is passed over: a letter, or `u` and any four hex digits. -/
inductive LooseEscape : List UInt8 → List UInt8 → Prop
  | short {e : UInt8} (ys : List UInt8) (h : e ∈ shortEscapes.map Prod.fst) : LooseEscape (e :: ys) ys
  | unit {xs ys : List UInt8} {n : Nat} (h : Hex4 xs n ys) : LooseEscape (117 :: xs) ys

/-- The body of a string that is passed over, after its opening quote. -/
inductive LooseStringBody : List UInt8 → List UInt8 → Prop
  | close (ys : List UInt8) : LooseStringBody (34 :: ys) ys
  | plain {b : UInt8} {xs ys : List UInt8} (hb : PlainByte b) (h : LooseStringBody xs ys) :
      LooseStringBody (b :: xs) ys
  | escape {xs zs ys : List UInt8} (he : LooseEscape xs zs) (h : LooseStringBody zs ys) :
      LooseStringBody (92 :: xs) ys

mutual
/-- A value that is passed over, after the blanks before it. -/
inductive LooseValue : List UInt8 → List UInt8 → Prop
  | null {xs ys : List UInt8} (h : afterBlanks xs = 110 :: 117 :: 108 :: 108 :: ys) :
      LooseValue xs ys
  | true {xs ys : List UInt8} (h : afterBlanks xs = 116 :: 114 :: 117 :: 101 :: ys) :
      LooseValue xs ys
  | false {xs ys : List UInt8} (h : afterBlanks xs = 102 :: 97 :: 108 :: 115 :: 101 :: ys) :
      LooseValue xs ys
  | number {xs ys : List UInt8} (h : NumberText (afterBlanks xs) ys) : LooseValue xs ys
  | negative {xs zs ys : List UInt8} (h : afterBlanks xs = 45 :: zs) (hn : NumberText zs ys) :
      LooseValue xs ys
  | string {xs zs ys : List UInt8} (h : afterBlanks xs = 34 :: zs) (hs : LooseStringBody zs ys) :
      LooseValue xs ys
  | array {xs zs ys : List UInt8} (h : afterBlanks xs = 91 :: zs) (hs : LooseItems zs ys) :
      LooseValue xs ys
  | object {xs zs ys : List UInt8} (h : afterBlanks xs = 123 :: zs) (hs : LooseMembers zs ys) :
      LooseValue xs ys

/-- The items of a list passed over, after its opening bracket and up to its closing one. -/
inductive LooseItems : List UInt8 → List UInt8 → Prop
  | empty {xs ys : List UInt8} (h : afterBlanks xs = 93 :: ys) : LooseItems xs ys
  | items {xs zs ys : List UInt8} (hv : LooseValue xs zs) (hs : LooseItemsRest zs ys) :
      LooseItems xs ys

/-- The items of a list after the first, and its closing bracket. -/
inductive LooseItemsRest : List UInt8 → List UInt8 → Prop
  | close {xs ys : List UInt8} (h : afterBlanks xs = 93 :: ys) : LooseItemsRest xs ys
  | more {xs zs ws ys : List UInt8} (h : afterBlanks xs = 44 :: zs) (hv : LooseValue zs ws)
      (hs : LooseItemsRest ws ys) : LooseItemsRest xs ys

/-- The members of an object passed over, after its opening brace and up to its closing one. -/
inductive LooseMembers : List UInt8 → List UInt8 → Prop
  | empty {xs ys : List UInt8} (h : afterBlanks xs = 125 :: ys) : LooseMembers xs ys
  | members {xs zs ys : List UInt8} (hm : LooseMember xs zs) (hs : LooseMembersRest zs ys) :
      LooseMembers xs ys

/-- The members of an object after the first, and its closing brace. -/
inductive LooseMembersRest : List UInt8 → List UInt8 → Prop
  | close {xs ys : List UInt8} (h : afterBlanks xs = 125 :: ys) : LooseMembersRest xs ys
  | more {xs zs ws ys : List UInt8} (h : afterBlanks xs = 44 :: zs) (hm : LooseMember zs ws)
      (hs : LooseMembersRest ws ys) : LooseMembersRest xs ys

/-- A member passed over: a name, a colon and a value. -/
inductive LooseMember : List UInt8 → List UInt8 → Prop
  | mk {xs zs ws us ys : List UInt8} (h : afterBlanks xs = 34 :: zs) (hk : LooseStringBody zs ws)
      (hc : afterBlanks ws = 58 :: us) (hv : LooseValue us ys) : LooseMember xs ys
end

/-! ## Items of a container -/

variable {β : Type}

/-- The items of a container, each of the kind `E`, from where the reader stands in it up to
and with its closing byte `close`: just after the opening when `first` holds, after an item
otherwise, where each further item stands behind a comma. -/
inductive ItemsText (close : UInt8) (E : List UInt8 → β → List UInt8 → Prop) :
    Bool → List UInt8 → List β → List UInt8 → Prop
  | close {first : Bool} {xs ys : List UInt8} (h : afterBlanks xs = close :: ys) :
      ItemsText close E first xs [] ys
  | first {xs zs ys : List UInt8} {a : β} {as : List β} (ha : E xs a zs)
      (hs : ItemsText close E false zs as ys) : ItemsText close E true xs (a :: as) ys
  | next {xs ws zs ys : List UInt8} {a : β} {as : List β} (hc : afterBlanks xs = 44 :: ws)
      (ha : E ws a zs) (hs : ItemsText close E false zs as ys) :
      ItemsText close E false xs (a :: as) ys

/-! ## Each text reads a byte at least -/

theorem length_lt_of_afterBlanks {xs ys : List UInt8} {b : UInt8} (h : afterBlanks xs = b :: ys) :
    ys.length < xs.length := by
  have := length_afterBlanks_le xs
  rw [h, List.length_cons] at this
  omega

theorem Hex4.length_eq {xs ys : List UInt8} {n : Nat} (h : Hex4 xs n ys) :
    xs.length = ys.length + 4 := by
  cases h
  rfl

theorem Escape.length_lt {xs out ys : List UInt8} (h : Escape xs out ys) :
    ys.length < xs.length := by
  cases h with
  | short => simp
  | unit h =>
    have := h.length_eq
    simp only [List.length_cons]
    omega
  | pair hhi hlo =>
    have hhi := hhi.length_eq
    have := hlo.length_eq
    simp only [List.length_cons] at hhi ⊢
    omega

theorem StringBody.length_lt {xs out ys : List UInt8} (h : StringBody xs out ys) :
    ys.length < xs.length := by
  induction h with
  | close => simp
  | plain _ _ ih => simp; omega
  | escape he _ ih => have := he.length_lt; simp; omega

theorem StringText.length_lt {xs ys : List UInt8} {s : String} (h : StringText xs s ys) :
    ys.length < xs.length := by
  obtain ⟨zs, rfl, hs⟩ := h
  have := hs.length_lt
  simp
  omega

theorem LooseEscape.length_lt {xs ys : List UInt8} (h : LooseEscape xs ys) :
    ys.length < xs.length := by
  cases h with
  | short => simp
  | unit h =>
    have := h.length_eq
    simp only [List.length_cons]
    omega

theorem LooseStringBody.length_lt {xs ys : List UInt8} (h : LooseStringBody xs ys) :
    ys.length < xs.length := by
  induction h with
  | close => simp
  | plain _ _ ih => simp; omega
  | escape he _ ih => have := he.length_lt; simp; omega

theorem Digits.length_le {xs ys : List UInt8} (h : Digits xs ys) : ys.length ≤ xs.length := by
  obtain ⟨ds, rfl, -, -⟩ := h
  simp

theorem SomeDigits.length_lt {xs ys : List UInt8} (h : SomeDigits xs ys) :
    ys.length < xs.length := by
  obtain ⟨d, zs, rfl, -, hd⟩ := h
  have := hd.length_le
  simp
  omega

theorem NumberText.length_lt {xs ys : List UInt8} (h : NumberText xs ys) :
    ys.length < xs.length := by
  obtain ⟨zs, ws, hi, hf, he⟩ := h
  -- the integer part reads a digit; the fraction and the exponent read nothing or more
  have hi' : zs.length < xs.length := by
    rcases hi with ⟨rfl, -⟩ | ⟨-, hd⟩
    · simp
    · exact hd.length_lt
  have hf' : ws.length ≤ zs.length := by
    rcases hf with ⟨rfl, -⟩ | ⟨us, rfl, hd⟩
    · exact Nat.le_refl _
    · have := hd.length_lt; simp; omega
  have he' : ys.length ≤ ws.length := by
    rcases he with ⟨rfl, -⟩ | ⟨e, us, vs, rfl, -, hsign, hd⟩
    · exact Nat.le_refl _
    · have := hd.length_lt
      rcases hsign with rfl | rfl | rfl <;> simp <;> omega
  omega

theorem Int64Text.length_lt {xs ys : List UInt8} {n : Int} (h : Int64Text xs n ys) :
    ys.length < xs.length := by
  obtain ⟨rfl, -⟩ := h
  have hdigits : 0 < (Nat.toDigits 10 n.natAbs).length := Nat.length_toDigits_pos
  rw [utf8_showInt, List.length_append, List.length_append, length_digitBytes
    (fun c hc => Nat.isDigit_of_mem_toDigits (by decide) (by decide) hc)]
  omega

mutual
theorem LooseValue.length_lt {xs ys : List UInt8} : LooseValue xs ys → ys.length < xs.length
  | .null h | .true h | .false h => by have := length_lt_of_afterBlanks h; simp at this; omega
  | .number h => (h.length_lt).trans_le (length_afterBlanks_le xs)
  | .negative h hn => hn.length_lt.trans (length_lt_of_afterBlanks h)
  | .string h hs => hs.length_lt.trans (length_lt_of_afterBlanks h)
  | .array h hs => (LooseItems.length_le hs).trans_lt (length_lt_of_afterBlanks h)
  | .object h hs => (LooseMembers.length_le hs).trans_lt (length_lt_of_afterBlanks h)

theorem LooseItems.length_le {xs ys : List UInt8} : LooseItems xs ys → ys.length ≤ xs.length
  | .empty h => (length_lt_of_afterBlanks h).le
  | .items hv hs => (LooseItemsRest.length_le hs).trans (LooseValue.length_lt hv).le

theorem LooseItemsRest.length_le {xs ys : List UInt8} :
    LooseItemsRest xs ys → ys.length ≤ xs.length
  | .close h => (length_lt_of_afterBlanks h).le
  | .more h hv hs => ((LooseItemsRest.length_le hs).trans (LooseValue.length_lt hv).le).trans
      (length_lt_of_afterBlanks h).le

theorem LooseMembers.length_le {xs ys : List UInt8} : LooseMembers xs ys → ys.length ≤ xs.length
  | .empty h => (length_lt_of_afterBlanks h).le
  | .members hm hs => (LooseMembersRest.length_le hs).trans (LooseMember.length_lt hm).le

theorem LooseMembersRest.length_le {xs ys : List UInt8} :
    LooseMembersRest xs ys → ys.length ≤ xs.length
  | .close h => (length_lt_of_afterBlanks h).le
  | .more h hm hs => ((LooseMembersRest.length_le hs).trans (LooseMember.length_lt hm).le).trans
      (length_lt_of_afterBlanks h).le

theorem LooseMember.length_lt {xs ys : List UInt8} : LooseMember xs ys → ys.length < xs.length
  | .mk h hk hc hv => (LooseValue.length_lt hv).trans ((length_lt_of_afterBlanks hc).trans
      (hk.length_lt.trans (length_lt_of_afterBlanks h)))
end

/-- Items that each read a byte at least read their closing byte too. -/
theorem ItemsText.length_lt {close : UInt8} {E : List UInt8 → β → List UInt8 → Prop}
    (hE : ∀ {xs : List UInt8} {a : β} {ys : List UInt8}, E xs a ys → ys.length < xs.length)
    {first : Bool} {xs ys : List UInt8} {as : List β} (h : ItemsText close E first xs as ys) :
    ys.length < xs.length := by
  induction h with
  | close h => exact length_lt_of_afterBlanks h
  | first ha _ ih => exact ih.trans (hE ha)
  | next hc ha _ ih => exact ih.trans ((hE ha).trans (length_lt_of_afterBlanks hc))

end Tintbook.Json
