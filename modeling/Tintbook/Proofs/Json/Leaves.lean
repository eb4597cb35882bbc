import Tintbook.Proofs.Json.Steps
import Tintbook.Proofs.Text.Integer
import Tintbook.Json.Writer
/-!
# Strings and integers read back

The writer puts a string between quotes with escapes, and an integer as a sign and decimal
digits; the reader takes them back byte by byte. This module shows that it takes back
exactly what was written.

A string literal is read byte by byte onto the bytes read so far, and its text is made from
them at the closing quote. Each written character goes onto those bytes as its own UTF-8
encoding: an escape is undone in one step (`readString_loop_escapeChar`), and any other
character, which the writer leaves as it is, is neither a control, a quote nor a backslash
in any of its bytes (`plainByte_of_utf8EncodeChar`). So the bytes at the closing quote are
the encoding of the text, which decodes to the text (`decodeText_utf8`,
`readString_literal`).

An integer is read digit by digit onto a significand, which never passes the value of all the
digits; so the digits of a number within the unsigned 64-bit range are read to that number,
as long as nothing that goes on a number (a digit, a point, an exponent) follows them
(`readNumber_toDigits`). The leading digit of a positive number is not zero, which the reader
would refuse before more digits (`toDigits_head`).

## What this module delivers

- `utf8`: the bytes of a text as the reader takes them, with `toUTF8_toList`.
- `escapeChar_cases`: the three ways a character is written in a string literal.
- `literalBytes`, `utf8_quote`: the bytes of a string literal.
- `readString_literal`: a string literal reads back to its text.
- `Reader.EndsNumber`: what may follow a number.
- `readNumber_unsigned`, `readNumber_signed`, `utf8_showInt`: an integer reads back.
-/

set_option autoImplicit false

theorem ByteArray.toList_loop (bs : ByteArray) (i : Nat) (r : List UInt8) :
    ByteArray.toList.loop bs i r = r.reverse ++ bs.data.toList.drop i := by
  fun_induction ByteArray.toList.loop bs i r with
  | case1 i r hi ih =>
    have hlen : i < bs.data.toList.length := by simpa using hi
    rw [ih, List.reverse_cons, List.append_assoc, List.singleton_append,
      List.drop_eq_getElem_cons (i := i) hlen]
    simp only [ByteArray.get!, Array.getElem_toList]
    rw [getElem!_pos bs.data i (by simpa using hi)]
  | case2 i r hi =>
    rw [List.drop_eq_nil_of_le (by simp at hi ⊢; omega), List.append_nil]

theorem ByteArray.toList_eq (bs : ByteArray) : bs.toList = bs.data.toList := by
  rw [ByteArray.toList, ByteArray.toList_loop]
  rfl

namespace Tintbook.Json

/-! ## The bytes of a text -/

/-- The bytes of a text as the reader takes them: its characters in UTF-8. -/
def utf8 (s : String) : List UInt8 := s.toList.flatMap String.utf8EncodeChar

@[simp] theorem utf8_append (a b : String) : utf8 (a ++ b) = utf8 a ++ utf8 b := by
  simp [utf8]

theorem toUTF8_toList (s : String) : s.toUTF8.toList = utf8 s := by
  rw [ByteArray.toList_eq, String.toUTF8_eq_toByteArray, ← String.utf8Encode_toList]
  exact List.toList_data_toByteArray

theorem utf8EncodeChar_of_lt {c : Char} (h : c.toNat < 128) :
    String.utf8EncodeChar c = [c.toNat.toUInt8] := by
  have hv : c.val.toNat = c.toNat := rfl
  unfold String.utf8EncodeChar
  rw [if_pos (by omega)]
  rfl

/-- Every byte of a character beyond ASCII has its high bit set. -/
theorem utf8EncodeChar_high {c : Char} (h : 128 ≤ c.toNat) :
    ∀ b ∈ String.utf8EncodeChar c, 128 ≤ b.toNat := by
  have hv : c.val.toNat = c.toNat := rfl
  unfold String.utf8EncodeChar
  rw [if_neg (by omega)]
  repeat' split
  all_goals
    simp only [List.forall_mem_cons, List.not_mem_nil, false_imp_iff, implies_true, and_true,
      UInt8.toNat_ofNat']
    omega

/-- A hex digit as written is one byte, which reads back as the digit. -/
theorem hexDigit_utf8 {k : Nat} (hk : k < 16) :
    ∃ b, String.utf8EncodeChar (hexDigit k) = [b] ∧ Reader.hexValue? b = some k := by
  have hdigits : ∀ k < 16, String.utf8EncodeChar (hexDigit k) =
      [(String.utf8EncodeChar (hexDigit k)).headD 0] ∧
      Reader.hexValue? ((String.utf8EncodeChar (hexDigit k)).headD 0) = some k := by
    decide
  exact ⟨_, (hdigits k hk).1, (hdigits k hk).2⟩

/-- How a character is written inside a string literal: a quote, a backslash and five
control characters as a backslash and one letter, standing for the character's one byte; the
other control characters as `\u00xy`; every other character as itself. -/
theorem escapeChar_cases (c : Char) :
    (∃ e v, (e, v) ∈ [(34, 34), (92, 92), (47, 47), (98, 8), (102, 12), (110, 10), (114, 13),
        (116, 9)] ∧
      (escapeChar c).flatMap String.utf8EncodeChar = [92, e] ∧
      String.utf8EncodeChar c = [v]) ∨
    (c.toNat < 32 ∧
      escapeChar c = ['\\', 'u', '0', '0', hexDigit (c.toNat / 16), hexDigit (c.toNat % 16)]) ∨
    (escapeChar c = [c] ∧ 32 ≤ c.toNat ∧ c ≠ '"' ∧ c ≠ '\\') := by
  -- one case for each branch of `escapeChar`, in its order; a short escape is of one
  -- character, on which `escapeChar` computes
  by_cases hq : c = '"'
  · subst hq
    exact .inl ⟨34, 34, by decide, rfl, rfl⟩
  by_cases hs : c = '\\'
  · subst hs
    exact .inl ⟨92, 92, by decide, rfl, rfl⟩
  by_cases hn : c = '\n'
  · subst hn
    exact .inl ⟨110, 10, by decide, rfl, rfl⟩
  by_cases hr : c = '\r'
  · subst hr
    exact .inl ⟨114, 13, by decide, rfl, rfl⟩
  by_cases ht : c = '\t'
  · subst ht
    exact .inl ⟨116, 9, by decide, rfl, rfl⟩
  by_cases h8 : c.toNat = 8
  · obtain rfl : c = Char.ofNat 8 := by rw [← h8, Char.ofNat_toNat]
    exact .inl ⟨98, 8, by decide, rfl, rfl⟩
  by_cases h12 : c.toNat = 12
  · obtain rfl : c = Char.ofNat 12 := by rw [← h12, Char.ofNat_toNat]
    exact .inl ⟨102, 12, by decide, rfl, rfl⟩
  by_cases hcontrol : c.toNat < 32
  · refine .inr (.inl ⟨hcontrol, ?_⟩)
    simp [escapeChar, hq, hs, hn, hr, ht, h8, h12, hcontrol]
  · refine .inr (.inr ⟨?_, by omega, hq, hs⟩)
    simp [escapeChar, hq, hs, hn, hr, ht, h8, h12, hcontrol]

/-- The bytes between the quotes of a string literal. -/
def literalBytes (cs : List Char) : List UInt8 :=
  cs.flatMap fun c => (escapeChar c).flatMap String.utf8EncodeChar

theorem utf8_quote (s : String) : utf8 (quote s) = 34 :: literalBytes s.toList ++ [34] := by
  simp [utf8, quote, literalBytes, List.flatMap_assoc]
  rfl

namespace Reader

/-! ## Strings -/

/-- The bytes of a text decode to it. -/
theorem decodeText_utf8 (cs : List Char) :
    decodeText (cs.flatMap String.utf8EncodeChar) = pure (String.ofList cs) := by
  have hbytes : ({ data := (cs.flatMap String.utf8EncodeChar).toArray } : ByteArray) =
      cs.utf8Encode :=
    ByteArray.ext List.data_toByteArray.symm
  have htext :
      String.fromUTF8 cs.utf8Encode ByteArray.isValidUTF8_utf8Encode = String.ofList cs := by
    rw [← String.toByteArray_inj, String.toByteArray_ofList]
    rfl
  unfold decodeText
  rw [hbytes, String.fromUTF8?, dif_pos ByteArray.isValidUTF8_utf8Encode, htext]

/-- A byte that a string literal holds as it is: no control, quote or backslash. -/
def PlainByte (b : UInt8) : Prop := 32 ≤ b.toNat ∧ b ≠ 34 ∧ b ≠ 92

theorem plainByte_of_utf8EncodeChar {c : Char} (hlow : 32 ≤ c.toNat) (hquote : c ≠ '"')
    (hslash : c ≠ '\\') : ∀ b ∈ String.utf8EncodeChar c, PlainByte b := by
  intro b hb
  by_cases hascii : c.toNat < 128
  · rw [utf8EncodeChar_of_lt hascii, List.mem_singleton] at hb
    have hval : b.toNat = c.toNat := by
      rw [hb, Nat.toUInt8, UInt8.toNat_ofNat']
      omega
    -- the byte is the character's code, which is neither a quote nor a backslash
    have hcode : ∀ k, c.toNat = k → c = Char.ofNat k := fun k hk => by
      rw [← hk, Char.ofNat_toNat]
    refine ⟨by omega, fun h34 => hquote (hcode 34 ?_), fun h92 => hslash (hcode 92 ?_)⟩
    · rw [← hval, h34]
      rfl
    · rw [← hval, h92]
      rfl
  · have hhigh := utf8EncodeChar_high (c := c) (by omega) b hb
    refine ⟨by omega, fun h => ?_, fun h => ?_⟩ <;> rw [h] at hhigh <;> simp at hhigh

/-- Plain bytes are taken one by one onto the bytes read so far. -/
theorem readString_loop_plain (bs : List UInt8) (hplain : ∀ b ∈ bs, PlainByte b)
    (n : Nat) (acc rest : List UInt8) :
    Runs (readString.loop (n + bs.length) acc) (bs ++ rest)
      (readString.loop n (bs.reverse ++ acc)) rest := by
  induction bs generalizing acc with
  | nil => exact Runs.refl _ _
  | cons b bs ih =>
    obtain ⟨hlow, hquote, hslash⟩ := hplain b List.mem_cons_self
    have hlt : ¬ b < 32 := by simp [UInt8.lt_iff_toNat_lt]; omega
    rw [List.length_cons, ← Nat.add_assoc, readString.loop]
    refine (peek_bind _ _).trans ?_
    simp only [List.head?_cons, List.cons_append, beq_iff_eq, hquote, hslash, hlt, if_false]
    refine (eat_bind _ _ _).trans ?_
    rw [List.reverse_cons, List.append_assoc, List.singleton_append]
    exact ih (fun x hx => hplain x (List.mem_cons_of_mem b hx)) (b :: acc)

/-- A backslash and an escape that stands for some bytes: they go onto the bytes read. -/
theorem readString_loop_escape {acc acc' xs ys : List UInt8} (n : Nat)
    (h : Yields (readEscape acc) xs acc' ys) :
    Runs (readString.loop (n + 1) acc) (92 :: xs) (readString.loop n acc') ys := by
  rw [readString.loop]
  refine (peek_bind _ _).trans ?_
  simp only [List.head?_cons]
  rw [if_neg (by decide), if_pos (by decide)]
  exact (eat_bind _ _ _).trans (h.bind _)

/-- The escapes of one letter, each with the byte it stands for. -/
theorem readEscape_short {e v : UInt8}
    (h : (e, v) ∈ [(34, 34), (92, 92), (47, 47), (98, 8), (102, 12), (110, 10), (114, 13),
      (116, 9)]) (acc rest : List UInt8) :
    Yields (readEscape acc) (e :: rest) (v :: acc) rest := by
  simp only [List.mem_cons, Prod.mk.injEq, List.not_mem_nil, or_false] at h
  unfold readEscape
  refine (next_bind _ _ _).trans ?_
  rcases h with ⟨rfl, rfl⟩ | ⟨rfl, rfl⟩ | ⟨rfl, rfl⟩ | ⟨rfl, rfl⟩ | ⟨rfl, rfl⟩ | ⟨rfl, rfl⟩ |
    ⟨rfl, rfl⟩ | ⟨rfl, rfl⟩ <;> exact Runs.refl _ _

theorem readHex4_yields {a b d e : UInt8} {w x y z : Nat} (ha : hexValue? a = some w)
    (hb : hexValue? b = some x) (hd : hexValue? d = some y) (he : hexValue? e = some z)
    (rest : List UInt8) :
    Yields readHex4 (a :: b :: d :: e :: rest) (((w * 16 + x) * 16 + y) * 16 + z) rest := by
  unfold readHex4
  refine (get_bind fun c hc => by rw [hc]).trans ?_
  refine (eat_bind _ _ _).trans ((eat_bind _ _ _).trans ((eat_bind _ _ _).trans
    ((eat_bind _ _ _).trans ?_)))
  simp only [ha, hb, hd, he]
  exact Yields.pure _ _

/-- The escape `\u00xy` of a control character puts back that character. -/
theorem readEscape_unicode {c : Char} (hc : c.toNat < 32) {b₁ b₂ : UInt8}
    (hv₁ : hexValue? b₁ = some (c.toNat / 16)) (hv₂ : hexValue? b₂ = some (c.toNat % 16))
    (acc rest : List UInt8) :
    Yields (readEscape acc) (117 :: 48 :: 48 :: b₁ :: b₂ :: rest)
      ((String.utf8EncodeChar c).reverse ++ acc) rest := by
  have hzero : hexValue? 48 = some 0 := rfl
  have hcode : ((0 * 16 + 0) * 16 + c.toNat / 16) * 16 + c.toNat % 16 = c.toNat := by omega
  unfold readEscape
  refine (next_bind _ _ _).trans ?_
  refine (Runs.refl (readUnicodeEscape acc) _).trans ?_
  unfold readUnicodeEscape
  refine ((readHex4_yields hzero hzero hv₁ hv₂ rest).bind _).trans ?_
  -- a control character is no surrogate
  rw [hcode, if_neg (by simp; omega), if_pos (by simp; omega), pushCodePoint, Char.ofNat_toNat]
  exact Runs.refl _ _

/-- A character of a string literal, as written, is read back onto the bytes read so far:
an escape in one step, any other character byte by byte. -/
theorem readString_loop_escapeChar (c : Char) (n : Nat) (acc rest : List UInt8) :
    ∃ m, n ≤ m ∧
      Runs (readString.loop (n + ((escapeChar c).flatMap String.utf8EncodeChar).length) acc)
        ((escapeChar c).flatMap String.utf8EncodeChar ++ rest)
        (readString.loop m ((String.utf8EncodeChar c).reverse ++ acc)) rest := by
  rcases escapeChar_cases c with ⟨e, v, hev, hbytes, hv⟩ | ⟨hcontrol, hesc⟩ |
      ⟨hesc, hlow, hquote, hslash⟩
  case inl =>
    rw [hbytes, hv]
    exact ⟨n + 1, by omega, readString_loop_escape (n + 1) (readEscape_short hev acc rest)⟩
  case inr.inl =>
    obtain ⟨b₁, hb₁, hv₁⟩ := hexDigit_utf8 (k := c.toNat / 16) (by omega)
    obtain ⟨b₂, hb₂, hv₂⟩ := hexDigit_utf8 (k := c.toNat % 16) (by omega)
    have hbytes : (escapeChar c).flatMap String.utf8EncodeChar = [92, 117, 48, 48, b₁, b₂] := by
      simp only [hesc, List.flatMap_cons, List.flatMap_nil, hb₁, hb₂]
      rfl
    rw [hbytes]
    exact ⟨n + 5, by omega,
      readString_loop_escape (n + 5) (readEscape_unicode hcontrol hv₁ hv₂ acc rest)⟩
  case inr.inr =>
    -- a character written as itself has no byte the loop stops at
    rw [hesc, List.flatMap_singleton]
    exact ⟨n, Nat.le_refl n, readString_loop_plain _
      (plainByte_of_utf8EncodeChar hlow hquote hslash) n acc rest⟩

/-- The characters of a literal go onto the bytes read so far, and the closing quote makes
the text of all of them. -/
theorem readString_loop_literal (cs : List Char) :
    ∀ (fuel : Nat) (acc rest : List UInt8), (literalBytes cs).length < fuel →
      Runs (readString.loop fuel acc) (literalBytes cs ++ 34 :: rest)
        (decodeText (acc.reverse ++ cs.flatMap String.utf8EncodeChar)) rest := by
  induction cs with
  | nil =>
    intro fuel acc rest hfuel
    obtain ⟨f, rfl⟩ : ∃ f, fuel = f + 1 := ⟨fuel - 1, by omega⟩
    rw [readString.loop]
    refine (peek_bind _ _).trans ?_
    simp only [literalBytes, List.flatMap_nil, List.nil_append, List.head?_cons, List.append_nil]
    rw [if_pos (by decide)]
    exact eat_bind _ _ _
  | cons c cs ih =>
    intro fuel acc rest hfuel
    have hlen : (literalBytes (c :: cs)).length =
        ((escapeChar c).flatMap String.utf8EncodeChar).length + (literalBytes cs).length := by
      simp [literalBytes]
    obtain ⟨m, hm, hrun⟩ := readString_loop_escapeChar c
      (fuel - ((escapeChar c).flatMap String.utf8EncodeChar).length) acc
      (literalBytes cs ++ 34 :: rest)
    rw [Nat.sub_add_cancel (by omega)] at hrun
    have hnext := ih m ((String.utf8EncodeChar c).reverse ++ acc) rest (by omega)
    rw [List.reverse_append, List.reverse_reverse, List.append_assoc] at hnext
    simp only [literalBytes, List.flatMap_cons, List.append_assoc] at hrun ⊢
    exact hrun.trans hnext

/-- **A string literal reads back to its text.** -/
theorem readString_literal (s : String) {fuel : Nat} (rest : List UInt8)
    (hfuel : (literalBytes s.toList).length < fuel) :
    Yields (readString fuel) (literalBytes s.toList ++ 34 :: rest) s rest := by
  have hrun := readString_loop_literal s.toList fuel [] rest hfuel
  rw [List.reverse_nil, List.nil_append, decodeText_utf8, String.ofList_toList] at hrun
  exact hrun

end Reader

/-! ## Integers -/

theorem toNat_of_isDigit {c : Char} (h : c.isDigit = true) : 48 ≤ c.toNat ∧ c.toNat ≤ 57 := by
  simp only [Char.isDigit, Bool.and_eq_true, decide_eq_true_eq, ge_iff_le,
    UInt32.le_iff_toNat_le] at h
  exact h

/-- A decimal digit as written is one byte, a digit of the reader with the same value. -/
theorem utf8EncodeChar_digit {c : Char} (h : c.isDigit = true) :
    String.utf8EncodeChar c = [c.toNat.toUInt8] ∧ Reader.isDigit c.toNat.toUInt8 = true ∧
      Reader.digit c.toNat.toUInt8 = c.toNat - 48 := by
  have hval := toNat_of_isDigit h
  have hbyte : c.toNat.toUInt8.toNat = c.toNat := by
    rw [Nat.toUInt8, UInt8.toNat_ofNat']
    omega
  refine ⟨utf8EncodeChar_of_lt (by omega), ?_, ?_⟩
  · simp [Reader.isDigit, UInt8.le_iff_toNat_le, hbyte]
    omega
  · rw [Reader.digit, hbyte]

/-- Decimal digits as written are one byte each. -/
theorem length_digitBytes {cs : List Char} (h : ∀ c ∈ cs, c.isDigit = true) :
    (cs.flatMap String.utf8EncodeChar).length = cs.length := by
  induction cs with
  | nil => rfl
  | cons c cs ih =>
    rw [List.flatMap_cons, List.length_append, (utf8EncodeChar_digit (h c List.mem_cons_self)).1,
      ih fun x hx => h x (List.mem_cons_of_mem c hx)]
    simp [Nat.add_comm]

/-- The leading digit of a positive number is not zero. -/
theorem toDigits_head {m : Nat} (hm : 0 < m) :
    ∃ d ds, Nat.toDigits 10 m = d :: ds ∧ d ≠ '0' := by
  induction m using Nat.strongRecOn with
  | ind m ih =>
    rw [Nat.toDigits_eq_if (by decide)]
    split
    · exact ⟨_, [], rfl, by simpa using Nat.pos_iff_ne_zero.1 hm⟩
    · obtain ⟨d, ds, h, hd⟩ := ih (m / 10) (by omega) (by omega)
      exact ⟨d, ds ++ _, by rw [h, List.cons_append], hd⟩

namespace Reader

/-- Nothing that goes on a number follows: no digit, point or exponent. -/
def EndsNumber (rest : List UInt8) : Prop :=
  ∀ b ∈ rest.head?, isDigit b = false ∧ b ≠ 46 ∧ b ≠ 101 ∧ b ≠ 69

theorem finishNumber_unsigned {rest : List UInt8} (hend : EndsNumber rest) (sig fuel : Nat) :
    Yields (finishNumber true sig fuel) rest (.unsigned sig) rest := by
  unfold finishNumber
  refine (peek_bind _ _).trans ?_
  split
  -- a point or an exponent does not follow
  iterate 3
    rename_i h
    simpa using hend _ h
  exact Runs.refl _ _

theorem finishNumber_signed {rest : List UInt8} (hend : EndsNumber rest) {sig : Nat}
    (hpos : 0 < sig) (hle : sig ≤ Nat.pow 2 63) (fuel : Nat) :
    Yields (finishNumber false sig fuel) rest (.signed (-(sig : Int))) rest := by
  unfold finishNumber
  refine (peek_bind _ _).trans ?_
  split
  iterate 3
    rename_i h
    simpa using hend _ h
  rw [if_neg Bool.false_ne_true, if_neg (by simp; omega), if_pos hle]
  exact Runs.refl _ _

/-- Digits whose value stays within `natMax` are read onto the significand. -/
theorem readNumber_loop_digits (positive : Bool) (fuel : Nat) {ds : List Char}
    (hds : ∀ d ∈ ds, d.isDigit = true) :
    ∀ (f sig : Nat) (rest : List UInt8), Nat.ofDigitChars 10 ds sig ≤ natMax →
      Runs (readNumber.loop positive fuel (f + ds.length) sig)
        (ds.flatMap String.utf8EncodeChar ++ rest)
        (readNumber.loop positive fuel f (Nat.ofDigitChars 10 ds sig)) rest := by
  induction ds with
  | nil => intro f sig rest _; exact Runs.refl _ _
  | cons d ds ih =>
    intro f sig rest hbound
    obtain ⟨hbyte, hdigit, hvalue⟩ := utf8EncodeChar_digit (hds d List.mem_cons_self)
    rw [Nat.ofDigitChars_cons] at hbound ⊢
    -- the significand after this digit is at most the value of all the digits
    have hnext := (Integer.le_ofDigitChars ds _).trans hbound
    have hzero : '0'.toNat = 48 := rfl
    rw [List.length_cons, ← Nat.add_assoc, readNumber.loop]
    refine (peek_bind _ _).trans ?_
    simp only [List.flatMap_cons, hbyte, List.cons_append, List.nil_append, List.head?_cons,
      hdigit, if_true, overflows, hvalue]
    rw [if_neg (by simp; omega)]
    refine (eat_bind _ _ _).trans ?_
    rw [Nat.mul_comm]
    exact ih (fun x hx => hds x (List.mem_cons_of_mem d hx)) f _ rest hbound

/-- Where the digits end, the number is finished. -/
theorem readNumber_loop_stop (positive : Bool) (fuel : Nat) {rest : List UInt8}
    (hend : EndsNumber rest) (f sig : Nat) :
    Runs (readNumber.loop positive fuel f sig) rest (finishNumber positive sig fuel) rest := by
  cases f with
  | zero => exact Runs.refl _ _
  | succ f =>
    rw [readNumber.loop]
    refine (peek_bind _ _).trans ?_
    cases h : rest.head? with
    | none => exact Runs.refl _ _
    | some c =>
      simp only [(hend c h).1]
      exact Runs.refl _ _

/-- The digits of a number within `natMax` are read to the number. -/
theorem readNumber_toDigits (positive : Bool) {m fuel : Nat} (hm : m ≤ natMax)
    (hfuel : (Nat.toDigits 10 m).length ≤ fuel) {rest : List UInt8} (hend : EndsNumber rest) :
    Runs (readNumber positive fuel) ((Nat.toDigits 10 m).flatMap String.utf8EncodeChar ++ rest)
      (finishNumber positive m fuel) rest := by
  unfold readNumber
  by_cases hzero : m = 0
  · -- a lone zero
    subst hzero
    rw [Nat.toDigits_zero]
    refine (next_bind _ 48 rest).trans ?_
    dsimp only
    rw [if_pos (by decide)]
    refine (peek_bind _ _).trans ?_
    cases h : rest.head? with
    | none => exact Runs.refl _ _
    | some c =>
      simp only [(hend c h).1]
      exact Runs.refl _ _
  · -- a leading digit other than zero, then the loop over the others
    obtain ⟨d, ds, hdigits, hd⟩ := toDigits_head (Nat.pos_of_ne_zero hzero)
    have hall : ∀ x ∈ d :: ds, x.isDigit = true := fun x hx =>
      Nat.isDigit_of_mem_toDigits (by decide) (by decide) (hdigits ▸ hx)
    obtain ⟨hbyte, hdigit, hvalue⟩ := utf8EncodeChar_digit (hall d List.mem_cons_self)
    have hvalue' : Nat.ofDigitChars 10 ds (d.toNat - 48) = m := by
      have := Nat.ofDigitChars_ten_toDigits (n := m)
      rwa [hdigits, Nat.ofDigitChars_cons, Nat.mul_zero, Nat.zero_add] at this
    -- the leading byte is not the byte of zero
    have hne : d.toNat.toUInt8 ≠ 48 := by
      intro h
      have hlow := toNat_of_isDigit (hall d List.mem_cons_self)
      have hdigit0 := congrArg digit h
      rw [hvalue] at hdigit0
      apply hd
      rw [← Char.ofNat_toNat d, show d.toNat = 48 by simp [digit] at hdigit0; omega]
    rw [hdigits, List.flatMap_cons, hbyte, List.singleton_append]
    refine (next_bind _ _ _).trans ?_
    dsimp only
    rw [if_neg (by simpa using hne), if_pos hdigit, hvalue, List.append_eq]
    have hlen : fuel = (fuel - ds.length) + ds.length := by
      have := congrArg List.length hdigits
      simp at this
      omega
    rw [hlen]
    refine (readNumber_loop_digits positive _ (fun x hx => hall x (List.mem_cons_of_mem d hx))
      _ _ rest (by rw [hvalue']; exact hm)).trans ?_
    rw [hvalue', ← hlen]
    exact readNumber_loop_stop positive fuel hend _ m

/-- A natural number within `natMax`, written in decimal, is read back unsigned. -/
theorem readNumber_unsigned {m fuel : Nat} (hm : m ≤ natMax)
    (hfuel : (Nat.toDigits 10 m).length ≤ fuel) {rest : List UInt8} (hend : EndsNumber rest) :
    Yields (readNumber true fuel) ((Nat.toDigits 10 m).flatMap String.utf8EncodeChar ++ rest)
      (.unsigned m) rest :=
  (readNumber_toDigits true hm hfuel hend).trans (finishNumber_unsigned hend m fuel)

/-- The digits after a minus sign of a number down to `-2^63` are read back signed. -/
theorem readNumber_signed {m fuel : Nat} (hpos : 0 < m) (hle : m ≤ Nat.pow 2 63)
    (hfuel : (Nat.toDigits 10 m).length ≤ fuel) {rest : List UInt8} (hend : EndsNumber rest) :
    Yields (readNumber false fuel) ((Nat.toDigits 10 m).flatMap String.utf8EncodeChar ++ rest)
      (.signed (-(m : Int))) rest := by
  have hmax : m ≤ natMax := by
    have : natMax = Nat.pow 2 64 - 1 := rfl
    have h63 : Nat.pow 2 63 = 9223372036854775808 := rfl
    have h64 : Nat.pow 2 64 = 18446744073709551616 := rfl
    omega
  exact (readNumber_toDigits false hmax hfuel hend).trans (finishNumber_signed hend hpos hle fuel)

end Reader

/-- The bytes of an integer's text: a minus sign for a negative one, then the digits of its
size. -/
theorem utf8_showInt (n : Int) :
    utf8 (showInt n) = (if n < 0 then [45] else []) ++
      (Nat.toDigits 10 n.natAbs).flatMap String.utf8EncodeChar := by
  rw [utf8, showInt_toList, List.flatMap_append]
  split <;> rfl

end Tintbook.Json
