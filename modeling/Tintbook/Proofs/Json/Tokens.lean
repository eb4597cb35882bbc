import Tintbook.Proofs.Json.Grammar
import Tintbook.Proofs.Json.ReadBack
/-!
# Tokens, read both ways

The reader's leaves against their grammar: a string, a skipped string, an integer of a 64-bit
field and a skipped number. For each, a reading that succeeded read a text of the grammar
and gave its value (`Gives.…`), and a text of the grammar is read to that value whenever
the fuel passes its length (`…_yields`, `…_runs`).

A string is read byte by byte onto the bytes read so far, and its text is made from them at
the closing quote; so the grammar says which bytes a string stands for (`StringBody`) and
asks that they be the UTF-8 text of the string (`StringText`). An integer is read digit by
digit; the digits of a number without a leading zero are its shortest decimal form
(`Nat.toDigits_append_toDigits`), so the integers a 64-bit field takes are exactly the texts
`showInt n` for `n` in the range.

## What this module delivers

- `Gives.readString`, `readString_yields`: strings against `StringText`.
- `Gives.skipString`, `skipString_yields`: skipped strings against `LooseStringBody`.
- `Gives.readInt64`, `readInt64_yields`: integers of a 64-bit field against `Int64Text`.
- `Gives.skipNumber`, `skipNumber_yields`: skipped numbers against `NumberText`.
- `Gives.expectWord`: a word read is the word.
- `refuseKind_refuses`: a value of the wrong kind is always refused.
-/

set_option autoImplicit false

namespace Tintbook.Json

open Reader

/-! ## The text of the bytes of a string -/

/-- Bytes that decode to a text are the UTF-8 bytes of that text. -/
theorem utf8_eq_of_fromUTF8? {bytes : List UInt8} {s : String}
    (h : String.fromUTF8? (ByteArray.mk bytes.toArray) = some s) : utf8 s = bytes := by
  unfold String.fromUTF8? at h
  split at h
  · cases h
    rw [← toUTF8_toList, ByteArray.toList_eq]
    rfl
  · cases h

theorem decodeText_utf8_eq (s : String) : decodeText (utf8 s) = pure s := by
  rw [utf8, decodeText_utf8, String.ofList_toList]

theorem Reader.Gives.decodeText {bytes xs ys : List UInt8} {s : String}
    (h : Gives (Reader.decodeText bytes) xs s ys) : utf8 s = bytes ∧ ys = xs := by
  unfold Reader.decodeText at h
  split at h
  · rename_i s' hs
    obtain ⟨rfl, rfl⟩ := Gives.pure h
    exact ⟨utf8_eq_of_fromUTF8? hs, rfl⟩
  · exact (Refuses.fail _).not_gives h |>.elim

/-! ## Escapes -/

theorem Reader.Gives.readHex4 {xs ys : List UInt8} {n : Nat} (h : Gives Reader.readHex4 xs n ys) :
    Hex4 xs n ys := by
  unfold Reader.readHex4 at h
  have h := Gives.of_runs (get_bind fun c hc => by rw [hc]) h
  -- four bytes are read whatever they are; fewer than four leave the string unfinished
  split at h
  · replace h := Gives.eat_bind (Gives.eat_bind (Gives.eat_bind (Gives.eat_bind h)))
    split at h
    · rename_i w x y z ha hb hd he
      obtain ⟨rfl, rfl⟩ := Gives.pure h
      exact Hex4.mk _ ha hb hd he
    · exact (Refuses.fail _).not_gives h |>.elim
  · exact (Refuses.bind fun _ => Refuses.fail _).not_gives h |>.elim

theorem Hex4.yields {xs ys : List UInt8} {n : Nat} (h : Hex4 xs n ys) :
    Yields readHex4 xs n ys := by
  cases h with
  | mk ys ha hb hd he => exact readHex4_yields ha hb hd he ys

theorem Reader.Gives.readUnicodeEscape {acc acc' xs ys : List UInt8}
    (h : Gives (Reader.readUnicodeEscape acc) xs acc' ys) :
    ∃ out, Escape (117 :: xs) out ys ∧ acc' = out.reverse ++ acc := by
  unfold Reader.readUnicodeEscape at h
  obtain ⟨n, zs, hn, h⟩ := Gives.bind h
  have hhex := Gives.readHex4 hn
  split at h
  · exact (Refuses.fail _).not_gives h |>.elim
  split at h
  · -- a character that is no surrogate
    rename_i hlow hunit
    obtain ⟨rfl, rfl⟩ := Gives.pure h
    refine ⟨_, Escape.unit hhex ?_, rfl⟩
    simp at hlow hunit
    omega
  -- a high surrogate, which a backslash, a `u` and a low surrogate must follow
  rename_i hlow hhigh
  have h := Gives.peek_bind h
  cases zs with
  | nil => exact (Refuses.fail _).not_gives h |>.elim
  | cons b zs =>
    simp only [List.head?_cons] at h
    split at h
    · exact (Refuses.bind fun _ => Refuses.fail _).not_gives h |>.elim
    rename_i hb
    have h := Gives.peek_bind (Gives.eat_bind h)
    cases zs with
    | nil => exact (Refuses.fail _).not_gives h |>.elim
    | cons u zs =>
      simp only [List.head?_cons] at h
      split at h
      · exact (Refuses.bind fun _ => Refuses.fail _).not_gives h |>.elim
      rename_i hu
      obtain ⟨n₂, ws, hn₂, h⟩ := Gives.bind (Gives.eat_bind h)
      split at h
      · exact (Refuses.fail _).not_gives h |>.elim
      rename_i hrange
      obtain ⟨hv, rfl⟩ := Gives.pure h
      simp only [bne_iff_ne, ne_eq, Decidable.not_not] at hb hu
      subst hb hu
      refine ⟨_, Escape.pair hhex (Gives.readHex4 hn₂) ?_ ?_, hv⟩
      · simp at hlow hhigh
        omega
      · simp at hrange
        omega

theorem Escape.yields_unicode {xs out ys : List UInt8} (h : Escape (117 :: xs) out ys)
    (acc : List UInt8) : Yields (readUnicodeEscape acc) xs (out.reverse ++ acc) ys := by
  unfold readUnicodeEscape
  cases h with
  | short ys h => simp [shortEscapes] at h
  | unit h hn =>
    refine (h.yields.bind _).trans ?_
    rw [if_neg (by simp; omega), if_pos (by simp; omega)]
    exact Yields.pure _ _
  | @pair xs zs ys hi lo hhi hlo hh hl =>
    refine (hhi.yields.bind _).trans ?_
    rw [if_neg (by simp; omega), if_neg (by simp; omega)]
    refine (Reader.peek_bind _ _).trans ?_
    rw [List.head?_cons]
    dsimp only
    rw [if_neg (by decide)]
    refine (Reader.eat_bind _ _ _).trans ((Reader.peek_bind _ _).trans ?_)
    rw [List.head?_cons]
    dsimp only
    rw [if_neg (by decide)]
    refine (Reader.eat_bind _ _ _).trans ((hlo.yields.bind _).trans ?_)
    rw [if_neg (by simp; omega)]
    exact Yields.pure _ _

theorem Reader.Gives.readEscape {acc acc' xs ys : List UInt8}
    (h : Gives (Reader.readEscape acc) xs acc' ys) :
    ∃ out, Escape xs out ys ∧ acc' = out.reverse ++ acc := by
  unfold Reader.readEscape at h
  cases xs with
  | nil => exact (Refuses.fail _).not_gives (Gives.of_runs (next_bind_nil _) h) |>.elim
  | cons b xs =>
    replace h := Gives.next_bind h
    dsimp only at h
    -- the letter after the backslash names the escape
    split at h
    · rename_i hb
      obtain ⟨rfl, rfl⟩ := Gives.pure h
      simp only [Bool.or_eq_true, beq_iff_eq] at hb
      refine ⟨[b], Escape.short _ ?_, rfl⟩
      rcases hb with (rfl | rfl) | rfl <;> decide
    iterate 5
      split at h
      · rename_i hb
        obtain ⟨rfl, rfl⟩ := Gives.pure h
        simp only [beq_iff_eq] at hb
        subst hb
        exact ⟨[_], Escape.short _ (by decide), rfl⟩
    split at h
    · rename_i hb
      simp only [beq_iff_eq] at hb
      subst hb
      exact Gives.readUnicodeEscape h
    · exact (Refuses.fail _).not_gives h |>.elim

theorem Escape.yields {xs out ys : List UInt8} (h : Escape xs out ys) (acc : List UInt8) :
    Yields (readEscape acc) xs (out.reverse ++ acc) ys := by
  cases h with
  | short ys h => exact readEscape_short h acc ys
  | unit h hn =>
    unfold readEscape
    exact (next_bind _ _ _).trans (Escape.yields_unicode (Escape.unit h hn) acc)
  | pair hhi hlo hh hl =>
    unfold readEscape
    exact (next_bind _ _ _).trans (Escape.yields_unicode (Escape.pair hhi hlo hh hl) acc)

/-! ## Words -/

theorem Reader.Gives.expectWord : ∀ (ws : List UInt8) {xs ys : List UInt8} {u : Unit},
    Gives (expectWord ws) xs u ys → xs = ws ++ ys
  | [], _, _, _, h => by rw [List.nil_append]; exact (Gives.pure h).2.symm
  | w :: ws, xs, ys, u, h => by
    rw [Reader.expectWord] at h
    cases xs with
    | nil => exact (Refuses.fail _).not_gives (Gives.of_runs (next_bind_nil _) h) |>.elim
    | cons b xs =>
      have hnext := Gives.next_bind h
      dsimp only at hnext
      split at hnext
      · rename_i hb
        simp only [beq_iff_eq] at hb
        subst hb
        rw [Gives.expectWord ws hnext, List.cons_append]
      · exact (Refuses.fail _).not_gives hnext |>.elim

/-! ## Strings -/

theorem plainByte_of_not {b : UInt8} (hq : ¬ (b == 34) = true) (hs : ¬ (b == 92) = true)
    (hlt : ¬ b < 32) : PlainByte b := by
  simp only [beq_iff_eq] at hq hs
  refine ⟨?_, hq, hs⟩
  simp only [UInt8.lt_iff_toNat_lt, UInt8.reduceToNat, Nat.not_lt] at hlt
  exact hlt

/-- A string that was read, from after its opening quote: its body stands for the bytes read
onto those read before. -/
theorem Reader.Gives.readString_loop : ∀ (f : Nat) {acc xs ys : List UInt8} {s : String},
    Gives (readString.loop f acc) xs s ys → ∃ out, StringBody xs out ys ∧ utf8 s = acc.reverse ++ out
  | 0, _, _, _, _, h => (Refuses.fail _).not_gives h |>.elim
  | f + 1, acc, xs, ys, s, h => by
    rw [readString.loop] at h
    have h := Gives.peek_bind h
    cases xs with
    | nil => exact (Refuses.fail _).not_gives h |>.elim
    | cons b xs =>
      simp only [List.head?_cons] at h
      -- a closing quote, an escape, a control character, or a byte that stands for itself
      split at h
      · rename_i hq
        obtain ⟨hs, rfl⟩ := Gives.decodeText (Gives.eat_bind h)
        simp only [beq_iff_eq] at hq
        subst hq
        exact ⟨[], StringBody.close _, by rw [hs, List.append_nil]⟩
      split at h
      · rename_i hbs
        obtain ⟨acc', zs, he, h⟩ := Gives.bind (Gives.eat_bind h)
        obtain ⟨out₁, hesc, rfl⟩ := Gives.readEscape he
        obtain ⟨out, hbody, hs⟩ := Gives.readString_loop f h
        simp only [beq_iff_eq] at hbs
        subst hbs
        exact ⟨out₁ ++ out, StringBody.escape hesc hbody, by simp [hs]⟩
      split at h
      · exact (Refuses.bind fun _ => Refuses.fail _).not_gives h |>.elim
      · rename_i hq hbs hlt
        obtain ⟨out, hbody, hs⟩ := Gives.readString_loop f (Gives.eat_bind h)
        exact ⟨b :: out, StringBody.plain (plainByte_of_not hq hbs hlt) hbody, by simp [hs]⟩

theorem Reader.Gives.readString {f : Nat} {xs ys : List UInt8} {s : String}
    (h : Gives (readString f) xs s ys) : StringBody xs (utf8 s) ys := by
  obtain ⟨out, hbody, hs⟩ := Gives.readString_loop f h
  rw [List.reverse_nil, List.nil_append] at hs
  rwa [hs]

/-- A string body is read onto the bytes read before it, as long as the fuel lasts. -/
theorem StringBody.runs {xs out ys : List UInt8} (h : StringBody xs out ys) :
    ∀ (f : Nat) (acc : List UInt8), xs.length ≤ f →
      Runs (readString.loop f acc) xs (decodeText (acc.reverse ++ out)) ys := by
  induction h with
  | close ys =>
    intro f acc hf
    obtain ⟨g, rfl⟩ : ∃ g, f = g + 1 := ⟨f - 1, by simp at hf; omega⟩
    rw [readString.loop]
    refine (peek_bind _ _).trans ?_
    rw [List.head?_cons, List.append_nil]
    exact eat_bind _ _ _
  | @plain b xs out ys hb _ ih =>
    intro f acc hf
    obtain ⟨g, rfl⟩ : ∃ g, f = g + 1 := ⟨f - 1, by simp at hf; omega⟩
    obtain ⟨hlow, hq, hs⟩ := hb
    have hlt : ¬ b < 32 := by simp [UInt8.lt_iff_toNat_lt]; omega
    rw [readString.loop]
    refine (peek_bind _ _).trans ?_
    simp only [List.head?_cons, beq_iff_eq, hq, hs, hlt, if_false]
    refine (eat_bind _ _ _).trans ?_
    have hrun := ih g (b :: acc) (by simp at hf; omega)
    simpa using hrun
  | @escape xs zs out₁ out ys he _ ih =>
    intro f acc hf
    obtain ⟨g, rfl⟩ : ∃ g, f = g + 1 := ⟨f - 1, by simp at hf; omega⟩
    have hlen := he.length_lt
    rw [readString.loop]
    refine (peek_bind _ _).trans ?_
    simp only [List.head?_cons]
    rw [if_neg (by decide), if_pos (by decide)]
    refine (eat_bind _ _ _).trans ((he.yields acc).bind _ |>.trans ?_)
    have hrun := ih g (out₁.reverse ++ acc) (by simp at hf; omega)
    simpa using hrun

theorem StringBody.yields {xs ys : List UInt8} {s : String} (h : StringBody xs (utf8 s) ys)
    {f : Nat} (hf : xs.length ≤ f) : Yields (readString f) xs s ys := by
  have hrun := h.runs f [] hf
  rwa [List.reverse_nil, List.nil_append, decodeText_utf8_eq] at hrun

/-! ## Strings passed over -/

theorem Reader.Gives.skipEscape {xs ys : List UInt8} {u : Unit} (h : Gives skipEscape xs u ys) :
    LooseEscape xs ys := by
  unfold Reader.skipEscape at h
  cases xs with
  | nil => exact (Refuses.fail _).not_gives (Gives.of_runs (next_bind_nil _) h) |>.elim
  | cons b xs =>
    replace h := Gives.next_bind h
    dsimp only at h
    split at h
    · rename_i hb
      obtain ⟨-, rfl⟩ := Gives.pure h
      simp only [Bool.or_eq_true, beq_iff_eq] at hb
      rcases hb with ((((((rfl | rfl) | rfl) | rfl) | rfl) | rfl) | rfl) | rfl <;>
        exact LooseEscape.short _ (by decide)
    split at h
    · rename_i hu
      simp only [beq_iff_eq] at hu
      subst hu
      obtain ⟨n, zs, hn, h⟩ := Gives.bind h
      obtain ⟨-, rfl⟩ := Gives.pure h
      exact LooseEscape.unit (Gives.readHex4 hn)
    · exact (Refuses.fail _).not_gives h |>.elim

theorem LooseEscape.yields {xs ys : List UInt8} (h : LooseEscape xs ys) :
    Yields skipEscape xs () ys := by
  unfold skipEscape
  cases h with
  | @short e ys h =>
    refine (next_bind _ _ _).trans ?_
    simp only [shortEscapes, List.map_cons, List.map_nil, List.mem_cons, List.not_mem_nil,
      or_false] at h
    rcases h with rfl | rfl | rfl | rfl | rfl | rfl | rfl | rfl <;> exact Runs.refl _ _
  | unit h =>
    refine (next_bind _ _ _).trans ?_
    dsimp only
    rw [if_neg (by decide), if_pos (by decide)]
    exact (h.yields.bind _).trans (Runs.refl _ _)

theorem Reader.Gives.skipString : ∀ (f : Nat) {xs ys : List UInt8} {u : Unit},
    Gives (skipString f) xs u ys → LooseStringBody xs ys
  | 0, _, _, _, h => (Refuses.fail _).not_gives h |>.elim
  | f + 1, xs, ys, u, h => by
    rw [Reader.skipString] at h
    have h := Gives.peek_bind h
    cases xs with
    | nil => exact (Refuses.fail _).not_gives h |>.elim
    | cons b xs =>
      simp only [List.head?_cons] at h
      split at h
      · rename_i hq
        simp only [beq_iff_eq] at hq
        subst hq
        obtain ⟨c, c', hc, hc', hrun⟩ := h
        have hrest := Cursor.rest_consume hc
        cases hrun
        rw [hc'] at hrest
        rw [hrest]
        exact LooseStringBody.close _
      split at h
      · rename_i hbs
        simp only [beq_iff_eq] at hbs
        subst hbs
        obtain ⟨u₁, zs, he, h⟩ := Gives.bind (Gives.eat_bind h)
        exact LooseStringBody.escape (Gives.skipEscape he) (Gives.skipString f h)
      split at h
      · exact (Refuses.fail _).not_gives h |>.elim
      · rename_i hq hbs hlt
        exact LooseStringBody.plain (plainByte_of_not hq hbs hlt)
          (Gives.skipString f (Gives.eat_bind h))

theorem LooseStringBody.yields {xs ys : List UInt8} (h : LooseStringBody xs ys) :
    ∀ f : Nat, xs.length ≤ f → Yields (skipString f) xs () ys := by
  induction h with
  | close ys =>
    intro f hf
    obtain ⟨g, rfl⟩ : ∃ g, f = g + 1 := ⟨f - 1, by simp at hf; omega⟩
    rw [skipString]
    refine (peek_bind _ _).trans ?_
    rw [List.head?_cons]
    exact eat_yields _ _
  | @plain b xs ys hb _ ih =>
    intro f hf
    obtain ⟨g, rfl⟩ : ∃ g, f = g + 1 := ⟨f - 1, by simp at hf; omega⟩
    obtain ⟨hlow, hq, hs⟩ := hb
    have hlt : ¬ b < 32 := by simp [UInt8.lt_iff_toNat_lt]; omega
    rw [skipString]
    refine (peek_bind _ _).trans ?_
    simp only [List.head?_cons, beq_iff_eq, hq, hs, hlt, if_false]
    exact (eat_bind _ _ _).trans (ih g (by simp at hf; omega))
  | @escape xs zs ys he _ ih =>
    intro f hf
    obtain ⟨g, rfl⟩ : ∃ g, f = g + 1 := ⟨f - 1, by simp at hf; omega⟩
    have hlen := he.length_lt
    rw [skipString]
    refine (peek_bind _ _).trans ?_
    simp only [List.head?_cons]
    rw [if_neg (by decide), if_pos (by decide)]
    exact (eat_bind _ _ _).trans ((he.yields.bind _).trans (ih g (by simp at hf; omega)))

/-! ## Integers -/

theorem digitChar_utf8 : ∀ d < 10, String.utf8EncodeChar (Nat.digitChar d) = [(48 + d).toUInt8] := by
  decide

theorem digit_lt {b : UInt8} (h : isDigit b = true) : digit b < 10 := by
  have hb : 48 ≤ b.toNat ∧ b.toNat ≤ 57 := by simpa [isDigit, UInt8.le_iff_toNat_le] using h
  unfold digit
  omega

/-- A digit byte is the text of its value. -/
theorem digitChar_bytes {b : UInt8} (h : isDigit b = true) :
    String.utf8EncodeChar (Nat.digitChar (digit b)) = [b] := by
  have hb : 48 ≤ b.toNat ∧ b.toNat ≤ 57 := by simpa [isDigit, UInt8.le_iff_toNat_le] using h
  rw [digitChar_utf8 _ (digit_lt h), digit, Nat.add_sub_cancel' hb.1]
  simp

/-- The bytes of the shortest decimal form of a natural number. -/
def decimalBytes (m : Nat) : List UInt8 := (Nat.toDigits 10 m).flatMap String.utf8EncodeChar

theorem decimalBytes_digit {b : UInt8} (h : isDigit b = true) : decimalBytes (digit b) = [b] := by
  rw [decimalBytes, Nat.toDigits_of_lt_base (digit_lt h), List.flatMap_singleton,
    digitChar_bytes h]

/-- A digit after the shortest form of a positive number makes the shortest form of the
number it makes. -/
theorem decimalBytes_snoc {m : Nat} (hm : 0 < m) {b : UInt8} (hb : isDigit b = true) :
    decimalBytes m ++ [b] = decimalBytes (m * 10 + digit b) := by
  rw [← decimalBytes_digit hb, decimalBytes, decimalBytes, decimalBytes, ← List.flatMap_append,
    Nat.toDigits_append_toDigits (by decide) hm (digit_lt hb), Nat.mul_comm]

theorem utf8_showInt_nonneg {n : Int} (h : 0 ≤ n) : utf8 (showInt n) = decimalBytes n.natAbs := by
  rw [utf8_showInt, if_neg (by omega), List.nil_append, decimalBytes]

theorem utf8_showInt_neg {n : Int} (h : n < 0) :
    utf8 (showInt n) = 45 :: decimalBytes n.natAbs := by
  rw [utf8_showInt, if_pos h, List.singleton_append, decimalBytes]

/-- What an integer reading gives for the digits of `m`: the number unsigned after no sign,
and, after a minus sign, its negative down to `-2^63`. -/
def IntResult (positive : Bool) (m : Nat) : Reader.Num → Prop
  | .unsigned k => positive = true ∧ k = m
  | .signed k => positive = false ∧ 0 < m ∧ m ≤ Nat.pow 2 63 ∧ k = -(m : Int)
  | .float _ => False

theorem Reader.Gives.finishNumber_int {p : Bool} {sig fuel : Nat} {xs ys : List UInt8}
    {num : Reader.Num} (h : Gives (finishNumber p sig fuel) xs num ys) (hnum : ∀ x, num ≠ .float x) :
    ys = xs ∧ (∀ b ∈ xs.head?, b ≠ 46 ∧ b ≠ 101 ∧ b ≠ 69) ∧ IntResult p sig num := by
  unfold Reader.finishNumber at h
  have h := Gives.peek_bind h
  split at h
  -- a point or an exponent makes a double
  iterate 3
    obtain ⟨x, zs, -, h⟩ := Gives.bind h
    exact absurd (Gives.pure h).1 (hnum x)
  rename_i hpt h101 h69
  have hhead : ∀ b ∈ xs.head?, b ≠ 46 ∧ b ≠ 101 ∧ b ≠ 69 := by
    intro b hb
    simp only [Option.mem_def] at hb
    exact ⟨fun h' => hpt (h' ▸ hb), fun h' => h101 (h' ▸ hb), fun h' => h69 (h' ▸ hb)⟩
  split at h
  · obtain ⟨rfl, rfl⟩ := Gives.pure h
    exact ⟨rfl, hhead, by simp_all [IntResult]⟩
  split at h
  · obtain ⟨rfl, -⟩ := Gives.pure h
    exact absurd rfl (hnum _)
  split at h
  · rename_i hp hzero hle
    obtain ⟨rfl, rfl⟩ := Gives.pure h
    simp only [Bool.not_eq_true, beq_iff_eq] at hp hzero
    exact ⟨rfl, hhead, hp, Nat.pos_of_ne_zero hzero, hle, rfl⟩
  · obtain ⟨rfl, -⟩ := Gives.pure h
    exact absurd rfl (hnum _)

/-- Digits read onto a positive significand, to an integer: the digits read continue the
shortest form of the significand to that of the integer, and nothing that goes on a number
follows them. -/
theorem Reader.Gives.readNumber_loop_int {p : Bool} {fuel : Nat} :
    ∀ (f sig : Nat) {xs ys : List UInt8} {num : Reader.Num}, 0 < sig → sig ≤ natMax →
      xs.length < f → Gives (readNumber.loop p fuel f sig) xs num ys → (∀ x, num ≠ .float x) →
      ∃ m, decimalBytes sig ++ xs = decimalBytes m ++ ys ∧ EndsNumber ys ∧ m ≤ natMax ∧
        IntResult p m num
  | 0, _, _, _, _, _, _, hf, _, _ => absurd hf (Nat.not_lt_zero _)
  | f + 1, sig, xs, ys, num, hpos, hmax, hf, h, hnum => by
    rw [readNumber.loop] at h
    have h := Gives.peek_bind h
    cases xs with
    | nil =>
      obtain ⟨rfl, -, hres⟩ := Gives.finishNumber_int h hnum
      exact ⟨sig, rfl, (fun _ hb => by simp at hb), hmax, hres⟩
    | cons c xs =>
      simp only [List.head?_cons] at h
      split at h
      · rename_i hc
        split at h
        · -- more digits than 64 bits hold make a double
          obtain ⟨x, zs, -, h⟩ := Gives.bind h
          exact absurd (Gives.pure h).1 (hnum x)
        · rename_i hover
          simp only [overflows, decide_eq_true_eq, not_lt] at hover
          obtain ⟨m, heq, hend, hm, hres⟩ := readNumber_loop_int f (sig * 10 + digit c)
            (by omega) hover (by simp at hf; omega) (Gives.eat_bind h) hnum
          refine ⟨m, ?_, hend, hm, hres⟩
          rw [← heq, ← decimalBytes_snoc hpos hc, List.append_assoc, List.singleton_append]
      · rename_i hc
        obtain ⟨rfl, hpt, hres⟩ := Gives.finishNumber_int h hnum
        refine ⟨sig, rfl, ?_, hmax, hres⟩
        intro b hb
        simp only [List.head?_cons, Option.mem_def, Option.some.injEq] at hb
        subst hb
        exact ⟨by simpa using hc, hpt _ rfl⟩

/-- A number read to an integer is the shortest decimal form of its size, with nothing after
it that goes on a number. -/
theorem Reader.Gives.readNumber_int {p : Bool} {fuel : Nat} {xs ys : List UInt8} {num : Reader.Num}
    (h : Gives (readNumber p fuel) xs num ys) (hf : xs.length ≤ fuel)
    (hnum : ∀ x, num ≠ .float x) :
    ∃ m, xs = decimalBytes m ++ ys ∧ EndsNumber ys ∧ m ≤ natMax ∧ IntResult p m num := by
  unfold Reader.readNumber at h
  cases xs with
  | nil => exact (Refuses.fail _).not_gives (Gives.of_runs (next_bind_nil _) h) |>.elim
  | cons b xs =>
    replace h := Gives.next_bind h
    dsimp only at h
    split at h
    · -- a lone zero
      rename_i hzero
      simp only [beq_iff_eq] at hzero
      subst hzero
      have h := Gives.peek_bind h
      have hdigit : ∀ c ∈ xs.head?, isDigit c = false := by
        intro c hc
        simp only [Option.mem_def] at hc
        rw [hc] at h
        dsimp only at h
        split at h
        · exact (Refuses.failAhead _).not_gives h |>.elim
        · exact Bool.eq_false_iff.2 ‹_›
      have h : Gives (finishNumber p 0 fuel) xs num ys := by
        cases hx : xs.head? with
        | none => rwa [hx] at h
        | some c =>
          rw [hx] at h
          dsimp only at h
          rwa [if_neg (by simpa using hdigit c hx)] at h
      obtain ⟨rfl, hpt, hres⟩ := Gives.finishNumber_int h hnum
      exact ⟨0, by rw [decimalBytes, Nat.toDigits_zero]; rfl,
        fun c hc => ⟨hdigit c hc, hpt c hc⟩, by decide, hres⟩
    split at h
    · rename_i hzero hdigit
      simp only [beq_iff_eq] at hzero
      have hpos : 0 < digit b := by
        have hb : 48 ≤ b.toNat ∧ b.toNat ≤ 57 := by
          simpa [isDigit, UInt8.le_iff_toNat_le] using hdigit
        have hne : b.toNat ≠ 48 := fun h' => hzero (UInt8.toNat_inj.1 h')
        unfold digit
        omega
      obtain ⟨m, heq, hend, hm, hres⟩ := Gives.readNumber_loop_int fuel (digit b) hpos
        (by have := digit_lt hdigit; have : natMax = 18446744073709551615 := rfl; omega)
        (by simp at hf; omega) h hnum
      refine ⟨m, ?_, hend, hm, hres⟩
      rw [← heq, decimalBytes_digit hdigit, List.singleton_append]
    · exact (Refuses.fail _).not_gives h |>.elim

theorem Reader.Gives.asInt64 {num : Reader.Num} {xs ys : List UInt8} {v : Json}
    (h : Gives (asInt64 num) xs v ys) :
    ys = xs ∧ ((∃ k, num = .unsigned k ∧ (k : Int) ≤ int64Max ∧ v = .int k) ∨
      ∃ k, num = .signed k ∧ v = .int k) := by
  unfold Reader.asInt64 at h
  split at h
  · split at h
    · rename_i k hk
      obtain ⟨rfl, rfl⟩ := Gives.pure h
      exact ⟨rfl, .inl ⟨k, rfl, hk, rfl⟩⟩
    · exact (Refuses.failDataHere _).not_gives h |>.elim
  · rename_i k
    obtain ⟨rfl, rfl⟩ := Gives.pure h
    exact ⟨rfl, .inr ⟨k, rfl, rfl⟩⟩
  · exact (Refuses.failDataHere _).not_gives h |>.elim

/-- A value of another kind than the one asked for is refused, however it is written. -/
theorem refuseKind_refuses {α : Type} (expected : String) (fuel : Nat) :
    Refuses (refuseKind expected fuel : Reader α) := by
  unfold refuseKind
  refine Refuses.bind fun b => ?_
  split
  -- every branch reads what it can and then refuses
  all_goals
    repeat (first
      | exact Refuses.failDataHere _
      | exact Refuses.failAhead _
      | refine Refuses.bind fun _ => ?_
      | split)

/-- An integer read for a 64-bit field is, after the blanks, the shortest decimal form of a
number in the range. -/
theorem Reader.Gives.readInt64 {f : Nat} {xs ys : List UInt8} {v : Json}
    (h : Gives (readInt64 f) xs v ys) (hf : (afterBlanks xs).length ≤ f) :
    ∃ n, v = .int n ∧ Int64Text (afterBlanks xs) n ys := by
  unfold Reader.readInt64 at h
  have h := Gives.skipBlank_bind h
  generalize afterBlanks xs = zs at h hf ⊢
  cases zs with
  | nil => exact (Refuses.failAhead _).not_gives h |>.elim
  | cons b zs =>
    simp only [List.head?_cons] at h
    split at h
    · exact (Refuses.failAhead _).not_gives h |>.elim
    · -- a minus sign, and the digits of a negative number
      rename_i hb
      cases Option.some.inj hb
      obtain ⟨num, ws, hread, hint⟩ := Gives.bind (Gives.eat_bind h)
      obtain ⟨rfl, hk⟩ := Gives.asInt64 hint
      have hnum : ∀ x, num ≠ .float x := by
        rintro x rfl
        rcases hk with ⟨k, hk, -⟩ | ⟨k, hk, -⟩ <;> cases hk
      obtain ⟨m, rfl, hend, -, hres⟩ := Gives.readNumber_int hread (by simp at hf; omega) hnum
      rcases hk with ⟨k, rfl, -, -⟩ | ⟨k, rfl, rfl⟩
      · exact absurd hres.1 Bool.false_ne_true
      · obtain ⟨-, hpos, hle, rfl⟩ := hres
        have h63 : ((Nat.pow 2 63 : Nat) : Int) = 9223372036854775808 := rfl
        refine ⟨_, rfl, ?_, hend, ?_, ?_⟩
        · rw [utf8_showInt_neg (by omega), show (-(m : Int)).natAbs = m by omega]
          rfl
        · show -9223372036854775808 ≤ -(m : Int)
          omega
        · show -(m : Int) ≤ 9223372036854775807
          omega
    · rename_i b' hne heq
      cases Option.some.inj heq
      split at h
      · -- the digits of a natural number
        rename_i hdigit
        obtain ⟨num, ws, hread, hint⟩ := Gives.bind h
        obtain ⟨rfl, hk⟩ := Gives.asInt64 hint
        have hnum : ∀ x, num ≠ .float x := by
          rintro x rfl
          rcases hk with ⟨k, hk, -⟩ | ⟨k, hk, -⟩ <;> cases hk
        obtain ⟨m, hbytes, hend, -, hres⟩ := Gives.readNumber_int hread hf hnum
        rcases hk with ⟨k, rfl, hmax, rfl⟩ | ⟨k, rfl, rfl⟩
        · obtain ⟨-, rfl⟩ := hres
          have hmin : int64Min = -9223372036854775808 := rfl
          refine ⟨_, rfl, ?_, hend, by omega, hmax⟩
          rw [utf8_showInt_nonneg (by omega), Int.natAbs_natCast]
          exact hbytes
        · exact absurd hres.1 (by decide)
      · exact (refuseKind_refuses _ _).not_gives h |>.elim

/-- The shortest decimal form of a number in the 64-bit range is read for a 64-bit field, after
any blanks, as long as the fuel lasts. -/
theorem Int64Text.yields {xs ys : List UInt8} {n : Int} (h : Int64Text (afterBlanks xs) n ys)
    {f : Nat} (hf : (afterBlanks xs).length ≤ f) : Yields (Reader.readInt64 f) xs (.int n) ys := by
  obtain ⟨hbytes, hend, hlow, hhigh⟩ := h
  have hmin : int64Min = -((Nat.pow 2 63 : Nat) : Int) := rfl
  have hmax : int64Max ≤ (natMax : Int) := by decide
  unfold Reader.readInt64
  refine (skipBlank_bind_after _ xs).trans ?_
  rw [hbytes] at hf ⊢
  by_cases hneg : n < 0
  · -- a minus sign, then the digits of the size
    obtain ⟨ds, hds, hsigned⟩ := showInt_neg_yields hneg (by omega) f (by simp at hf; omega) hend
    rw [hds, List.cons_append, List.head?_cons]
    exact (eat_bind _ _ _).trans ((hsigned.bind _).trans (Runs.refl _ _))
  · -- the digits of the number
    obtain ⟨b, bs, hbs, hdigit, hunsigned⟩ :=
      showInt_nonneg_yields (n := n) (by omega) (by omega) f (by simp at hf; omega) hend
    rw [hbs] at hunsigned ⊢
    rw [List.cons_append, List.head?_cons]
    split <;> rename_i heq
    · cases heq
    · cases Option.some.inj heq
      exact absurd hdigit (by decide)
    · cases Option.some.inj heq
      rw [if_pos hdigit, ← List.cons_append]
      refine (hunsigned.bind _).trans ?_
      unfold asInt64
      dsimp only
      rw [if_pos (by omega), show ((n.natAbs : Nat) : Int) = n by omega]
      exact Runs.refl _ _

/-! ## Numbers passed over -/

theorem Reader.Gives.skipDigits : ∀ (f : Nat) {xs ys : List UInt8} {u : Unit},
    Gives (skipDigits f) xs u ys → xs.length < f → Digits xs ys
  | 0, _, _, _, _, hf => absurd hf (Nat.not_lt_zero _)
  | f + 1, xs, ys, u, h, hf => by
    rw [Reader.skipDigits] at h
    have h := Gives.peek_bind h
    cases xs with
    | nil =>
      obtain ⟨-, rfl⟩ := Gives.pure h
      exact ⟨[], rfl, by simp, by simp⟩
    | cons b xs =>
      simp only [List.head?_cons] at h
      split at h
      · rename_i hb
        obtain ⟨ds, rfl, hds, hend⟩ :=
          Gives.skipDigits f (Gives.eat_bind h) (by simp at hf; omega)
        refine ⟨b :: ds, rfl, ?_, hend⟩
        intro d hd
        rcases List.mem_cons.1 hd with rfl | hd
        · exact hb
        · exact hds d hd
      · rename_i hb
        obtain ⟨-, rfl⟩ := Gives.pure h
        exact ⟨[], rfl, by simp, by simpa using hb⟩

theorem Digits.yields {xs ys : List UInt8} (h : Digits xs ys) {f : Nat} (hf : xs.length ≤ f) :
    Yields (skipDigits f) xs () ys := by
  obtain ⟨ds, rfl, hds, hend⟩ := h
  induction ds generalizing f with
  | nil =>
    rw [List.nil_append]
    cases f with
    | zero => exact Yields.pure _ _
    | succ f =>
      rw [skipDigits]
      refine (peek_bind _ _).trans ?_
      cases hy : ys.head? with
      | none => exact Runs.refl _ _
      | some b =>
        dsimp only
        rw [if_neg (by simpa using hend b hy)]
        exact Runs.refl _ _
  | cons d ds ih =>
    obtain ⟨g, rfl⟩ : ∃ g, f = g + 1 := ⟨f - 1, by simp at hf; omega⟩
    rw [skipDigits]
    refine (peek_bind _ _).trans ?_
    rw [List.cons_append, List.head?_cons]
    dsimp only
    rw [if_pos (hds d List.mem_cons_self)]
    exact (eat_bind _ _ _).trans
      (ih (by simp at hf ⊢; omega) (fun x hx => hds x (List.mem_cons_of_mem d hx)))

theorem SomeDigits.yields {xs ys : List UInt8} (h : SomeDigits xs ys) {f : Nat}
    (hf : xs.length ≤ f) : Yields (skipDigits f) xs () ys := by
  obtain ⟨d, zs, rfl, hd, ds, rfl, hds, hend⟩ := h
  refine Digits.yields ⟨d :: ds, rfl, ?_, hend⟩ hf
  intro x hx
  rcases List.mem_cons.1 hx with rfl | hx
  · exact hd
  · exact hds x hx

theorem Reader.Gives.skipExponent {f : Nat} {e : UInt8} {zs ys : List UInt8} {u : Unit}
    (h : Gives (skipExponent f) (e :: zs) u ys) (hf : zs.length ≤ f) :
    ∃ ws, (zs = 43 :: ws ∨ zs = 45 :: ws ∨ zs = ws) ∧ SomeDigits ws ys := by
  unfold Reader.skipExponent at h
  have h := Gives.peek_bind (Gives.eat_bind h)
  extract_lets jp at h
  -- after the optional sign, a digit and the digits after it
  have hjp : ∀ {ws : List UInt8}, Gives (jp ()) ws u ys → ws.length ≤ f → SomeDigits ws ys := by
    intro ws hws hlen
    simp only [jp] at hws
    cases ws with
    | nil => exact (Refuses.fail _).not_gives (Gives.of_runs (next_bind_nil _) hws) |>.elim
    | cons d ws =>
      have hws := Gives.next_bind hws
      dsimp only at hws
      split at hws
      · exact ⟨d, ws, rfl, ‹_›, Gives.skipDigits f hws (by simp at hlen; omega)⟩
      · exact (Refuses.fail _).not_gives hws |>.elim
  cases zs with
  | nil => exact ⟨[], .inr (.inr rfl), hjp h (Nat.zero_le _)⟩
  | cons b zs =>
    simp only [List.head?_cons] at h
    split at h
    · rename_i hb
      cases Option.some.inj hb
      exact ⟨zs, .inl rfl, hjp (Gives.eat_bind h) (by simp at hf; omega)⟩
    · rename_i hb
      cases Option.some.inj hb
      exact ⟨zs, .inr (.inl rfl), hjp (Gives.eat_bind h) (by simp at hf; omega)⟩
    · exact ⟨b :: zs, .inr (.inr rfl), hjp h hf⟩

theorem skipExponent_yields {f : Nat} {e : UInt8} {zs ws ys : List UInt8}
    (hsign : zs = 43 :: ws ∨ zs = 45 :: ws ∨ zs = ws) (hd : SomeDigits ws ys)
    (hf : zs.length ≤ f) : Yields (skipExponent f) (e :: zs) () ys := by
  unfold skipExponent
  refine (eat_bind _ _ _).trans ((peek_bind _ _).trans ?_)
  extract_lets jp
  -- after the optional sign, a digit and the digits after it
  have hjp : ∀ {vs : List UInt8}, SomeDigits vs ys → vs.length ≤ f → Yields (jp ()) vs () ys := by
    intro vs hvs hlen
    obtain ⟨d, us, rfl, hdigit, hus⟩ := hvs
    simp only [jp]
    refine (next_bind _ _ _).trans ?_
    dsimp only
    rw [if_pos hdigit]
    exact hus.yields (by simp at hlen; omega)
  rcases hsign with rfl | rfl | rfl
  · exact (eat_bind _ _ _).trans (hjp hd (by simp at hf; omega))
  · exact (eat_bind _ _ _).trans (hjp hd (by simp at hf; omega))
  · obtain ⟨d, us, rfl, hdigit, hus⟩ := hd
    rw [List.head?_cons]
    split
    · rename_i heq
      cases Option.some.inj heq
      exact absurd hdigit (by decide)
    · rename_i heq
      cases Option.some.inj heq
      exact absurd hdigit (by decide)
    · exact hjp ⟨d, us, rfl, hdigit, hus⟩ hf

/-- Digits that begin with a digit are some digits. -/
theorem Digits.someDigits {c : UInt8} {zs ys : List UInt8} (h : Digits (c :: zs) ys)
    (hc : isDigit c = true) : SomeDigits (c :: zs) ys := by
  obtain ⟨ds, hds, hall, hend⟩ := h
  cases ds with
  | nil =>
    rw [List.nil_append] at hds
    subst hds
    exact absurd (hend c rfl) (by simp [hc])
  | cons d ds =>
    simp only [List.cons_append, List.cons.injEq] at hds
    obtain ⟨rfl, rfl⟩ := hds
    exact ⟨c, ds ++ ys, rfl, hc, ds, rfl, fun x hx => hall x (List.mem_cons_of_mem c hx), hend⟩

theorem Reader.Gives.skipNumber {f : Nat} {xs ys : List UInt8} {u : Unit}
    (h : Gives (skipNumber f) xs u ys) (hf : xs.length ≤ f) : NumberText xs ys := by
  unfold Reader.skipNumber at h
  extract_lets jp at h
  -- the fraction and the exponent, after the integer part
  have hjp : ∀ {zs : List UInt8}, Gives (jp ()) zs u ys → zs.length ≤ f →
      ∃ ws, FractionPart zs ws ∧ ExponentPart ws ys := by
    intro zs hzs hlen
    simp only [jp] at hzs
    have hzs := Gives.peek_bind hzs
    cases zs with
    | nil =>
      obtain ⟨-, rfl⟩ := Gives.pure hzs
      exact ⟨[], .inl ⟨rfl, by simp⟩, .inl ⟨rfl, by simp, by simp⟩⟩
    | cons b zs =>
      simp only [List.head?_cons] at hzs
      split at hzs
      · -- a point, then digits and an optional exponent
        rename_i hb
        cases Option.some.inj hb
        have hzs := Gives.peek_bind (Gives.eat_bind hzs)
        cases zs with
        | nil => exact (Refuses.failAhead _).not_gives hzs |>.elim
        | cons c zs =>
          simp only [List.head?_cons] at hzs
          split at hzs
          · rename_i hc
            obtain ⟨_, ws, hdigits, hzs⟩ := Gives.bind hzs
            have hfrac := (Gives.skipDigits f hdigits (by simp at hlen ⊢; omega)).someDigits hc
            have hzs := Gives.peek_bind hzs
            refine ⟨ws, .inr ⟨c :: zs, rfl, hfrac⟩, ?_⟩
            cases ws with
            | nil =>
              obtain ⟨-, rfl⟩ := Gives.pure hzs
              exact .inl ⟨rfl, by simp, by simp⟩
            | cons e ws =>
              have hws := hfrac.length_lt
              simp only [List.head?_cons] at hzs
              split at hzs
              · rename_i he
                cases Option.some.inj he
                obtain ⟨vs, hsign, hd⟩ := Gives.skipExponent hzs (by simp at hlen hws ⊢; omega)
                exact .inr ⟨101, ws, vs, rfl, .inl rfl, hsign, hd⟩
              · rename_i he
                cases Option.some.inj he
                obtain ⟨vs, hsign, hd⟩ := Gives.skipExponent hzs (by simp at hlen hws ⊢; omega)
                exact .inr ⟨69, ws, vs, rfl, .inr rfl, hsign, hd⟩
              · rename_i h101 h69
                obtain ⟨-, rfl⟩ := Gives.pure hzs
                exact .inl ⟨rfl, by simpa using h101, by simpa using h69⟩
          · exact (Refuses.failAhead _).not_gives hzs |>.elim
      · rename_i hb
        cases Option.some.inj hb
        obtain ⟨vs, hsign, hd⟩ := Gives.skipExponent hzs (by simp at hlen; omega)
        exact ⟨101 :: zs, .inl ⟨rfl, by simp⟩, .inr ⟨101, zs, vs, rfl, .inl rfl, hsign, hd⟩⟩
      · rename_i hb
        cases Option.some.inj hb
        obtain ⟨vs, hsign, hd⟩ := Gives.skipExponent hzs (by simp at hlen; omega)
        exact ⟨69 :: zs, .inl ⟨rfl, by simp⟩, .inr ⟨69, zs, vs, rfl, .inr rfl, hsign, hd⟩⟩
      · rename_i h46 h101 h69
        obtain ⟨-, rfl⟩ := Gives.pure hzs
        exact ⟨b :: zs, .inl ⟨rfl, by simpa using h46⟩, .inl ⟨rfl, by simpa using h101,
          by simpa using h69⟩⟩
  -- the integer part: a lone zero, or digits that do not begin with zero
  cases xs with
  | nil => exact (Refuses.fail _).not_gives (Gives.of_runs (next_bind_nil _) h) |>.elim
  | cons b xs =>
    replace h := Gives.next_bind h
    split at h
    · rename_i hb
      cases Option.some.inj hb
      have h := Gives.peek_bind h
      have hint : IntegerPart (48 :: xs) xs ∧ Gives (jp ()) xs u ys := by
        cases xs with
        | nil => exact ⟨.inl ⟨rfl, by simp⟩, h⟩
        | cons c xs =>
          simp only [List.head?_cons] at h
          split at h
          · exact (Refuses.bind_of_left (Refuses.failAhead _)).not_gives h |>.elim
          · rename_i hc
            exact ⟨.inl ⟨rfl, fun d hd => by simp at hd; subst hd; simpa using hc⟩, h⟩
      obtain ⟨ws, hfrac, hexp⟩ := hjp hint.2 (by simp at hf; omega)
      exact ⟨xs, ws, hint.1, hfrac, hexp⟩
    · rename_i b' hne heq
      cases Option.some.inj heq
      split at h
      · rename_i hb
        obtain ⟨_, zs, hdigits, h⟩ := Gives.bind h
        have hd := Gives.skipDigits f hdigits (by simp at hf; omega)
        have hint : IntegerPart (b :: xs) zs := by
          refine .inr ⟨by simpa using hne, b, xs, rfl, hb, hd⟩
        obtain ⟨ws, hfrac, hexp⟩ := hjp h (by have := hint; have := hd.length_le; simp at hf; omega)
        exact ⟨zs, ws, hint, hfrac, hexp⟩
      · exact (Refuses.bind_of_left (Refuses.fail _)).not_gives h |>.elim
    · exact (Refuses.bind_of_left (Refuses.fail _)).not_gives h |>.elim

/-- The exponent of a number, or nothing, read where the reader looks for one. -/
theorem ExponentPart.runs {ws ys : List UInt8} (h : ExponentPart ws ys) {f : Nat}
    (hf : ws.length ≤ f) {k : Option UInt8 → Reader Unit}
    (h101 : k (some 101) = skipExponent f) (h69 : k (some 69) = skipExponent f)
    (hother : ws.head? ≠ some 101 → ws.head? ≠ some 69 → k ws.head? = pure ()) :
    Runs (peek >>= k) ws (pure ()) ys := by
  refine (peek_bind _ _).trans ?_
  rcases h with ⟨rfl, hne101, hne69⟩ | ⟨e, zs, vs, rfl, he, hsign, hd⟩
  · rw [hother hne101 hne69]
    exact Runs.refl _ _
  · rw [List.head?_cons]
    rcases he with rfl | rfl
    · rw [h101]
      exact skipExponent_yields hsign hd (by simp at hf; omega)
    · rw [h69]
      exact skipExponent_yields hsign hd (by simp at hf; omega)

theorem NumberText.yields {xs ys : List UInt8} (h : NumberText xs ys) {f : Nat}
    (hf : xs.length ≤ f) : Yields (skipNumber f) xs () ys := by
  obtain ⟨zs, ws, hint, hfrac, hexp⟩ := h
  unfold skipNumber
  extract_lets jp
  -- the fraction and the exponent, after the integer part
  have hjp : ∀ {zs : List UInt8}, FractionPart zs ws → zs.length ≤ f → Yields (jp ()) zs () ys := by
    intro zs hfrac hlen
    simp only [jp]
    rcases hfrac with ⟨rfl, hne46⟩ | ⟨us, rfl, hsome⟩
    · refine hexp.runs hlen rfl rfl fun h101 h69 => ?_
      split
      · exact absurd ‹_› hne46
      · exact absurd ‹_› h101
      · exact absurd ‹_› h69
      · rfl
    · refine (peek_bind _ _).trans ?_
      rw [List.head?_cons]
      refine (eat_bind _ _ _).trans ((peek_bind _ _).trans ?_)
      obtain ⟨c, vs, rfl, hc, hvs⟩ := hsome
      rw [List.head?_cons]
      dsimp only
      rw [if_pos hc]
      have hws := (show SomeDigits (c :: vs) ws from ⟨c, vs, rfl, hc, hvs⟩).length_lt
      refine ((SomeDigits.yields ⟨c, vs, rfl, hc, hvs⟩ (by simp at hlen ⊢; omega)).bind _).trans ?_
      refine hexp.runs (by simp at hlen hws; omega) rfl rfl fun h101 h69 => ?_
      split
      · exact absurd ‹_› h101
      · exact absurd ‹_› h69
      · rfl
  have hzs : zs.length ≤ f := by
    have := hint
    rcases hint with ⟨rfl, -⟩ | ⟨-, hd⟩
    · simp at hf; omega
    · have := hd.length_lt; omega
  -- the integer part: a lone zero, or digits that do not begin with zero
  rcases hint with ⟨rfl, hnd⟩ | ⟨hne, d, us, rfl, hd, hus⟩
  · refine (next_bind _ _ _).trans ?_
    refine (peek_bind _ _).trans ?_
    cases hz : zs.head? with
    | none => exact hjp hfrac hzs
    | some c =>
      dsimp only
      rw [if_neg (by simpa using hnd c hz)]
      exact hjp hfrac hzs
  · refine (next_bind _ _ _).trans ?_
    split
    · exact absurd (by rename_i h; exact (Option.some.inj h) ▸ rfl) hne
    · rename_i b hne' heq
      cases Option.some.inj heq
      rw [if_pos hd]
      exact (hus.yields (by simp at hf; omega)).bind _ |>.trans (hjp hfrac hzs)
    · rename_i heq
      cases heq

end Tintbook.Json
