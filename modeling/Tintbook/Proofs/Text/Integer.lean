import Tintbook.Proofs.Text.Tidy
/-!
# Ids read back from their decimal text

An id is written as its decimal text (`showInt`) and read back by the reader of 64-bit
integers (`readInt64`), which takes the digits from left to right onto a magnitude and stops
with a fault as soon as the magnitude passes its bound. The magnitudes on the way never
exceed the value of all the digits, so digits whose value lies within the bound are read
without a fault, to that value (`Integer.accumulate_eq`). Hence every integer of the 64-bit
range reads back from its text (`readInt64_showInt`), and, as the text holds no blank to trim,
an id given as that text names the same integer (`readFormulaId_showInt`).

## What this module delivers

- `Integer.accumulate_eq`, `Integer.accumulate_toDigits`: digits within the bound.
- `showInt_toList`, `showInt_nonBlank`: the characters of an integer's text.
- `readInt64_showInt`, `readFormulaId_showInt`.
-/

set_option autoImplicit false

namespace Tintbook

namespace Integer

theorem digitValue?_of_isDigit {c : Char} (h : c.isDigit = true) :
    digitValue? c = some (c.toNat - '0'.toNat) := by
  unfold digitValue?
  rw [if_pos]
  simpa [Char.isDigit, Char.le_def] using h

/-- Digits read onto a magnitude never leave it smaller. -/
theorem le_ofDigitChars (cs : List Char) (acc : Nat) : acc ≤ Nat.ofDigitChars 10 cs acc := by
  rw [Nat.ofDigitChars_eq_ofDigitChars_zero]
  calc acc ≤ 10 ^ cs.length * acc := Nat.le_mul_of_pos_left acc (Nat.pow_pos (by decide))
    _ ≤ _ := Nat.le_add_right _ _

/-- **Digits whose value stays within the bound are read to that value.** -/
theorem accumulate_eq (bound : Nat) (overflow : IntegerError) (cs : List Char) (acc : Nat)
    (hdigits : ∀ c ∈ cs, c.isDigit = true) (hbound : Nat.ofDigitChars 10 cs acc ≤ bound) :
    accumulate bound overflow acc cs = .ok (Nat.ofDigitChars 10 cs acc) := by
  -- induction on the digits, the magnitude read so far moving along
  induction cs generalizing acc with
  | nil => simp [accumulate]
  | cons c cs ih =>
    have hc := digitValue?_of_isDigit (hdigits c List.mem_cons_self)
    rw [Nat.ofDigitChars_cons] at hbound ⊢
    -- the magnitude after this digit is at most the value of all the digits
    have hnext := (le_ofDigitChars cs _).trans hbound
    simp only [accumulate, hc]
    rw [if_neg (by omega), Nat.mul_comm]
    exact ih _ (fun d hd => hdigits d (List.mem_cons_of_mem c hd)) hbound

theorem accumulate_toDigits {bound m : Nat} (overflow : IntegerError) (h : m ≤ bound) :
    accumulate bound overflow 0 (Nat.toDigits 10 m) = .ok m := by
  have hdigits : ∀ c ∈ Nat.toDigits 10 m, c.isDigit = true :=
    fun _ hc => Nat.isDigit_of_mem_toDigits (by decide) (by decide) hc
  rw [accumulate_eq bound overflow _ 0 hdigits (by rwa [Nat.ofDigitChars_ten_toDigits]),
    Nat.ofDigitChars_ten_toDigits]

end Integer

/-! ## The text of an integer -/

theorem showInt_toList (n : Int) :
    (showInt n).toList = (if n < 0 then ['-'] else []) ++ Nat.toDigits 10 n.natAbs := by
  unfold showInt
  split_ifs with h
  · simp
  · simp only [String.toList_ofList, List.nil_append]
    congr 1
    omega

theorem isBlank_of_isDigit {c : Char} (h : c.isDigit = true) : Text.isBlank c = false := by
  have hval : 48 ≤ c.toNat ∧ c.toNat ≤ 57 := by
    simp only [Char.isDigit, Bool.and_eq_true, decide_eq_true_eq, ge_iff_le,
      UInt32.le_iff_toNat_le] at h
    exact h
  cases hb : Text.isBlank c with
  | false => rfl
  | true =>
    rw [Text.isBlank_iff_mem_blankCodes] at hb
    simp only [Text.blankCodes, List.mem_cons, List.not_mem_nil, or_false] at hb
    omega

/-- The text of an integer is a sign and digits, none of them blank. -/
theorem showInt_nonBlank (n : Int) : ∀ c ∈ (showInt n).toList, Text.isBlank c = false := by
  intro c hc
  rw [showInt_toList, List.mem_append] at hc
  rcases hc with hsign | hdigit
  · split_ifs at hsign
    · rw [List.mem_singleton.1 hsign]
      decide
    · cases hsign
  · exact isBlank_of_isDigit (Nat.isDigit_of_mem_toDigits (by decide) (by decide) hdigit)

/-! ## Reading the text back -/

theorem readInteger_of_minus {s : String} {d : Char} {ds : List Char}
    (h : s.toList = '-' :: d :: ds) (lo hi : Int) :
    readInteger lo hi s = (Integer.accumulate lo.natAbs .tooSmall 0 (d :: ds)).map
      fun n => -(n : Int) := by
  unfold readInteger
  rw [h]
  rfl

theorem readInteger_of_digit {s : String} {d : Char} {ds : List Char}
    (h : s.toList = d :: ds) (hd : d.isDigit = true) (lo hi : Int) :
    readInteger lo hi s = (Integer.accumulate hi.toNat .tooLarge 0 (d :: ds)).map
      fun n => (n : Int) := by
  have hplus : d ≠ '+' := by
    rintro rfl
    cases hd
  have hminus : d ≠ '-' := by
    rintro rfl
    cases hd
  unfold readInteger
  rw [h]
  -- a digit first: no pattern of a sign applies
  split <;> first | rfl | simp_all

/-- **Every integer of the 64-bit range reads back from its decimal text.** -/
theorem readInt64_showInt {n : Int} (h : int64Min ≤ n ∧ n ≤ int64Max) :
    readInt64 (showInt n) = .ok n := by
  obtain ⟨d, ds, hds⟩ :=
    List.exists_cons_of_ne_nil (Nat.toDigits_ne_nil (n := n.natAbs) (b := 10))
  have hd : d.isDigit = true :=
    Nat.isDigit_of_mem_toDigits (by decide) (by decide) (hds ▸ List.mem_cons_self)
  have htext := showInt_toList n
  unfold readInt64
  by_cases hneg : n < 0
  · -- a minus sign, then the digits of the size
    rw [if_pos hneg, hds, List.singleton_append] at htext
    rw [readInteger_of_minus htext, ← hds, Integer.accumulate_toDigits _ (by
      unfold int64Min int64Max at *
      omega)]
    show Except.ok (-(n.natAbs : Int)) = Except.ok n
    congr 1
    omega
  · rw [if_neg hneg, hds, List.nil_append] at htext
    rw [readInteger_of_digit htext hd, ← hds, Integer.accumulate_toDigits _ (by
      unfold int64Min int64Max at *
      omega)]
    show Except.ok (n.natAbs : Int) = Except.ok n
    congr 1
    omega

/-- **An id given as the text of an integer of the 64-bit range names that integer.** -/
theorem readFormulaId_showInt {n : Int} (h : int64Min ≤ n ∧ n ≤ int64Max) :
    readFormulaId (showInt n) = .ok (some n) := by
  have htrim : Text.trimBlank (showInt n) = showInt n :=
    Text.trimBlank_eq_self (Text.tight_of_nonBlank (showInt_nonBlank n))
  have hfilled : (showInt n).isEmpty = false := by
    cases he : (showInt n).isEmpty with
    | false => rfl
    | true =>
      have hnil := congrArg String.toList (String.isEmpty_iff.1 he)
      rw [showInt_toList, String.toList_empty, List.append_eq_nil_iff] at hnil
      exact absurd hnil.2 Nat.toDigits_ne_nil
  unfold readFormulaId
  simp only [htrim, hfilled, Bool.false_eq_true, if_false, readInt64_showInt h]

end Tintbook
