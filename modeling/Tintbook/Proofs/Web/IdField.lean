import Tintbook.Proofs.Web.Command
/-!
# What an id given as text names

An id given as text is trimmed of blanks at both ends, blanks being the characters of the
Unicode property White_Space. Nothing left means that no id was given, and a new formula is
made. Otherwise the trimmed text must be a decimal literal of a 64-bit integer: an optional `+`
or `-`, then one or more ASCII digits, whose value lies within `[-2^63, 2^63 - 1]`. The range
is not symmetric, so `-9223372036854775808` names an id and `9223372036854775808` does not.
Any other text is refused as no valid id, and the refusal quotes the trimmed text.

The reader takes the digits from left to right onto a magnitude and stops as soon as the
magnitude passes its bound. The magnitude only grows, so the reader fails exactly when a
character is no digit or the value of all the digits passes the bound
(`Integer.accumulate_ok_iff`); the bound of a negative literal is one larger. Stated against
the grammar `DecimalLiteral`, a text reads as an integer exactly when it is a literal of one
within the range (`readInteger_ok_iff`).

## What this module delivers

- `DecimalLiteral`: signed decimal literals and their values.
- `Integer.accumulate_ok_iff`, `readInteger_ok_iff`, `readInt64_ok_iff`.
- `readFormulaId_accepts_exactly_literals`: the three outcomes of reading an id, and every
  64-bit integer read back from its decimal text.
-/

set_option autoImplicit false

namespace Tintbook

/-- A decimal literal and the integer it writes: an optional sign, then one or more ASCII
digits read in base ten. -/
inductive DecimalLiteral : List Char → Int → Prop
  | unsigned {ds : List Char} : ds ≠ [] → (∀ c ∈ ds, c.isDigit = true) →
      DecimalLiteral ds (Nat.ofDigitChars 10 ds 0)
  | plus {ds : List Char} : ds ≠ [] → (∀ c ∈ ds, c.isDigit = true) →
      DecimalLiteral ('+' :: ds) (Nat.ofDigitChars 10 ds 0)
  | minus {ds : List Char} : ds ≠ [] → (∀ c ∈ ds, c.isDigit = true) →
      DecimalLiteral ('-' :: ds) (-(Nat.ofDigitChars 10 ds 0 : Int))

/-! ## The grammar by its first character -/

theorem not_decimalLiteral_nil {n : Int} : ¬ DecimalLiteral [] n := by
  rintro (⟨h, _⟩ | _ | _)
  exact h rfl

theorem decimalLiteral_minus_iff {ds : List Char} {n : Int} :
    DecimalLiteral ('-' :: ds) n ↔
      ds ≠ [] ∧ (∀ c ∈ ds, c.isDigit = true) ∧ n = -(Nat.ofDigitChars 10 ds 0 : Int) := by
  constructor
  · rintro (⟨_, hd⟩ | ⟨_, _⟩ | ⟨hne, hd⟩)
    · exact absurd (hd '-' List.mem_cons_self) (by decide)
    · exact ⟨hne, hd, rfl⟩
  · rintro ⟨hne, hd, rfl⟩
    exact .minus hne hd

theorem decimalLiteral_plus_iff {ds : List Char} {n : Int} :
    DecimalLiteral ('+' :: ds) n ↔
      ds ≠ [] ∧ (∀ c ∈ ds, c.isDigit = true) ∧ n = (Nat.ofDigitChars 10 ds 0 : Int) := by
  constructor
  · rintro (⟨_, hd⟩ | ⟨hne, hd⟩)
    · exact absurd (hd '+' List.mem_cons_self) (by decide)
    · exact ⟨hne, hd, rfl⟩
  · rintro ⟨hne, hd, rfl⟩
    exact .plus hne hd

theorem decimalLiteral_unsigned_iff {c : Char} {ds : List Char} {n : Int} (hp : c ≠ '+')
    (hm : c ≠ '-') :
    DecimalLiteral (c :: ds) n ↔
      (∀ x ∈ c :: ds, x.isDigit = true) ∧ n = (Nat.ofDigitChars 10 (c :: ds) 0 : Int) := by
  constructor
  · rintro (⟨_, hd⟩ | ⟨_, _⟩ | ⟨_, _⟩)
    · exact ⟨hd, rfl⟩
    · exact absurd rfl hp
    · exact absurd rfl hm
  · rintro ⟨hd, rfl⟩
    exact .unsigned (List.cons_ne_nil c ds) hd

/-! ## Reading digits -/

namespace Integer

theorem isDigit_of_digitValue? {c : Char} {d : Nat} (h : digitValue? c = some d) :
    c.isDigit = true ∧ d = c.toNat - '0'.toNat := by
  unfold digitValue? at h
  split at h
  · rename_i hc
    cases h
    exact ⟨by simpa [Char.isDigit, Char.le_def] using hc, rfl⟩
  · cases h

/-- **The digit loop succeeds exactly on digits whose value stays within the bound.** -/
theorem accumulate_ok_iff {bound acc m : Nat} {overflow : IntegerError} (cs : List Char)
    (hacc : acc ≤ bound) :
    accumulate bound overflow acc cs = .ok m ↔
      (∀ c ∈ cs, c.isDigit = true) ∧ Nat.ofDigitChars 10 cs acc = m ∧ m ≤ bound := by
  constructor
  · intro h
    -- induction on the digits; each magnitude on the way passed the bound check
    induction cs generalizing acc with
    | nil =>
      simp only [accumulate, Except.ok.injEq] at h
      subst h
      simp [hacc]
    | cons c cs ih =>
      simp only [accumulate] at h
      split at h
      · cases h
      · rename_i d hd
        obtain ⟨hc, rfl⟩ := isDigit_of_digitValue? hd
        split at h
        · cases h
        · obtain ⟨hds, hv, hm⟩ := ih (by omega) h
          refine ⟨?_, ?_, hm⟩
          · intro x hx
            rcases List.mem_cons.1 hx with rfl | hx
            · exact hc
            · exact hds x hx
          · rw [Nat.ofDigitChars_cons, Nat.mul_comm]
            exact hv
  · rintro ⟨hds, rfl, hm⟩
    exact accumulate_eq bound overflow cs acc hds hm

/-- Digits read onto nothing, taken as an integer and moved by `g`. -/
theorem map_accumulate_ok_iff {g : Int → Int} {bound : Nat} {o : IntegerError}
    {ds : List Char} {n : Int} :
    (accumulate bound o 0 ds).map g = .ok n ↔
      (∀ c ∈ ds, c.isDigit = true) ∧ Nat.ofDigitChars 10 ds 0 ≤ bound ∧
        g (Nat.ofDigitChars 10 ds 0) = n := by
  cases hacc : accumulate bound o 0 ds with
  | error e =>
    simp only [Except.map, bind, Except.bind, reduceCtorEq, false_iff, not_and]
    intro hds hb
    have hok : accumulate bound o 0 ds = .ok (Nat.ofDigitChars 10 ds 0) :=
      (accumulate_ok_iff ds (Nat.zero_le bound)).2 ⟨hds, rfl, hb⟩
    rw [hacc] at hok
    cases hok
  | ok m =>
    obtain ⟨hds, rfl, hb⟩ := (accumulate_ok_iff ds (Nat.zero_le bound)).1 hacc
    simp only [Except.map, bind, Except.bind, pure, Except.pure, Except.ok.injEq]
    exact ⟨fun h => ⟨hds, hb, h⟩, fun h => h.2.2⟩

end Integer

/-! ## Reading an integer -/

/-- **A text reads as an integer of a range around zero exactly when it is a decimal literal
of one.** -/
theorem readInteger_ok_iff {lo hi : Int} (hlo : lo ≤ 0) (hhi : 0 ≤ hi) (s : String) (n : Int) :
    readInteger lo hi s = .ok n ↔ DecimalLiteral s.toList n ∧ lo ≤ n ∧ n ≤ hi := by
  unfold readInteger
  -- one case for each pattern of the reader; a lone sign and the empty text are no literal
  split
  next h => simp [h, not_decimalLiteral_nil]
  next h => simp [h, decimalLiteral_plus_iff]
  next h => simp [h, decimalLiteral_minus_iff]
  next ds hne h =>
    rw [h, Integer.map_accumulate_ok_iff, decimalLiteral_minus_iff]
    constructor
    · rintro ⟨hd, hb, rfl⟩
      exact ⟨⟨hne, hd, rfl⟩, by omega, by omega⟩
    · rintro ⟨⟨-, hd, rfl⟩, hl, -⟩
      exact ⟨hd, by omega, rfl⟩
  next ds hne h =>
    rw [h, Integer.map_accumulate_ok_iff, decimalLiteral_plus_iff]
    constructor
    · rintro ⟨hd, hb, rfl⟩
      exact ⟨⟨hne, hd, rfl⟩, by omega, by omega⟩
    · rintro ⟨⟨-, hd, rfl⟩, -, hh⟩
      exact ⟨hd, by omega, rfl⟩
  next hnil _ _ hminus hplus =>
    obtain ⟨c, ds, h⟩ := List.exists_cons_of_ne_nil hnil
    rw [Integer.map_accumulate_ok_iff, h, decimalLiteral_unsigned_iff
      (fun hc => hplus ds (hc ▸ h)) (fun hc => hminus ds (hc ▸ h))]
    constructor
    · rintro ⟨hd, hb, rfl⟩
      exact ⟨⟨hd, rfl⟩, by omega, by omega⟩
    · rintro ⟨⟨hd, rfl⟩, -, hh⟩
      exact ⟨hd, by omega, rfl⟩

theorem readInt64_ok_iff (s : String) (n : Int) :
    readInt64 s = .ok n ↔ DecimalLiteral s.toList n ∧ int64Min ≤ n ∧ n ≤ int64Max :=
  readInteger_ok_iff (by decide) (by decide) s n

/-! ## Reading an id -/

theorem readFormulaId_ok_some_iff {raw : String} {n : Int} :
    readFormulaId raw = .ok (some n) ↔ readInt64 (Text.trimBlank raw) = .ok n := by
  unfold readFormulaId
  by_cases hempty : (Text.trimBlank raw).isEmpty
  · -- an empty text is no literal, and the reader refuses it too
    have hnone : readInt64 (Text.trimBlank raw) ≠ .ok n := by
      rw [Ne, readInt64_ok_iff, String.isEmpty_iff.1 hempty, String.toList_empty]
      exact fun h => not_decimalLiteral_nil h.1
    simp [hempty, hnone]
  · cases hread : readInt64 (Text.trimBlank raw) <;> simp [hempty, hread]

theorem int64_bounds (m : Int64) : int64Min ≤ m.toInt ∧ m.toInt ≤ int64Max := by
  have hlo := Int64.le_toInt m
  have hhi := Int64.toInt_le m
  have hmax : Int64.maxValue.toInt = int64Max := by decide
  unfold int64Min
  omega

/-- **An id given as text names exactly what its trimmed text writes.** The id is absent
exactly when the trimmed text is empty; it is `n` exactly when the trimmed text is a decimal
literal of `n` and `n` is a 64-bit integer; in every other case the text is refused as no valid
id, quoting the trimmed text. Every 64-bit integer is named by its own decimal text. -/
theorem readFormulaId_accepts_exactly_literals (raw : String) (n : Int) (f : Failure) :
    (readFormulaId raw = .ok none ↔ Text.trimBlank raw = "") ∧
      (readFormulaId raw = .ok (some n) ↔
        DecimalLiteral (Text.trimBlank raw).toList n ∧ int64Min ≤ n ∧ n ≤ int64Max) ∧
      (readFormulaId raw = .error f ↔
        Text.trimBlank raw ≠ "" ∧
          (∀ m, ¬ (DecimalLiteral (Text.trimBlank raw).toList m ∧ int64Min ≤ m ∧
            m ≤ int64Max)) ∧
          f = .invalid (.badId (Text.trimBlank raw))) ∧
      (Failure.invalid (.badId (Text.trimBlank raw))).message =
        "validation failed: formula_id '" ++ Text.trimBlank raw ++ "' is not a valid id" ∧
      ∀ m : Int64, readFormulaId (showInt m.toInt) = .ok (some m.toInt) := by
  refine ⟨?_, ?_, ?_, rfl, fun m => readFormulaId_showInt (int64_bounds m)⟩
  · rw [Submission.readFormulaId_ok_none_iff, Text.isBlankText, String.isEmpty_iff]
  · rw [readFormulaId_ok_some_iff, readInt64_ok_iff]
  · simp only [Submission.readFormulaId_error_iff, ne_eq, readInt64_ok_iff]

/-- The least 64-bit integer is an id, and one less is refused. -/
example :
    (readFormulaId " -9223372036854775808 ").toOption = some (some (-9223372036854775808)) ∧
    (readFormulaId "-9223372036854775809").toOption = none := by
  decide

end Tintbook
