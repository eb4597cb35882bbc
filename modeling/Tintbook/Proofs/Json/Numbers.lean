import Tintbook.Proofs.Json.Tokens
/-!
# Numbers read alike wherever they stand

The reader reads a number digit by digit through a family of loops (integer digits, digits
beyond 64 bits, a fraction, an exponent), each with fuel, and composes a double from the
significand and the exponent. What it reads does not depend on the line and column where the
number stands, nor on the fuel once the fuel passes the length of the text ahead
(`readNumber_agree`). The statement is made for each loop through one relation between two
readings (`Agree`): what the first gives from some cursor, the second yields from every cursor.

## What this module delivers

- `Reader.Agree`: one reading agrees with another on a text.
- `readNumber_agree`: numbers are read alike from every cursor and with any fuel past the text.
-/

set_option autoImplicit false

namespace Tintbook.Json

namespace Reader

variable {α β : Type}

/-- Two readings agree on the text `xs` when what the first gives there from some cursor, the
second yields there from every cursor, and neither reads back. -/
def Agree (r r' : Reader α) (xs : List UInt8) : Prop :=
  ∀ (v : α) (ys : List UInt8), Gives r xs v ys → Yields r' xs v ys ∧ ys.length ≤ xs.length

theorem Agree.pure (a : α) (xs : List UInt8) : Agree (Pure.pure a) (Pure.pure a) xs := by
  intro v ys h
  obtain ⟨rfl, rfl⟩ := Gives.pure h
  exact ⟨Yields.pure _ _, le_rfl⟩

theorem Agree.of_refuses {r : Reader α} (h : Refuses r) (r' : Reader α) (xs : List UInt8) :
    Agree r r' xs :=
  fun _ _ hg => (h.not_gives hg).elim

theorem Agree.bind {r r' : Reader α} {f f' : α → Reader β} {xs : List UInt8}
    (h : Agree r r' xs) (hk : ∀ a ys, Gives r xs a ys → Agree (f a) (f' a) ys) :
    Agree (r >>= f) (r' >>= f') xs := by
  intro v zs hg
  obtain ⟨a, ys, hr, hf⟩ := Gives.bind hg
  obtain ⟨hy, hys⟩ := h a ys hr
  obtain ⟨hz, hzs⟩ := hk a ys hr v zs hf
  exact ⟨(hy.bind f').trans hz, hzs.trans hys⟩

theorem Agree.of_runs {r r' s s' : Reader α} {xs ys : List UInt8} (h₁ : Runs r xs s ys)
    (h₂ : Runs r' xs s' ys) (hys : ys.length ≤ xs.length) (h : Agree s s' ys) :
    Agree r r' xs := by
  intro v zs hg
  obtain ⟨hz, hzs⟩ := h v zs (Gives.of_runs h₁ hg)
  exact ⟨h₂.trans hz, hzs.trans hys⟩

theorem Agree.ite {c : Prop} [Decidable c] {r₁ r₁' r₂ r₂' : Reader α} {xs : List UInt8}
    (h₁ : c → Agree r₁ r₁' xs) (h₂ : ¬c → Agree r₂ r₂' xs) :
    Agree (if c then r₁ else r₂) (if c then r₁' else r₂') xs := by
  by_cases hc : c
  · rw [if_pos hc, if_pos hc]
    exact h₁ hc
  · rw [if_neg hc, if_neg hc]
    exact h₂ hc

theorem Agree.peek_bind {k k' : Option UInt8 → Reader β} {xs : List UInt8}
    (h : Agree (k xs.head?) (k' xs.head?) xs) : Agree (peek >>= k) (peek >>= k') xs :=
  Agree.of_runs (Reader.peek_bind k xs) (Reader.peek_bind k' xs) le_rfl h

theorem Agree.eat_bind {k k' : Unit → Reader β} {b : UInt8} {xs : List UInt8}
    (h : Agree (k ()) (k' ()) xs) : Agree (eat >>= k) (eat >>= k') (b :: xs) :=
  Agree.of_runs (Reader.eat_bind k b xs) (Reader.eat_bind k' b xs) (by simp) h

/-! ## Composing a double -/

/-- Composing a double reads nothing: it is a value or a refusal. -/
theorem composeFloat.go_cases (f : Float) (e : Int) :
    ∀ n, (∃ x, composeFloat.go f e n = Pure.pure x) ∨ ∃ k, composeFloat.go f e n = fail k
  | 0 => .inl ⟨f, by rw [composeFloat.go]⟩
  | n + 1 => by
    rw [composeFloat.go]
    dsimp only
    split
    · split
      · split
        · exact .inr ⟨_, rfl⟩
        · exact .inl ⟨_, rfl⟩
      · exact .inl ⟨_, rfl⟩
    · split
      · exact .inl ⟨_, rfl⟩
      · split
        · exact .inr ⟨_, rfl⟩
        · exact composeFloat.go_cases _ _ n

theorem composeFloat_agree (p : Bool) (s : Nat) (e : Int) (xs : List UInt8) :
    Agree (composeFloat p s e) (composeFloat p s e) xs := by
  unfold composeFloat
  refine Agree.bind ?_ fun a ys _ => Agree.pure _ ys
  rcases composeFloat.go_cases (Decimal.ofNat s) e 8 with ⟨x, hx⟩ | ⟨k, hk⟩
  · rw [hx]
    exact Agree.pure x xs
  · rw [hk]
    exact Agree.of_refuses (Refuses.fail k) _ xs

theorem skipDigits_agree {f g : Nat} {xs : List UInt8} (hf : xs.length < f) (hg : xs.length < g) :
    Agree (skipDigits f) (skipDigits g) xs :=
  fun _ _ h => ⟨Digits.yields (Gives.skipDigits f h hf) hg.le, (Gives.skipDigits f h hf).length_le⟩

/-! ## Exponents -/

section Exponent

variable {p : Bool} {s : Nat} {st : Int}

theorem readExponent.loop_agree {fuel fuel' : Nat} {q : Bool} :
    ∀ (f g a : Nat) {xs : List UInt8}, xs.length ≤ f → xs.length ≤ g → xs.length ≤ fuel →
      xs.length ≤ fuel' →
      Agree (readExponent.loop p s st fuel q f a) (readExponent.loop p s st fuel' q g a) xs
  | 0, g, a, xs, hf, hg, _, _ => by
    obtain rfl : xs = [] := List.eq_nil_of_length_eq_zero (by omega)
    rw [readExponent.loop]
    cases g with
    | zero =>
      rw [readExponent.loop]
      exact composeFloat_agree _ _ _ _
    | succ g =>
      rw [readExponent.loop]
      exact Agree.of_runs (Runs.refl _ _) (Reader.peek_bind _ []) le_rfl
        (composeFloat_agree _ _ _ _)
  | f + 1, 0, a, xs, hf, hg, _, _ => by
    obtain rfl : xs = [] := List.eq_nil_of_length_eq_zero (by omega)
    rw [readExponent.loop, readExponent.loop]
    exact Agree.of_runs (Reader.peek_bind _ []) (Runs.refl _ _) le_rfl (composeFloat_agree _ _ _ _)
  | f + 1, g + 1, a, xs, hf, hg, hfuel, hfuel' => by
    rw [readExponent.loop, readExponent.loop]
    refine Agree.peek_bind ?_
    cases xs with
    | nil => exact composeFloat_agree _ _ _ _
    | cons c xs =>
      simp only [List.length_cons] at hf hg hfuel hfuel'
      simp only [List.head?_cons]
      refine Agree.ite (fun _ => Agree.eat_bind ?_) fun _ => composeFloat_agree _ _ _ _
      -- a digit too many for the exponent gives a zero, or a double out of range
      refine Agree.ite (fun _ => Agree.ite (fun _ => Agree.of_refuses (Refuses.fail _) _ _)
        fun _ => ?_) fun _ => readExponent.loop_agree f g _ (by omega) (by omega) (by omega)
          (by omega)
      exact Agree.bind (skipDigits_agree (by omega) (by omega)) fun _ _ _ => Agree.pure _ _

theorem readExponent_agree {fuel fuel' : Nat} {b : UInt8} {xs : List UInt8}
    (hf : (b :: xs).length ≤ fuel) (hf' : (b :: xs).length ≤ fuel') :
    Agree (readExponent p s st fuel) (readExponent p s st fuel') (b :: xs) := by
  unfold readExponent
  refine Agree.eat_bind (Agree.peek_bind ?_)
  extract_lets jp jp'
  -- after the sign, the digits of the exponent
  have hjp : ∀ (q : Bool) {ys : List UInt8}, ys.length < fuel → ys.length < fuel' →
      Agree (jp q) (jp' q) ys := by
    intro q ys hy hy'
    cases ys with
    | nil =>
      exact Agree.of_runs (next_bind_nil _) (next_bind_nil _) le_rfl
        (Agree.of_refuses (Refuses.fail _) _ _)
    | cons d ys =>
      simp only [List.length_cons] at hy hy'
      refine Agree.of_runs (next_bind _ d ys) (next_bind _ d ys) (by simp) ?_
      exact Agree.ite (fun _ => Agree.of_refuses (Refuses.fail _) _ _) fun _ =>
        readExponent.loop_agree fuel fuel' _ (by omega) (by omega) (by omega) (by omega)
  simp only [List.length_cons] at hf hf'
  cases xs with
  | nil => exact hjp Bool.true (by simp; omega) (by simp; omega)
  | cons c xs =>
    simp only [List.length_cons] at hf hf'
    simp only [List.head?_cons]
    -- the sign of the exponent, if any
    split
    · rename_i heq
      cases Option.some.inj heq
      refine Agree.eat_bind ?_
      simp only [pure_bind]
      exact hjp Bool.true (by omega) (by omega)
    · rename_i heq
      cases Option.some.inj heq
      refine Agree.eat_bind ?_
      simp only [pure_bind]
      exact hjp Bool.false (by omega) (by omega)
    · simp only [pure_bind]
      exact hjp Bool.true (by simp only [List.length_cons]; omega)
        (by simp only [List.length_cons]; omega)

end Exponent

/-! ## Fractions and long integers -/

section Fraction

variable {p : Bool} {s : Nat}

theorem readDecimalOverflow_agree {e : Int} {fuel fuel' : Nat} {xs : List UInt8}
    (hf : xs.length < fuel) (hf' : xs.length < fuel') :
    Agree (readDecimalOverflow p s e fuel) (readDecimalOverflow p s e fuel') xs := by
  unfold readDecimalOverflow
  refine Agree.bind (skipDigits_agree hf hf') fun _ ys hskip => Agree.peek_bind ?_
  have hys := (Gives.skipDigits fuel hskip hf).length_le
  cases ys with
  | nil => exact composeFloat_agree _ _ _ _
  | cons c ys =>
    simp only [List.head?_cons]
    split
    · exact readExponent_agree (by omega) (by omega)
    · exact readExponent_agree (by omega) (by omega)
    · exact composeFloat_agree _ _ _ _

theorem readDecimal.close_agree {b : Int} {fuel fuel' : Nat} {sig : Nat} {after : Int}
    {xs : List UInt8} (hf : xs.length ≤ fuel) (hf' : xs.length ≤ fuel') :
    Agree (readDecimal.close p b fuel sig after) (readDecimal.close p b fuel' sig after) xs := by
  unfold readDecimal.close
  -- a point with no digit after it is refused
  refine Agree.ite (fun _ => Agree.of_refuses (Refuses.bind fun o => ?_) _ _) fun _ =>
    Agree.peek_bind ?_
  · cases o <;> exact Refuses.failAhead _
  · cases xs with
    | nil => exact composeFloat_agree _ _ _ _
    | cons c xs =>
      simp only [List.head?_cons]
      split
      · exact readExponent_agree hf hf'
      · exact readExponent_agree hf hf'
      · exact composeFloat_agree _ _ _ _

theorem readDecimal.loop_agree {b : Int} {fuel fuel' : Nat} :
    ∀ (f g sig : Nat) (after : Int) {xs : List UInt8}, xs.length ≤ f → xs.length ≤ g →
      xs.length < fuel → xs.length < fuel' →
      Agree (readDecimal.loop p b fuel f sig after) (readDecimal.loop p b fuel' g sig after) xs
  | 0, g, sig, after, xs, hf, hg, hfuel, hfuel' => by
    obtain rfl : xs = [] := List.eq_nil_of_length_eq_zero (by omega)
    rw [readDecimal.loop]
    cases g with
    | zero =>
      rw [readDecimal.loop]
      exact close_agree hfuel.le hfuel'.le
    | succ g =>
      rw [readDecimal.loop]
      exact Agree.of_runs (Runs.refl _ _) (Reader.peek_bind _ []) le_rfl
        (close_agree hfuel.le hfuel'.le)
  | f + 1, 0, sig, after, xs, hf, hg, hfuel, hfuel' => by
    obtain rfl : xs = [] := List.eq_nil_of_length_eq_zero (by omega)
    rw [readDecimal.loop, readDecimal.loop]
    exact Agree.of_runs (Reader.peek_bind _ []) (Runs.refl _ _) le_rfl
      (close_agree hfuel.le hfuel'.le)
  | f + 1, g + 1, sig, after, xs, hf, hg, hfuel, hfuel' => by
    rw [readDecimal.loop, readDecimal.loop]
    refine Agree.peek_bind ?_
    cases xs with
    | nil => exact close_agree hfuel.le hfuel'.le
    | cons c xs =>
      simp only [List.length_cons] at hf hg hfuel hfuel'
      simp only [List.head?_cons]
      -- a digit the significand cannot take sends the rest to be skipped
      refine Agree.ite (fun _ => Agree.ite
        (fun _ => readDecimalOverflow_agree (by simp only [List.length_cons]; omega)
          (by simp only [List.length_cons]; omega))
        fun _ => Agree.eat_bind (loop_agree f g _ _ (by omega) (by omega) (by omega) (by omega)))
        fun _ => close_agree (by simp only [List.length_cons]; omega)
          (by simp only [List.length_cons]; omega)

theorem readDecimal_agree {b : Int} {fuel fuel' : Nat} {c : UInt8} {xs : List UInt8}
    (hf : (c :: xs).length ≤ fuel) (hf' : (c :: xs).length ≤ fuel') :
    Agree (readDecimal p s b fuel) (readDecimal p s b fuel') (c :: xs) := by
  simp only [List.length_cons] at hf hf'
  unfold readDecimal
  exact Agree.eat_bind (readDecimal.loop_agree fuel fuel' s 0 (by omega) (by omega) (by omega)
    (by omega))

theorem readLongInteger.loop_agree {fuel fuel' : Nat} :
    ∀ (f g : Nat) (e : Int) {xs : List UInt8}, xs.length ≤ f → xs.length ≤ g →
      xs.length ≤ fuel → xs.length ≤ fuel' →
      Agree (readLongInteger.loop p s fuel f e) (readLongInteger.loop p s fuel' g e) xs
  | 0, g, e, xs, hf, hg, _, _ => by
    obtain rfl : xs = [] := List.eq_nil_of_length_eq_zero (by omega)
    rw [readLongInteger.loop]
    cases g with
    | zero =>
      rw [readLongInteger.loop]
      exact composeFloat_agree _ _ _ _
    | succ g =>
      rw [readLongInteger.loop]
      exact Agree.of_runs (Runs.refl _ _) (Reader.peek_bind _ []) le_rfl
        (composeFloat_agree _ _ _ _)
  | f + 1, 0, e, xs, hf, hg, _, _ => by
    obtain rfl : xs = [] := List.eq_nil_of_length_eq_zero (by omega)
    rw [readLongInteger.loop, readLongInteger.loop]
    exact Agree.of_runs (Reader.peek_bind _ []) (Runs.refl _ _) le_rfl (composeFloat_agree _ _ _ _)
  | f + 1, g + 1, e, xs, hf, hg, hfuel, hfuel' => by
    rw [readLongInteger.loop, readLongInteger.loop]
    refine Agree.peek_bind ?_
    cases xs with
    | nil => exact composeFloat_agree _ _ _ _
    | cons c xs =>
      simp only [List.length_cons] at hf hg
      simp only [List.head?_cons]
      -- more digits raise the exponent; a point or an exponent goes on as a double
      exact Agree.ite (fun _ => Agree.eat_bind (loop_agree f g _ (by omega) (by omega)
          (by simp only [List.length_cons] at hfuel; omega)
          (by simp only [List.length_cons] at hfuel'; omega)))
        fun _ => Agree.ite (fun _ => readDecimal_agree hfuel hfuel')
          fun _ => Agree.ite (fun _ => readExponent_agree hfuel hfuel')
            fun _ => composeFloat_agree _ _ _ _

theorem readLongInteger_agree {fuel fuel' : Nat} {xs : List UInt8} (hf : xs.length ≤ fuel)
    (hf' : xs.length ≤ fuel') :
    Agree (readLongInteger p s fuel) (readLongInteger p s fuel') xs :=
  readLongInteger.loop_agree fuel fuel' 0 hf hf' hf hf'

end Fraction

/-! ## Numbers -/

section Number

variable {p : Bool}

theorem finishNumber_agree {sig fuel fuel' : Nat} {xs : List UInt8} (hf : xs.length ≤ fuel)
    (hf' : xs.length ≤ fuel') :
    Agree (finishNumber p sig fuel) (finishNumber p sig fuel') xs := by
  unfold finishNumber
  refine Agree.peek_bind ?_
  cases xs with
  | nil =>
    -- an integer at the end of the text
    simp only [List.head?_nil]
    split
    · exact Agree.pure _ _
    · split
      · exact Agree.pure _ _
      · split <;> exact Agree.pure _ _
  | cons c xs =>
    simp only [List.head?_cons]
    split
    · exact Agree.bind (readDecimal_agree hf hf') fun _ _ _ => Agree.pure _ _
    · exact Agree.bind (readExponent_agree hf hf') fun _ _ _ => Agree.pure _ _
    · exact Agree.bind (readExponent_agree hf hf') fun _ _ _ => Agree.pure _ _
    · split
      · exact Agree.pure _ _
      · split
        · exact Agree.pure _ _
        · split <;> exact Agree.pure _ _

theorem readNumber.loop_agree {fuel fuel' : Nat} :
    ∀ (f g sig : Nat) {xs : List UInt8}, xs.length ≤ f → xs.length ≤ g → xs.length ≤ fuel →
      xs.length ≤ fuel' →
      Agree (readNumber.loop p fuel f sig) (readNumber.loop p fuel' g sig) xs
  | 0, g, sig, xs, hf, hg, hfuel, hfuel' => by
    obtain rfl : xs = [] := List.eq_nil_of_length_eq_zero (by omega)
    rw [readNumber.loop]
    cases g with
    | zero =>
      rw [readNumber.loop]
      exact finishNumber_agree hfuel hfuel'
    | succ g =>
      rw [readNumber.loop]
      exact Agree.of_runs (Runs.refl _ _) (Reader.peek_bind _ []) le_rfl
        (finishNumber_agree hfuel hfuel')
  | f + 1, 0, sig, xs, hf, hg, hfuel, hfuel' => by
    obtain rfl : xs = [] := List.eq_nil_of_length_eq_zero (by omega)
    rw [readNumber.loop, readNumber.loop]
    exact Agree.of_runs (Reader.peek_bind _ []) (Runs.refl _ _) le_rfl
      (finishNumber_agree hfuel hfuel')
  | f + 1, g + 1, sig, xs, hf, hg, hfuel, hfuel' => by
    rw [readNumber.loop, readNumber.loop]
    refine Agree.peek_bind ?_
    cases xs with
    | nil => exact finishNumber_agree hfuel hfuel'
    | cons c xs =>
      simp only [List.length_cons] at hf hg
      simp only [List.head?_cons]
      -- a digit the significand cannot take makes the number a double
      exact Agree.ite (fun _ => Agree.ite
          (fun _ => Agree.bind (readLongInteger_agree hfuel hfuel') fun _ _ _ => Agree.pure _ _)
          fun _ => Agree.eat_bind (loop_agree f g _ (by omega) (by omega)
            (by simp only [List.length_cons] at hfuel; omega)
            (by simp only [List.length_cons] at hfuel'; omega)))
        fun _ => finishNumber_agree hfuel hfuel'

/-- **Numbers are read alike wherever they stand.** What the reader reads as a number on a text,
from some cursor and with fuel past the text's length, it reads from every cursor on that text
with any such fuel. -/
theorem readNumber_agree {fuel fuel' : Nat} {xs : List UInt8} (hf : xs.length ≤ fuel)
    (hf' : xs.length ≤ fuel') : Agree (readNumber p fuel) (readNumber p fuel') xs := by
  unfold readNumber
  cases xs with
  | nil =>
    exact Agree.of_runs (next_bind_nil _) (next_bind_nil _) le_rfl
      (Agree.of_refuses (Refuses.fail _) _ _)
  | cons b xs =>
    simp only [List.length_cons] at hf hf'
    refine Agree.of_runs (next_bind _ b xs) (next_bind _ b xs) (by simp) ?_
    -- a leading zero stands alone
    refine Agree.ite (fun _ => Agree.peek_bind ?_) fun _ => Agree.ite
      (fun _ => readNumber.loop_agree fuel fuel' _ (by omega) (by omega) (by omega) (by omega))
      fun _ => Agree.of_refuses (Refuses.fail _) _ _
    cases xs with
    | nil => exact finishNumber_agree (by simp) (by simp)
    | cons c xs =>
      simp only [List.length_cons] at hf hf'
      exact Agree.ite (fun _ => Agree.of_refuses (Refuses.failAhead _) _ _) fun _ =>
        finishNumber_agree (by simp only [List.length_cons]; omega)
          (by simp only [List.length_cons]; omega)

/-- A number read reads a byte at least. -/
theorem Gives.readNumber_length {fuel : Nat} {xs ys : List UInt8} {n : Num}
    (h : Gives (readNumber p fuel) xs n ys) (hf : xs.length ≤ fuel) : ys.length < xs.length := by
  unfold readNumber at h
  cases xs with
  | nil => exact (Refuses.fail _).not_gives (Gives.of_runs (next_bind_nil _) h) |>.elim
  | cons b xs =>
    simp only [List.length_cons] at hf ⊢
    replace h := Gives.next_bind h
    dsimp only at h
    -- past the first byte, the rest of the number only reads on
    suffices hxs : ys.length ≤ xs.length by omega
    split at h
    · replace h := Gives.peek_bind h
      cases xs with
      | nil => exact (finishNumber_agree (Nat.zero_le fuel) (Nat.zero_le fuel) n ys h).2
      | cons c xs =>
        simp only [List.length_cons] at hf
        simp only [List.head?_cons] at h
        split at h
        · exact (Refuses.failAhead _).not_gives h |>.elim
        · have hcs : (c :: xs).length ≤ fuel := by simp only [List.length_cons]; omega
          exact (finishNumber_agree hcs hcs n ys h).2
    · split at h
      · have hloop : Agree (readNumber.loop p fuel fuel (digit b))
            (readNumber.loop p fuel fuel (digit b)) xs :=
          readNumber.loop_agree fuel fuel _ (by omega) (by omega) (by omega) (by omega)
        exact (hloop n ys h).2
      · exact (Refuses.fail _).not_gives h |>.elim

end Number

end Reader

end Tintbook.Json
