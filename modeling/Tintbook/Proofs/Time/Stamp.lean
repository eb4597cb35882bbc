import Tintbook.Time.Reading
import Tintbook.Proofs.Time.Calendar
/-!
# Stored times read back

A time is stored as its RFC 3339 text with the offset `+00:00`, and read by trying RFC 3339
first and the plain `year-month-day hours:minutes:seconds` form second. This module proves
that the two meet: the text of a storable instant reads back as that very instant, and
whatever a stored text reads as is a valid instant.

## What this module delivers

- `readRfc3339_rfc3339`, `readStoredTime_rfc3339`: the RFC 3339 text of a storable instant
  reads back as the instant.
- `readRfc3339_valid`, `readPlain_valid`, `readStoredTime_valid`: every instant a text reads
  as is valid, whatever the text.

## How the reading is followed

The reader takes fixed-width numbers off the front of the characters (`TimeText.number`).
`TimeText.number_padded` says that it takes exactly the digits a padded number was written
with and stops before what follows; every field of the text is one such number, so the
reading is followed field by field (`readRfc3339_fields`). In the other direction,
`TimeText.number_lt` bounds what any reading of `k` digits can give by `10 ^ k`; the fraction
of a second therefore stays below `10 ^ 9` and the offset is a whole number of minutes,
which is what validity asks.
-/

set_option autoImplicit false

namespace Tintbook

namespace TimeText

/-! ## Digits -/

theorem digitOf?_of_isDigit {c : Char} (h : c.isDigit = true) :
    digitOf? c = some (c.toNat - 48) := by
  simp only [Char.isDigit, Bool.and_eq_true, decide_eq_true_eq] at h
  simp only [digitOf?, Bool.and_eq_true, decide_eq_true_eq]
  rw [if_pos]
  exact ⟨h.1, h.2⟩

theorem digitOf?_of_not_isDigit {c : Char} (h : c.isDigit = false) : digitOf? c = none := by
  simp only [Char.isDigit, Bool.and_eq_false_iff, decide_eq_false_iff_not] at h
  simp only [digitOf?, Bool.and_eq_true, decide_eq_true_eq]
  rw [if_neg]
  exact fun ⟨h1, h2⟩ => h.elim (fun h' => h' h1) (fun h' => h' h2)

theorem digitOf?_le {c : Char} {d : Nat} (h : digitOf? c = some d) : d ≤ 9 := by
  unfold digitOf? at h
  split at h
  · rename_i hc
    simp only [Bool.and_eq_true, decide_eq_true_eq] at hc
    have h9 : c.toNat ≤ 57 := hc.2
    cases h
    omega
  · cases h

theorem ofDigitChars_ge (ds : List Char) (n : Nat) : n ≤ Nat.ofDigitChars 10 ds n := by
  rw [Nat.ofDigitChars_eq_ofDigitChars_zero]
  have : 1 ≤ 10 ^ ds.length := Nat.one_le_pow _ _ (by omega)
  have : n ≤ 10 ^ ds.length * n := Nat.le_mul_of_pos_left n this
  omega

/-! ## Reading numbers -/

/-- The digit loop reads a run of digits whole and stops where it should: at its widest, at
the end of the text, or, once it has read enough digits, before a character that is no
digit. -/
theorem number_go_digits (min max : Nat) (rest : List Char) :
    ∀ (ds : List Char) (i n : Nat), (∀ c ∈ ds, c.isDigit = true) → i + ds.length ≤ max →
      (i + ds.length = max ∨ rest = [] ∨
        (min ≤ i + ds.length ∧ ∃ c r, rest = c :: r ∧ c.isDigit = false)) →
      Nat.ofDigitChars 10 ds n ≤ numberBound →
      number.go min max (ds ++ rest) i n = .ok (Nat.ofDigitChars 10 ds n, rest)
  | [], i, n, _, _, hstop, _ => by
    rcases rest with _ | ⟨c, r⟩
    · simp [number.go]
    · simp only [List.nil_append, List.length_nil, Nat.add_zero, Nat.ofDigitChars_nil] at hstop ⊢
      rw [number.go]
      rcases hstop with h | h | ⟨hmin, c', r', hc, hd⟩
      · simp [h]
      · simp at h
      · simp only [List.cons.injEq] at hc
        obtain ⟨rfl, rfl⟩ := hc
        by_cases hi : i ≥ max
        · simp [hi]
        · simp only [hi, if_false, digitOf?_of_not_isDigit hd]
          simp [Nat.not_lt.mpr hmin]
  | d :: ds, i, n, hds, hw, hstop, hb => by
    have hd : d.isDigit = true := hds d (List.mem_cons_self)
    simp only [List.length_cons] at hw hstop
    have hlt : ¬ i ≥ max := by omega
    have h48 : '0'.toNat = 48 := rfl
    rw [List.cons_append, number.go]
    simp only [hlt, if_false, digitOf?_of_isDigit hd]
    rw [Nat.ofDigitChars_cons, h48, Nat.mul_comm 10 n] at hb ⊢
    -- the value read so far is below the final one, so it is within the bound too
    have hle := ofDigitChars_ge ds (n * 10 + (d.toNat - 48))
    have hbound : ¬ n * 10 + (d.toNat - 48) > numberBound := by omega
    rw [if_neg hbound]
    have hstop' : i + 1 + ds.length = max ∨ rest = [] ∨
        (min ≤ i + 1 + ds.length ∧ ∃ c r, rest = c :: r ∧ c.isDigit = false) := by
      rcases hstop with h | h | ⟨hm, hx⟩
      · exact Or.inl (by omega)
      · exact Or.inr (Or.inl h)
      · exact Or.inr (Or.inr ⟨by omega, hx⟩)
    exact number_go_digits min max rest ds (i + 1) (n * 10 + (d.toNat - 48))
      (fun c hc => hds c (List.mem_cons_of_mem d hc)) (by omega) hstop' hb

/-- What the digit loop reads: `k` characters, at most as many as it may still take, and a
value below `(n + 1) * 10 ^ k` when it started from `n`. -/
theorem number_go_lt (min max : Nat) :
    ∀ (cs : List Char) (i n v : Nat) (rest : List Char), i ≤ max →
      number.go min max cs i n = .ok (v, rest) →
      ∃ k, i + k ≤ max ∧ cs.length = k + rest.length ∧ v < (n + 1) * 10 ^ k
  | [], i, n, v, rest, hi, h => by
    simp only [number.go, Except.ok.injEq, Prod.mk.injEq] at h
    obtain ⟨rfl, rfl⟩ := h
    exact ⟨0, by omega, by simp, by simp⟩
  | c :: r, i, n, v, rest, hi, h => by
    rw [number.go] at h
    split at h
    · -- the widest number has been read
      simp only [Except.ok.injEq, Prod.mk.injEq] at h
      obtain ⟨rfl, rfl⟩ := h
      exact ⟨0, by omega, by simp, by simp⟩
    · split at h
      · -- a character that is no digit ends the number
        split at h
        · cases h
        · simp only [Except.ok.injEq, Prod.mk.injEq] at h
          obtain ⟨rfl, rfl⟩ := h
          exact ⟨0, by omega, by simp, by simp⟩
      · rename_i d hd
        dsimp only at h
        split at h
        · cases h
        · obtain ⟨k, hk, hlen, hv⟩ := number_go_lt min max r (i + 1) _ v rest (by omega) h
          have h9 := digitOf?_le hd
          have hlen' : (c :: r).length = (k + 1) + rest.length := by
            simp only [List.length_cons, hlen]
            omega
          refine ⟨k + 1, by omega, hlen', ?_⟩
          calc v < (n * 10 + d + 1) * 10 ^ k := hv
            _ ≤ (n + 1) * 10 * 10 ^ k := Nat.mul_le_mul_right _ (by omega)
            _ = (n + 1) * 10 ^ (k + 1) := by rw [Nat.pow_succ, Nat.mul_assoc, Nat.mul_comm 10]

/-- A number read from `k` characters is below `10 ^ k`. -/
theorem number_lt {cs rest : List Char} {min max v : Nat}
    (h : number cs min max = .ok (v, rest)) :
    ∃ k, k ≤ max ∧ cs.length = k + rest.length ∧ v < 10 ^ k := by
  unfold number at h
  split at h
  · cases h
  · obtain ⟨k, hk, hlen, hv⟩ := number_go_lt min max cs 0 0 v rest (Nat.zero_le _) h
    exact ⟨k, by omega, hlen, by simpa using hv⟩

theorem padded_digits (w n : Nat) : ∀ c ∈ (Instant.padded w n).toList, c.isDigit = true := by
  intro c hc
  simp only [Instant.padded, String.toList_ofList, List.mem_append, List.mem_replicate] at hc
  rcases hc with ⟨-, rfl⟩ | hc
  · rfl
  · exact Nat.isDigit_of_mem_toDigits (by omega) (by omega) hc

theorem padded_length {w n : Nat} (hw : 0 < w) (hn : n < 10 ^ w) :
    (Instant.padded w n).toList.length = w := by
  have h := (Nat.length_toDigits_le_iff (by omega) hw).2 hn
  simp only [Instant.padded, String.toList_ofList, List.length_append, List.length_replicate]
  omega

theorem padded_value (w n : Nat) : Nat.ofDigitChars 10 (Instant.padded w n).toList 0 = n := by
  simp [Instant.padded, Nat.ofDigitChars_append]

/-- A number written with `w` digits is read back whole, with what follows left over. -/
theorem number_padded {w n min max : Nat} {rest : List Char} (hw : 0 < w) (hn : n < 10 ^ w)
    (hb : n ≤ numberBound) (hmin : min ≤ w) (hmax : w ≤ max)
    (hstop : w = max ∨ rest = [] ∨ ∃ c r, rest = c :: r ∧ c.isDigit = false) :
    number ((Instant.padded w n).toList ++ rest) min max = .ok (n, rest) := by
  have hl := padded_length hw hn
  have hv := padded_value w n
  have hlen : ¬ ((Instant.padded w n).toList ++ rest).length < min := by
    simp only [List.length_append]
    omega
  rw [number, if_neg hlen]
  have hstop' : 0 + (Instant.padded w n).toList.length = max ∨ rest = [] ∨
      (min ≤ 0 + (Instant.padded w n).toList.length ∧
        ∃ c r, rest = c :: r ∧ c.isDigit = false) := by
    rcases hstop with h | h | h
    · exact Or.inl (by omega)
    · exact Or.inr (Or.inl h)
    · exact Or.inr (Or.inr ⟨by omega, h⟩)
  rw [number_go_digits min max rest _ 0 0 (padded_digits w n) (by omega) hstop' (by omega), hv]

theorem number_two_digits {n : Nat} (rest : List Char) (h : n < 100) :
    number ((Instant.padded 2 n).toList ++ rest) 2 2 = .ok (n, rest) :=
  number_padded (by omega) (by simpa using h) (by simp only [numberBound]; omega) (by omega)
    (by omega) (Or.inl rfl)

theorem number_four_digits {n : Nat} (rest : List Char) (h : n < 10000) :
    number ((Instant.padded 4 n).toList ++ rest) 4 4 = .ok (n, rest) :=
  number_padded (by omega) (by simpa using h) (by simp only [numberBound]; omega) (by omega)
    (by omega) (Or.inl rfl)

/-! ## Fractions and offsets -/

/-- A fraction of `k` digits read before a character that is no digit, scaled to
nanoseconds. -/
theorem fraction_padded {k x : Nat} {c : Char} {r : List Char} (hk : 0 < k) (hk9 : k ≤ 9)
    (hx : x < 10 ^ k) (hc : c.isDigit = false) :
    fraction ((Instant.padded k x).toList ++ c :: r) = .ok (x * 10 ^ (9 - k), c :: r) := by
  have hb : x ≤ numberBound := by
    have : 10 ^ k ≤ 10 ^ 9 := Nat.pow_le_pow_right (by omega) hk9
    have : x < 10 ^ 9 := by omega
    unfold numberBound
    omega
  have hn := @number_padded k x 1 9 (c :: r) hk hx hb (by omega) hk9
    (Or.inr (Or.inr ⟨c, r, rfl, hc⟩))
  have hl := padded_length hk hx
  have hd : (digitOf? c).isSome = false := by simp [digitOf?_of_not_isDigit hc]
  unfold fraction
  rw [hn]
  have hused : ((Instant.padded k x).toList ++ c :: r).length - (c :: r).length = k := by
    simp only [List.length_append, hl]
    omega
  simp only [bind, Except.bind, hused, pure, Except.pure, List.dropWhile_cons, hd]
  rfl

/-- A fraction is read as fewer than `10 ^ 9` nanoseconds: the digits read, at most nine, are
scaled up to exactly nine. -/
theorem fraction_lt {cs r : List Char} {v : Nat} (h : fraction cs = .ok (v, r)) :
    v < 10 ^ 9 := by
  unfold fraction at h
  cases hn : number cs 1 9 with
  | error e => simp [hn, bind, Except.bind] at h
  | ok p =>
    obtain ⟨w, rest⟩ := p
    simp only [hn, bind, Except.bind, pure, Except.pure, Except.ok.injEq, Prod.mk.injEq] at h
    obtain ⟨rfl, -⟩ := h
    obtain ⟨k, hk, hlen, hw⟩ := number_lt hn
    have hused : cs.length - rest.length = k := by omega
    rw [hused]
    calc w * 10 ^ (9 - k) < 10 ^ k * 10 ^ (9 - k) :=
          Nat.mul_lt_mul_of_pos_right hw (Nat.pow_pos (by omega))
      _ = 10 ^ 9 := by
          rw [← Nat.pow_add]
          congr 1
          omega

/-- An offset is a whole number of minutes. -/
theorem offset_minutes {cs r : List Char} {o : Int} (h : offset cs = some (o, r)) :
    o % 60 = 0 := by
  unfold offset at h
  repeat' (split at h <;> try contradiction)
  · cases h; rfl
  · cases h; rfl
  · -- a sign with hours and minutes
    simp only [Option.ite_none_right_eq_some, Option.ite_none_left_eq_some, Option.some.injEq,
      Prod.mk.injEq] at h
    obtain ⟨-, -, rfl, -⟩ := h
    split <;> omega
  all_goals simp at h

theorem offset_utc : offset ['+', '0', '0', ':', '0', '0'] = some (0, []) := rfl

theorem toOption_ok {α : Type} (a : α) : (Except.ok a : Except TimeFault α).toOption = some a :=
  rfl

theorem toOption_eq_some {ε α : Type} {x : Except ε α} {a : α} (h : x.toOption = some a) :
    x = .ok a := by
  cases x with
  | error e => cases h
  | ok b => cases h; rfl

theorem char_cons_self (c : Char) (r : List Char) : char (c :: r) c = .ok r := by
  simp [char]

/-! The reader chains its steps with the monad's bind. The two facts below are stated for that
bind so that `simp` leaves it alone: rewritten to `Option.bind`, its congruence lemma has
`simp` revisit the nested steps once per enclosing step. -/

theorem some_bind {α β : Type} (a : α) (f : α → Option β) : (some a >>= f) = f a := rfl

theorem bind_eq_some {α β : Type} {x : Option α} {f : α → Option β} {b : β} :
    x >>= f = some b ↔ ∃ a, x = some a ∧ f a = some b :=
  Option.bind_eq_some_iff

end TimeText

/-! ## Valid instants -/

/-- A date and time with fewer than `10 ^ 9` nanoseconds names a valid instant: second 60 is
the leap second at the end of its minute. -/
theorem Civil.toInstant_valid (c : Civil) (hn : c.nano < 1000000000) : c.toInstant.Valid := by
  unfold Civil.toInstant Instant.Valid
  split
  · simp only
    omega
  · simp only
    omega

/-- Moving a valid instant by whole minutes keeps it valid. -/
theorem Instant.valid_shift {t : Instant} (h : t.Valid) {off : Int} (ho : off % 60 = 0) :
    (⟨t.seconds - off, t.nanos⟩ : Instant).Valid := by
  unfold Instant.Valid at h ⊢
  simp only
  omega

/-! ## Writing and reading back -/

theorem Instant.fractionText_cases {nano : Nat} (h : nano < 1000000000) :
    (nano = 0 ∧ Instant.fractionText nano = "") ∨
      ∃ k x, 0 < k ∧ k ≤ 9 ∧ x < 10 ^ k ∧ x * 10 ^ (9 - k) = nano ∧
        Instant.fractionText nano = "." ++ Instant.padded k x := by
  unfold Instant.fractionText
  by_cases h0 : nano = 0
  · exact Or.inl ⟨h0, by simp [h0]⟩
  · refine Or.inr ?_
    by_cases h6 : nano % 1000000 = 0
    · exact ⟨3, nano / 1000000, by omega, by omega, by simp; omega, by simp; omega,
        by simp [h0, h6]⟩
    · by_cases h3 : nano % 1000 = 0
      · exact ⟨6, nano / 1000, by omega, by omega, by simp; omega, by simp; omega,
          by simp [h0, h6, h3]⟩
      · exact ⟨9, nano, by omega, by omega, by simp; omega, by simp, by simp [h0, h6, h3]⟩

theorem Instant.yearText_of_le {y : Int} (h0 : 0 ≤ y) (h1 : y ≤ 9999) :
    Instant.yearText y = Instant.padded 4 y.toNat := by
  simp [Instant.yearText, h0, h1]

/-- The RFC 3339 text of the fields of a date and time, in UTC, reads back as the instant they
name. -/
theorem readRfc3339_fields {year : Int} {month day hour minute second nano : Nat}
    (hy0 : 0 ≤ year) (hy1 : year ≤ 9999)
    (hm1 : 1 ≤ month) (hm2 : month ≤ 12) (hd1 : 1 ≤ day) (hd2 : day ≤ 31) (hh : hour ≤ 23)
    (hmi : minute ≤ 59) (hs : second ≤ 60) (hn : nano < 1000000000)
    (hdate : Civil.isDate year month day = true) :
    readRfc3339 (Instant.yearText year ++ "-" ++ Instant.padded 2 month ++ "-" ++
      Instant.padded 2 day ++ "T" ++ Instant.padded 2 hour ++ ":" ++ Instant.padded 2 minute ++
      ":" ++ Instant.padded 2 second ++ Instant.fractionText nano ++ "+00:00") =
      some (Civil.toInstant ⟨year, month, day, hour, minute, second, nano⟩) := by
  rw [Instant.yearText_of_le hy0 hy1]
  simp only [readRfc3339, String.toList_append, List.append_assoc, String.reduceToList,
    List.cons_append, List.nil_append]
  -- the fields are read one by one, each with the separator after it
  rw [TimeText.number_four_digits _ (by omega)]
  simp only [TimeText.toOption_ok, TimeText.some_bind, TimeText.char_cons_self]
  rw [TimeText.number_two_digits _ (by omega)]
  simp only [TimeText.toOption_ok, TimeText.some_bind, TimeText.char_cons_self]
  rw [TimeText.number_two_digits _ (by omega)]
  simp only [TimeText.toOption_ok, TimeText.some_bind, beq_self_eq_true, Bool.true_or, if_true]
  rw [TimeText.number_two_digits _ (by omega)]
  simp only [TimeText.toOption_ok, TimeText.some_bind, TimeText.char_cons_self]
  rw [TimeText.number_two_digits _ (by omega)]
  simp only [TimeText.toOption_ok, TimeText.some_bind, TimeText.char_cons_self]
  rw [TimeText.number_two_digits _ (by omega)]
  simp only [TimeText.toOption_ok, TimeText.some_bind]
  have hyear : ((year.toNat : Nat) : Int) = year := by omega
  have hchecks : (1 ≤ month && month ≤ 12 && 1 ≤ day && day ≤ 31 && hour ≤ 23 &&
      minute ≤ 59 && second ≤ 60) = true := by
    simp only [Bool.and_eq_true, decide_eq_true_eq]
    omega
  rcases Instant.fractionText_cases hn with ⟨h0, hf⟩ | ⟨k, x, hk, hk9, hx, hxn, hf⟩
  · -- a whole second: the offset follows at once
    simp only [hf, String.reduceToList, List.nil_append, TimeText.offset_utc, TimeText.some_bind,
      hchecks, hyear, hdate, List.isEmpty_nil, Bool.not_true, Bool.false_eq_true, if_false]
    subst h0
    split
    · rename_i r h
      simp at h
    · simp only [Int.sub_zero]
  · simp only [hf, String.toList_append, String.reduceToList, List.cons_append, List.nil_append]
    rw [TimeText.fraction_padded (c := '+') hk hk9 hx (by decide)]
    simp only [TimeText.toOption_ok, TimeText.some_bind, TimeText.offset_utc, hchecks, hyear,
      hdate, hxn, List.isEmpty_nil, Bool.not_true, Bool.false_eq_true, if_false, Int.sub_zero]

/-- **The RFC 3339 text of a storable instant reads back as the instant.** -/
theorem readRfc3339_rfc3339 {t : Instant} (h : t.Storable) :
    readRfc3339 (t.rfc3339 false) = some t := by
  obtain ⟨hv, h0, h1⟩ := h
  obtain ⟨hm1, hm2, hd1, hd2, hh, hmi, hs, hn⟩ := Instant.toCivil_fields hv
  obtain ⟨hy0, hy1⟩ := Instant.toCivil_year_bounds h0 h1
  simp only [Instant.rfc3339, Instant.dateTimeText, Bool.false_eq_true, if_false]
  rw [readRfc3339_fields hy0 hy1 hm1 hm2 hd1 hd2 hh hmi hs hn (Instant.isDate_toCivil t)]
  exact congrArg some (Instant.toInstant_toCivil hv)

theorem readStoredTime_rfc3339 {t : Instant} (h : t.Storable) :
    readStoredTime (t.rfc3339 false) = .ok t := by
  simp [readStoredTime, readRfc3339_rfc3339 h]

/-! ## Every reading is valid -/

theorem readRfc3339_valid {s : String} {t : Instant} (h : readRfc3339 s = some t) : t.Valid := by
  simp only [readRfc3339, TimeText.bind_eq_some] at h
  obtain ⟨⟨y, cs⟩, -, cs, -, ⟨mo, cs⟩, -, cs, -, ⟨d, cs⟩, -, h⟩ := h
  dsimp only at h
  -- the separator of date and time
  split at h
  · split at h
    · simp only [TimeText.bind_eq_some, TimeText.some_bind] at h
      obtain ⟨⟨hh, cs⟩, -, cs, -, ⟨mi, cs⟩, -, cs, -, ⟨sec, cs⟩, -, h⟩ := h
      split at h
      · -- a fraction of a second follows
        simp only [TimeText.bind_eq_some] at h
        obtain ⟨⟨nano, cs⟩, hf, ⟨off, cs⟩, ho, h⟩ := h
        simp only [Option.ite_none_left_eq_some, Option.some.injEq] at h
        obtain ⟨-, -, -, rfl⟩ := h
        exact Instant.valid_shift
          (Civil.toInstant_valid _ (TimeText.fraction_lt (TimeText.toOption_eq_some hf)))
          (TimeText.offset_minutes ho)
      · simp only [TimeText.bind_eq_some] at h
        obtain ⟨⟨off, cs⟩, ho, h⟩ := h
        simp only [Option.ite_none_left_eq_some, Option.some.injEq] at h
        obtain ⟨-, -, -, rfl⟩ := h
        exact Instant.valid_shift (Civil.toInstant_valid _ (by simp)) (TimeText.offset_minutes ho)
    · cases h
  · cases h

theorem readPlain_valid {s : String} {t : Instant} (h : readPlain s = .ok t) : t.Valid := by
  unfold readPlain at h
  simp only [bind, Except.bind, pure, Except.pure] at h
  -- every way through the reading but the last fails; the last builds a whole second
  repeat' (split at h <;> try contradiction)
  cases h
  exact Civil.toInstant_valid _ (by simp)

/-- **Every instant a stored text reads as is valid.** -/
theorem readStoredTime_valid {s : String} {t : Instant} (h : readStoredTime s = .ok t) :
    t.Valid := by
  unfold readStoredTime at h
  split at h
  · cases h
    exact readRfc3339_valid ‹_›
  · exact readPlain_valid h

end Tintbook
