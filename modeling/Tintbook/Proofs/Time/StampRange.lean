import Tintbook.Proofs.Store.Rows
/-!
# Which stored times read back

A time is stored as its RFC 3339 text with the offset `+00:00` (`Store.stampText`) and read
by trying RFC 3339 first and the plain `year-month-day hours:minutes:seconds` form second
(`readStoredTime`). The times a store writes are readings of the clock, times read from stored
text, and the later of two of these (`Instant.Written`). This module says exactly which of them
read back: those of the years 0 to 9999, and no others.

Within those years the text has a year of four digits, and it reads back as the very instant,
nanoseconds included (`readStoredTime_rfc3339`). Outside them the year is written with a sign,
and the text does not read at all. RFC 3339 needs a digit first (`readRfc3339_of_not_isDigit`).
The plain form reads only blanks, digits, signs, hyphens and colons (`readPlain_plainChar`),
and the text has a `T` between date and time. Such times can be written: RFC 3339 text of
31 December 9999 in a zone behind UTC, or plain text with a signed year, reads as a time
outside the range, and its own text is then refused
(`stamp_text_of_year_ten_thousand_refused`).

## What this module delivers

- `TimeText.plainChar`, `TimeText.PlainPrefix`: what the plain form reads, step by step.
- `readPlain_plainChar`, `readRfc3339_of_not_isDigit`.
- `Civil.civilFromDays_year_iff`, `Instant.storable_iff_year`: storable means a year from 0
  to 9999.
- `readStoredTime_stampText_of_outside`, `readStoredTime_stampText_iff`.
- `Instant.Written`, with `Instant.Written.valid`.
- `written_stamps_read_back_iff`, with its witness, and
  `stamp_text_of_year_ten_thousand_refused`.
-/

set_option autoImplicit false

namespace Tintbook

namespace TimeText

/-! ## What the plain form reads -/

/-- A character the plain form can read: a blank, an ASCII digit, a sign or a colon. -/
def plainChar (c : Char) : Bool :=
  Text.isBlank c || c.isDigit || c == '+' || c == '-' || c == ':'

/-- The characters that lie before `rest` in `cs` are all characters the plain form can
read. -/
def PlainPrefix (cs rest : List Char) : Prop :=
  ∃ p, cs = p ++ rest ∧ ∀ c ∈ p, plainChar c = true

theorem PlainPrefix.refl (cs : List Char) : PlainPrefix cs cs := ⟨[], rfl, by simp⟩

theorem PlainPrefix.trans {a b c : List Char} (h1 : PlainPrefix a b) (h2 : PlainPrefix b c) :
    PlainPrefix a c := by
  obtain ⟨p, rfl, hp⟩ := h1
  obtain ⟨q, rfl, hq⟩ := h2
  refine ⟨p ++ q, by simp, fun x hx => ?_⟩
  rcases List.mem_append.1 hx with hx | hx
  · exact hp x hx
  · exact hq x hx

theorem PlainPrefix.cons {c : Char} {cs rest : List Char} (hc : plainChar c = true)
    (h : PlainPrefix cs rest) : PlainPrefix (c :: cs) rest := by
  obtain ⟨p, rfl, hp⟩ := h
  refine ⟨c :: p, rfl, fun x hx => ?_⟩
  rcases List.mem_cons.1 hx with rfl | hx
  · exact hc
  · exact hp x hx

theorem isDigit_of_digitOf? {c : Char} {d : Nat} (h : digitOf? c = some d) :
    c.isDigit = true := by
  cases hc : c.isDigit with
  | false =>
    rw [digitOf?_of_not_isDigit hc] at h
    cases h
  | true => rfl

theorem plainChar_of_isDigit {c : Char} (h : c.isDigit = true) : plainChar c = true := by
  simp [plainChar, h]

/-- The digit loop reads digits only. -/
theorem number_go_plainPrefix (min max : Nat) :
    ∀ (cs : List Char) (i n v : Nat) (rest : List Char),
      number.go min max cs i n = .ok (v, rest) → PlainPrefix cs rest
  | [], i, n, v, rest, h => by
    simp only [number.go, Except.ok.injEq, Prod.mk.injEq] at h
    obtain ⟨-, rfl⟩ := h
    exact .refl _
  | c :: r, i, n, v, rest, h => by
    rw [number.go] at h
    split at h
    · -- the widest number has been read
      simp only [Except.ok.injEq, Prod.mk.injEq] at h
      obtain ⟨-, rfl⟩ := h
      exact .refl _
    · split at h
      · -- a character that is no digit ends the number
        split at h
        · cases h
        · simp only [Except.ok.injEq, Prod.mk.injEq] at h
          obtain ⟨-, rfl⟩ := h
          exact .refl _
      · rename_i d hd
        dsimp only at h
        split at h
        · cases h
        · exact .cons (plainChar_of_isDigit (isDigit_of_digitOf? hd))
            (number_go_plainPrefix min max r _ _ v rest h)

theorem number_plainPrefix {cs rest : List Char} {min max v : Nat}
    (h : number cs min max = .ok (v, rest)) : PlainPrefix cs rest := by
  unfold number at h
  split at h
  · cases h
  · exact number_go_plainPrefix min max cs 0 0 v rest h

theorem dropBlanks_plainPrefix (cs : List Char) :
    PlainPrefix cs (cs.dropWhile Text.isBlank) := by
  induction cs with
  | nil => exact .refl _
  | cons c r ih =>
    rw [List.dropWhile_cons]
    split
    · rename_i hc
      exact .cons (by simp [plainChar, hc]) ih
    · exact .refl _

/-- A number read and its value taken as an integer: what is left is what the number left. -/
theorem number_bind_plainPrefix {cs rest : List Char} {min max : Nat}
    {g : Nat × List Char → Int} {v : Int}
    (h : (number cs min max >>= fun p => pure (g p, p.2)) = .ok (v, rest)) :
    PlainPrefix cs rest := by
  obtain ⟨⟨v0, r0⟩, hn, h⟩ := Store.Except.bind_ok_iff.1 h
  simp only [pure, Except.pure, Except.ok.injEq, Prod.mk.injEq] at h
  obtain ⟨-, rfl⟩ := h
  exact number_plainPrefix hn

/-- A field reads blanks, then a sign or not, then digits. -/
theorem field_plainPrefix {cs rest : List Char} {w : Nat} {signed : Bool} {v : Int}
    (h : field cs w signed = .ok (v, rest)) : PlainPrefix cs rest := by
  unfold field at h
  refine (dropBlanks_plainPrefix cs).trans ?_
  generalize cs.dropWhile Text.isBlank = ds at h
  dsimp only at h
  split at h
  next r =>
    -- a minus sign: read before the digits of a signed field, else offered to the digits
    split at h
    · exact .cons (by decide) (number_bind_plainPrefix h)
    · exact number_bind_plainPrefix h
  next r =>
    split at h
    · exact .cons (by decide) (number_bind_plainPrefix h)
    · exact number_bind_plainPrefix h
  next => exact number_bind_plainPrefix h

theorem eq_cons_of_char {cs r : List Char} {c : Char} (h : char cs c = .ok r) :
    cs = c :: r := by
  unfold char at h
  split at h
  · cases h
  · split at h
    · cases h
      simp_all
    · cases h

theorem literal_plainPrefix {cs r : List Char} {c : Char} (hc : plainChar c = true)
    (h : literal cs c = .ok r) : PlainPrefix cs r := by
  rw [eq_cons_of_char h]
  exact .cons hc (.refl r)

theorem number_of_not_isDigit {c : Char} {r : List Char} {min max : Nat}
    (hc : c.isDigit = false) (hmin : 0 < min) (hmax : 0 < max) :
    ∃ f, number (c :: r) min max = .error f := by
  unfold number
  split
  · exact ⟨_, rfl⟩
  · rw [number.go, if_neg (by omega), digitOf?_of_not_isDigit hc]
    exact ⟨_, if_pos hmin⟩

end TimeText

open TimeText in
/-- **The plain form reads only blanks, digits, signs, hyphens and colons.** Each field and
each separator read is a prefix of such characters, and nothing may follow the seconds. -/
theorem readPlain_plainChar {s : String} {t : Instant} (h : readPlain s = .ok t) :
    ∀ c ∈ s.toList, plainChar c = true := by
  unfold readPlain at h
  -- the steps in order: fields, their range checks and the separators between them
  obtain ⟨⟨y, cs1⟩, h1, h⟩ := Store.Except.bind_ok_iff.1 h
  obtain ⟨-, -, h⟩ := Store.Except.bind_ok_iff.1 h
  obtain ⟨cs2, h2, h⟩ := Store.Except.bind_ok_iff.1 h
  obtain ⟨⟨mo, cs3⟩, h3, h⟩ := Store.Except.bind_ok_iff.1 h
  obtain ⟨-, -, h⟩ := Store.Except.bind_ok_iff.1 h
  obtain ⟨cs4, h4, h⟩ := Store.Except.bind_ok_iff.1 h
  obtain ⟨⟨d, cs5⟩, h5, h⟩ := Store.Except.bind_ok_iff.1 h
  obtain ⟨-, -, h⟩ := Store.Except.bind_ok_iff.1 h
  obtain ⟨⟨hr, cs6⟩, h6, h⟩ := Store.Except.bind_ok_iff.1 h
  obtain ⟨-, -, h⟩ := Store.Except.bind_ok_iff.1 h
  obtain ⟨cs7, h7, h⟩ := Store.Except.bind_ok_iff.1 h
  obtain ⟨⟨mi, cs8⟩, h8, h⟩ := Store.Except.bind_ok_iff.1 h
  obtain ⟨-, -, h⟩ := Store.Except.bind_ok_iff.1 h
  obtain ⟨cs9, h9, h⟩ := Store.Except.bind_ok_iff.1 h
  obtain ⟨⟨sec, cs10⟩, h10, h⟩ := Store.Except.bind_ok_iff.1 h
  obtain ⟨-, -, h⟩ := Store.Except.bind_ok_iff.1 h
  have hend : cs10 = [] := by
    dsimp only at h
    split at h
    · cases h
    · rename_i hne
      simpa using hne
  subst hend
  have hall : PlainPrefix s.toList [] :=
    (field_plainPrefix h1).trans <| (literal_plainPrefix (by decide) h2).trans <|
      (field_plainPrefix h3).trans <| (literal_plainPrefix (by decide) h4).trans <|
      (field_plainPrefix h5).trans <| (dropBlanks_plainPrefix cs5).trans <|
      (field_plainPrefix h6).trans <| (literal_plainPrefix (by decide) h7).trans <|
      (field_plainPrefix h8).trans <| (literal_plainPrefix (by decide) h9).trans <|
      field_plainPrefix h10
  obtain ⟨p, hp, hplain⟩ := hall
  rw [hp, List.append_nil]
  exact hplain

/-- RFC 3339 text starts with a digit of its year. -/
theorem readRfc3339_of_not_isDigit {s : String} {c : Char} {r : List Char}
    (h : s.toList = c :: r) (hc : c.isDigit = false) : readRfc3339 s = none := by
  obtain ⟨f, hf⟩ := TimeText.number_of_not_isDigit (r := r) hc (by decide : 0 < 4)
    (by decide : 0 < 4)
  unfold readRfc3339
  simp only [h, hf]
  rfl

/-! ## Storable times are the times of the years 0 to 9999 -/

namespace Civil

/-- The day counts of the years 0 to 9999, from both ends. -/
theorem civilFromDays_year_iff (z : Int) :
    (0 ≤ (civilFromDays z).1 ↔ -719528 ≤ z) ∧ ((civilFromDays z).1 ≤ 9999 ↔ z < 2932897) := by
  obtain ⟨era, yoe, doy, ⟨hy0, hy1, hd0, hd1, -⟩, hz, hc⟩ := civilFromDays_spec z
  rw [hc]
  -- January and February count to the next year
  by_cases hm : (5 * doy + 2) / 153 < 10
  · simp only [hm, if_true]
    omega
  · simp only [hm, if_false]
    omega

end Civil

theorem Instant.storable_iff_year {t : Instant} (hv : t.Valid) :
    t.Storable ↔ 0 ≤ t.toCivil.year ∧ t.toCivil.year ≤ 9999 := by
  have hy := Civil.civilFromDays_year_iff (t.seconds / 86400)
  have hyear : t.toCivil.year = (Civil.civilFromDays (t.seconds / 86400)).1 := rfl
  unfold Instant.Storable
  rw [Instant.startOfYear_zero, Instant.startOfYear_tenThousand, hyear]
  constructor
  · rintro ⟨-, h0, h1⟩
    omega
  · intro h
    exact ⟨hv, by omega, by omega⟩

/-! ## The text of a time -/

theorem Instant.yearText_toList_of_outside {y : Int} (h : y < 0 ∨ 9999 < y) :
    ∃ r, (Instant.yearText y).toList = (if y < 0 then '-' else '+') :: r := by
  have hout : ¬ (0 ≤ y ∧ y ≤ 9999) := by omega
  unfold Instant.yearText
  by_cases hneg : y < 0
  · simp [hout, hneg]
  · simp [hout, hneg]

/-- Outside the years 0 to 9999 the text of a time starts with the sign of its year. -/
theorem stampText_toList_of_outside {t : Instant}
    (h : t.toCivil.year < 0 ∨ 9999 < t.toCivil.year) :
    ∃ c r, (Store.stampText t).toList = c :: r ∧ c.isDigit = false := by
  obtain ⟨r, hr⟩ := Instant.yearText_toList_of_outside h
  simp only [Store.stampText, Instant.rfc3339, Instant.dateTimeText, String.toList_append, hr,
    List.cons_append]
  exact ⟨_, _, rfl, by split <;> rfl⟩

theorem T_mem_stampText (t : Instant) : 'T' ∈ (Store.stampText t).toList := by
  simp [Store.stampText, Instant.rfc3339, Instant.dateTimeText]

/-- **The text of a time outside the years 0 to 9999 does not read.** Its year is signed, so it
is no RFC 3339 text; it has a `T`, so it is no plain text either. -/
theorem readStoredTime_stampText_of_outside {t : Instant}
    (h : t.toCivil.year < 0 ∨ 9999 < t.toCivil.year) :
    ∃ f, readStoredTime (Store.stampText t) = .error f := by
  obtain ⟨c, r, hcr, hc⟩ := stampText_toList_of_outside h
  unfold readStoredTime
  rw [readRfc3339_of_not_isDigit hcr hc]
  cases hp : readPlain (Store.stampText t) with
  | error f => exact ⟨f, rfl⟩
  | ok t' => exact absurd (readPlain_plainChar hp 'T' (T_mem_stampText t)) (by decide)

/-- **The text of a time reads back as that time exactly when the time is storable.** -/
theorem readStoredTime_stampText_iff (t : Instant) :
    readStoredTime (Store.stampText t) = .ok t ↔ t.Storable := by
  constructor
  · intro h
    -- what reads is valid, and a valid time outside the range does not read
    have hv := readStoredTime_valid h
    rw [Instant.storable_iff_year hv]
    by_contra hy
    obtain ⟨f, hf⟩ := readStoredTime_stampText_of_outside (t := t) (by omega)
    rw [hf] at h
    cases h
  · exact readStoredTime_rfc3339

/-! ## The times a store writes -/

/-- The times a store writes: a reading of the clock, which is never inside a leap second, a
time read from stored text, or the later of two such times. -/
inductive Instant.Written : Instant → Prop
  | clock {t : Instant} : t.nanos < 1000000000 → Instant.Written t
  | read {s : String} {t : Instant} : readStoredTime s = .ok t → Instant.Written t
  | latest {a b : Instant} : Instant.Written a → Instant.Written b →
      Instant.Written (Instant.latest a b)

theorem Instant.Written.valid {t : Instant} (h : t.Written) : t.Valid := by
  induction h with
  | clock hn => exact Or.inl hn
  | read hs => exact readStoredTime_valid hs
  | latest _ _ iha ihb =>
    unfold Instant.latest
    split
    · exact ihb
    · exact iha

/-- **A written time reads back from its text exactly when its year lies in 0 to 9999, with
every nanosecond; otherwise its text is refused.** -/
theorem written_stamps_read_back_iff {t : Instant} (ht : t.Written) :
    (readStoredTime (Store.stampText t) = .ok t ↔
        0 ≤ t.toCivil.year ∧ t.toCivil.year ≤ 9999) ∧
      (t.toCivil.year < 0 ∨ 9999 < t.toCivil.year →
        ∃ f, readStoredTime (Store.stampText t) = .error f) :=
  ⟨(readStoredTime_stampText_iff t).trans (Instant.storable_iff_year ht.valid),
    readStoredTime_stampText_of_outside⟩

/-- The time of SQLite's own form `2024-03-01 12:30:00` is written and reads back. -/
theorem written_stamps_read_back_sqlite_form :
    Instant.Written ⟨1709296200, 0⟩ ∧
      (readStoredTime (Store.stampText ⟨1709296200, 0⟩) = .ok ⟨1709296200, 0⟩ ↔
          0 ≤ (Instant.toCivil ⟨1709296200, 0⟩).year ∧
            (Instant.toCivil ⟨1709296200, 0⟩).year ≤ 9999) ∧
        ((Instant.toCivil ⟨1709296200, 0⟩).year < 0 ∨
            9999 < (Instant.toCivil ⟨1709296200, 0⟩).year →
          ∃ f, readStoredTime (Store.stampText ⟨1709296200, 0⟩) = .error f) := by
  have hread : readStoredTime "2024-03-01 12:30:00" = .ok ⟨1709296200, 0⟩ := by decide
  exact ⟨.read hread, written_stamps_read_back_iff (.read hread)⟩

/-- Half past eleven at night on 31 December 9999, an hour behind UTC, is written: it reads
from RFC 3339 text as half past midnight on 1 January 10000 in UTC. Its own text is
`+10000-01-01T00:30:00+00:00`, which does not read back. -/
theorem stamp_text_of_year_ten_thousand_refused :
    Instant.Written ⟨253402302600, 0⟩ ∧
      readStoredTime (Store.stampText ⟨253402302600, 0⟩) ≠ .ok ⟨253402302600, 0⟩ := by
  have h : readStoredTime "9999-12-31T23:30:00-01:00" = .ok ⟨253402302600, 0⟩ ∧
      readStoredTime (Store.stampText ⟨253402302600, 0⟩) = .error .invalid := by
    decide
  refine ⟨.read h.1, ?_⟩
  rw [h.2]
  exact fun hc => by cases hc

end Tintbook
