import Mathlib
import Tintbook.Time.Instant
/-!
# The calendar behind instants

An instant is turned into a date by counting days in eras of 400 years, each starting on a
first of March (`Civil.civilFromDays`), and a date is turned back by the inverse count
(`Civil.daysFromCivil`). This module proves that the two counts are inverse and that the
dates counted exist:

- `Civil.daysFromCivil_civilFromDays`: counting a day to a date and back gives the day;
- `Civil.isDate_civilFromDays`: every counted date is a day of the calendar;
- `Civil.civilFromDays_year_bounds`: the days of the years 0 to 9999 count to those years.

On instants, `Instant.toInstant_toCivil` says that the date and time of day of a valid
instant name it again, and `Instant.toCivil_fields` bounds each field. An instant is *valid*
when its nanoseconds run past `10^9` only in a leap second, which ends a minute; it is
*storable* when it is valid and lies in the years 0 to 9999, whose RFC 3339 text has a
four-digit year. The later of a storable clock and a valid time before the year 10000 is
storable again (`Instant.storable_latest`), and never before that time
(`Instant.before_latest`).

The heart of the count is `Civil.yearOfEra_bounds`: within an era, the year and the day of
the year are found by dividing by the lengths of 400, 100 and 4 years. We split the day of
the era into centuries, four-year blocks, years and days (`Civil.dayOfEra_parts`) and read
the year off that split (`Civil.yearOfEra_parts`).
-/

set_option autoImplicit false

namespace Tintbook

/-- An instant as a clock or a stored time gives it: its nanoseconds pass `10^9` only in a leap
second, which is the last second of a minute. -/
def Instant.Valid (t : Instant) : Prop :=
  t.nanos < 1000000000 ∨ (t.nanos < 2000000000 ∧ t.seconds % 60 = 59)

instance (t : Instant) : Decidable t.Valid := inferInstanceAs (Decidable (_ ∨ _))

/-- The first instant of a year. -/
def Instant.startOfYear (y : Int) : Instant := Civil.toInstant ⟨y, 1, 1, 0, 0, 0, 0⟩

/-- A valid instant of the years 0 to 9999: one whose RFC 3339 text has a year of four
digits. -/
def Instant.Storable (t : Instant) : Prop :=
  t.Valid ∧ (Instant.startOfYear 0).seconds ≤ t.seconds ∧
    t.seconds < (Instant.startOfYear 10000).seconds

instance (t : Instant) : Decidable t.Storable := inferInstanceAs (Decidable (_ ∧ _ ∧ _))

theorem Instant.startOfYear_zero : (Instant.startOfYear 0).seconds = -62167219200 := by decide

theorem Instant.startOfYear_tenThousand : (Instant.startOfYear 10000).seconds = 253402300800 := by
  decide

namespace Civil

/-! ## Years within an era

Within an era of 400 years counted from a first of March, a century has 36524 days (the last
one a day more), a block of four years 1461 (the last block of a century a day less), and a
year 365 (the last of a block a day more). -/

/-- The year of the era that the day count of an era gives, read off its split into
centuries `c`, blocks `f`, years `g` and days `r`. -/
theorem yearOfEra_parts (c f g r : Int) (hc : 0 ≤ c ∧ c ≤ 3) (hf : 0 ≤ f ∧ f ≤ 24)
    (hg : 0 ≤ g ∧ g ≤ 3) (hr : 0 ≤ r ∧ (r ≤ 364 ∨ (g = 3 ∧ r = 365 ∧ f < 24))) :
    let doe := 36524 * c + 1461 * f + 365 * g + r
    (doe - doe / 1460 + doe / 36524 - doe / 146096) / 365 = 100 * c + 4 * f + g := by
  intro doe
  -- the three divisions of the count, each fixed by the split
  have h1 : doe / 36524 = c := by omega
  have h2 : doe / 146096 = 0 := by omega
  have h3 : doe / 1460 = 25 * c + f + (24 * c + f + 365 * g + r) / 1460 := by omega
  rw [h1, h2, h3]
  omega

/-- Every day of an era but its last splits into centuries, blocks, years and days. -/
theorem dayOfEra_parts (doe : Int) (h0 : 0 ≤ doe) (h1 : doe < 146096) :
    ∃ c f g r : Int, (0 ≤ c ∧ c ≤ 3) ∧ (0 ≤ f ∧ f ≤ 24) ∧ (0 ≤ g ∧ g ≤ 3) ∧
      (0 ≤ r ∧ (r ≤ 364 ∨ (g = 3 ∧ r = 365 ∧ f < 24))) ∧
      doe = 36524 * c + 1461 * f + 365 * g + r :=
  ⟨doe / 36524, doe % 36524 / 1461, min (doe % 36524 % 1461 / 365) 3,
    doe % 36524 % 1461 - 365 * min (doe % 36524 % 1461 / 365) 3, by omega⟩

/-- The year of an era and the day of that year lie in their ranges, and the 366th day of a
year comes only in a leap year. -/
theorem yearOfEra_bounds {doe yoe doy : Int} (h0 : 0 ≤ doe) (h1 : doe ≤ 146096)
    (hyoe : yoe = (doe - doe / 1460 + doe / 36524 - doe / 146096) / 365)
    (hdoy : doy = doe - (365 * yoe + yoe / 4 - yoe / 100)) :
    0 ≤ yoe ∧ yoe ≤ 399 ∧ 0 ≤ doy ∧ doy ≤ 365 ∧
      (doy = 365 → (yoe + 1) % 4 = 0 ∧ ((yoe + 1) % 100 ≠ 0 ∨ yoe = 399)) := by
  rcases Int.lt_or_eq_of_le h1 with h1 | rfl
  · obtain ⟨c, f, g, r, hc, hf, hg, hr, rfl⟩ := dayOfEra_parts doe h0 h1
    have hy : yoe = 100 * c + 4 * f + g := hyoe ▸ yearOfEra_parts c f g r hc hf hg hr
    have h4 : yoe / 4 = 25 * c + f := by omega
    have h100 : yoe / 100 = c := by omega
    subst hdoy
    rw [h4, h100]
    omega
  · -- the last day of an era is the leap day of its last year
    subst hyoe hdoy
    decide

/-! ## Counting days to dates and back -/

/-- The date a day count names, by the era, the year of the era and the day of that year. -/
theorem civilFromDays_spec (z : Int) : ∃ era yoe doy : Int,
    (0 ≤ yoe ∧ yoe ≤ 399 ∧ 0 ≤ doy ∧ doy ≤ 365 ∧
      (doy = 365 → (yoe + 1) % 4 = 0 ∧ ((yoe + 1) % 100 ≠ 0 ∨ yoe = 399))) ∧
    z + 719468 = era * 146097 + (365 * yoe + yoe / 4 - yoe / 100) + doy ∧
    civilFromDays z =
      (if (5 * doy + 2) / 153 < 10 then yoe + era * 400 else yoe + era * 400 + 1,
        (if (5 * doy + 2) / 153 < 10 then (5 * doy + 2) / 153 + 3
          else (5 * doy + 2) / 153 - 9).toNat,
        (doy - (153 * ((5 * doy + 2) / 153) + 2) / 5 + 1).toNat) := by
  unfold civilFromDays
  simp only
  generalize hera : (z + 719468) / 146097 = era
  generalize hdoe : z + 719468 - era * 146097 = doe
  generalize hyoe : (doe - doe / 1460 + doe / 36524 - doe / 146096) / 365 = yoe
  generalize hdoy : doe - (365 * yoe + yoe / 4 - yoe / 100) = doy
  have hb := @yearOfEra_bounds doe yoe doy (by omega) (by omega) hyoe.symm hdoy.symm
  refine ⟨era, yoe, doy, hb, by omega, ?_⟩
  -- months from March to December keep the year; January and February start the next
  by_cases hm : (5 * doy + 2) / 153 < 10
  · have hm' : ¬ (5 * doy + 2) / 153 + 3 ≤ 2 := by omega
    simp only [hm, hm', if_true, if_false]
  · have hm' : (5 * doy + 2) / 153 - 9 ≤ 2 := by omega
    simp only [hm, hm', if_true, if_false]

/-- The day count of a date given by its era, year of the era, month counted from March and
day of the month. -/
theorem daysFromCivil_march (era yoe mp dd : Int) (hy : 0 ≤ yoe ∧ yoe ≤ 399)
    (hm : 0 ≤ mp ∧ mp ≤ 11) (hd : 1 ≤ dd) :
    daysFromCivil (if mp < 10 then yoe + era * 400 else yoe + era * 400 + 1)
        (if mp < 10 then mp + 3 else mp - 9).toNat dd.toNat =
      era * 146097 + (365 * yoe + yoe / 4 - yoe / 100) + ((153 * mp + 2) / 5 + dd - 1) - 719468 := by
  have hq : (yoe + era * 400) / 400 = era := by omega
  have hr : yoe + era * 400 - era * 400 = yoe := by omega
  have hd' : (dd.toNat : Int) = dd := by omega
  unfold daysFromCivil
  by_cases h : mp < 10
  · have h1 : ¬ (mp + 3).toNat ≤ 2 := by omega
    have h2 : ((mp + 3).toNat : Int) = mp + 3 := by omega
    have h3 : (2 : Nat) < (mp + 3).toNat := by omega
    simp only [h, h1, h2, h3, hd', hq, hr, if_true, if_false]
    omega
  · have h1 : (mp - 9).toNat ≤ 2 := by omega
    have h2 : ((mp - 9).toNat : Int) = mp - 9 := by omega
    have h3 : ¬ (2 : Nat) < (mp - 9).toNat := by omega
    have h5 : yoe + era * 400 + 1 - 1 = yoe + era * 400 := by omega
    simp only [h, h1, h2, h3, hd', h5, hq, hr, if_true, if_false]
    omega

/-- **Counting a day to its date and back gives the day.** -/
theorem daysFromCivil_civilFromDays (z : Int) :
    daysFromCivil (civilFromDays z).1 (civilFromDays z).2.1 (civilFromDays z).2.2 = z := by
  obtain ⟨era, yoe, doy, ⟨hy0, hy1, hd0, hd1, -⟩, hz, hc⟩ := civilFromDays_spec z
  rw [hc, daysFromCivil_march era yoe _ _ ⟨hy0, hy1⟩ (by omega) (by omega)]
  omega

/-- **Every date a day count names is a day of the calendar.** -/
theorem isDate_civilFromDays (z : Int) :
    isDate (civilFromDays z).1 (civilFromDays z).2.1 (civilFromDays z).2.2 = true := by
  obtain ⟨era, yoe, doy, ⟨hy0, hy1, hd0, hd1, hleap⟩, -, hc⟩ := civilFromDays_spec z
  rw [hc]
  generalize hmp : (5 * doy + 2) / 153 = mp
  have hmp' : 0 ≤ mp ∧ mp ≤ 11 := by omega
  simp only [isDate, daysInMonth, isLeapYear, Bool.and_eq_true, decide_eq_true_eq, beq_iff_eq,
    Bool.or_eq_true, bne_iff_ne, ne_eq]
  -- each month's length against the day of the year; February needs the leap rule
  by_cases h : mp < 10
  · simp only [h, if_true]
    repeat' split
    all_goals omega
  · simp only [h, if_false]
    repeat' split
    all_goals omega

/-- The days of the years 0 to 9999 name dates of those years. -/
theorem civilFromDays_year_bounds {z : Int} (h0 : -719528 ≤ z) (h1 : z < 2932897) :
    0 ≤ (civilFromDays z).1 ∧ (civilFromDays z).1 ≤ 9999 := by
  obtain ⟨era, yoe, doy, ⟨hy0, hy1, hd0, hd1, -⟩, hz, hc⟩ := civilFromDays_spec z
  rw [hc]
  have he0 : -1 ≤ era := by omega
  have he1 : era ≤ 24 := by omega
  by_cases hm : (5 * doy + 2) / 153 < 10
  · simp only [hm, if_true]
    omega
  · simp only [hm, if_false]
    omega

end Civil

namespace Instant

/-! ## Instants and their dates -/

/-- The fields of the date and time of a valid instant lie in their ranges. -/
theorem toCivil_fields {t : Instant} (h : t.Valid) :
    1 ≤ t.toCivil.month ∧ t.toCivil.month ≤ 12 ∧ 1 ≤ t.toCivil.day ∧ t.toCivil.day ≤ 31 ∧
      t.toCivil.hour ≤ 23 ∧ t.toCivil.minute ≤ 59 ∧ t.toCivil.second ≤ 60 ∧
      t.toCivil.nano < 1000000000 := by
  have hd := Civil.isDate_civilFromDays (t.seconds / 86400)
  dsimp only [toCivil]
  generalize Civil.civilFromDays (t.seconds / 86400) = ymd at hd ⊢
  obtain ⟨y, m, d⟩ := ymd
  have hs : (t.seconds % 86400).toNat < 86400 := by omega
  have h59 : 1000000000 ≤ t.nanos → (t.seconds % 86400).toNat % 60 = 59 := by
    unfold Valid at h
    omega
  generalize (t.seconds % 86400).toNat = secs at hs h59 ⊢
  simp only [Civil.isDate, Bool.and_eq_true, decide_eq_true_eq] at hd ⊢
  have hdm : Civil.daysInMonth y m ≤ 31 := by
    unfold Civil.daysInMonth
    repeat' split
    all_goals omega
  refine ⟨hd.1.1.1, hd.1.1.2, hd.1.2, by omega, by omega, by omega, ?_, ?_⟩
  · split <;> omega
  · unfold Valid at h
    split <;> omega

/-- The year of an instant of the years 0 to 9999. -/
theorem toCivil_year_bounds {t : Instant} (h0 : (startOfYear 0).seconds ≤ t.seconds)
    (h1 : t.seconds < (startOfYear 10000).seconds) :
    0 ≤ t.toCivil.year ∧ t.toCivil.year ≤ 9999 := by
  rw [startOfYear_zero] at h0
  rw [startOfYear_tenThousand] at h1
  exact Civil.civilFromDays_year_bounds (z := t.seconds / 86400) (by omega) (by omega)

theorem isDate_toCivil (t : Instant) :
    Civil.isDate t.toCivil.year t.toCivil.month t.toCivil.day = true :=
  Civil.isDate_civilFromDays (t.seconds / 86400)

/-- **The date and time of day of a valid instant name the instant again.** A leap second is
written as second 60 and read back as the second it extends. -/
theorem toInstant_toCivil {t : Instant} (h : t.Valid) : t.toCivil.toInstant = t := by
  obtain ⟨s, n⟩ := t
  have hr := Civil.daysFromCivil_civilFromDays (s / 86400)
  dsimp only [toCivil, Civil.toInstant]
  generalize Civil.civilFromDays (s / 86400) = ymd at hr ⊢
  obtain ⟨y, m, d⟩ := ymd
  simp only at hr ⊢
  rw [hr]
  dsimp only [Valid] at h
  by_cases hl : 1000000000 ≤ n
  · have h60 : ((s % 86400).toNat % 60 + 1 == 60) = true := by
      rw [beq_iff_eq]
      omega
    simp only [ge_iff_le, hl, if_true, h60, Instant.mk.injEq]
    omega
  · have h60 : ((s % 86400).toNat % 60 == 60) = false := by
      rw [beq_eq_false_iff_ne]
      omega
    simp only [ge_iff_le, hl, if_false, h60, Instant.mk.injEq, Bool.false_eq_true, and_true]
    omega

/-! ## The later of two instants -/

@[simp] theorem before_self (t : Instant) : t.before t = false := by
  simp [before]

/-- The later of an instant and a time is never before that time. -/
theorem before_latest (now t : Instant) : (latest now t).before t = false := by
  unfold latest
  split
  · exact before_self t
  · rename_i h
    simpa using h

/-- The later of a storable instant and a valid time before the year 10000 is storable. -/
theorem storable_latest {now t : Instant} (hnow : now.Storable) (ht : t.Valid)
    (hb : t.seconds < (startOfYear 10000).seconds) : (latest now t).Storable := by
  unfold latest
  split
  · rename_i h
    obtain ⟨-, h0, -⟩ := hnow
    -- the later time is `t`, at least as late as the clock
    have : now.seconds ≤ t.seconds := by
      simp only [before, Bool.or_eq_true, decide_eq_true_eq, Bool.and_eq_true, beq_iff_eq] at h
      omega
    exact ⟨ht, by omega, hb⟩
  · exact hnow

end Instant


end Tintbook
