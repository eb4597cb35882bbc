import Tintbook.Proofs.Json.Tokens
/-!
# Moving through containers

Between the items of a list and the members of an object the reader reads commas, closing
brackets and braces, and colons. `nextItem` and `nextKey` move to the next item or member:
just after the opening they take what stands there, after an item they want a comma first,
and at the closing byte they stop without reading it, which is left to `endList` or
`endObject`. A comma just before the closing byte is refused.

Each step is followed both ways here: what a step that succeeded read, and that it succeeds on
every text the grammar allows there. Where the next item begins is said once (`ItemAt`).

## What this module delivers

- `ItemAt`: where the next item of a container begins.
- `Reader.Gives.nextItem`, `nextItem_end`, `nextItem_start`: moving to the next item of a list.
- `Reader.Gives.nextKey`, `nextKey_end`, `nextKey_start`: moving to the next member of an
  object, and reading its name.
- The colon, the closings of lists and objects, and entering a container.
-/

set_option autoImplicit false

namespace Tintbook.Json

open Reader

/-- Where the next item of a container begins, seen from where the reader stands: after the
blanks just after the opening, or after a comma and the blanks behind an item. -/
def ItemAt (first : Bool) (xs ys : List UInt8) : Prop :=
  if first then ys = afterBlanks xs else ∃ zs, afterBlanks xs = 44 :: zs ∧ ys = afterBlanks zs

theorem Reader.Gives.nextItem {first : Bool} {xs ys : List UInt8} {o : Option UInt8}
    (h : Gives (nextItem first) xs o ys) :
    (o = none ∧ ∃ rest, afterBlanks xs = 93 :: rest ∧ ys = 93 :: rest) ∨
      ∃ b rest, o = some b ∧ b ≠ 93 ∧ ys = b :: rest ∧ ItemAt first xs ys := by
  unfold Reader.nextItem at h
  replace h := Gives.skipBlank_bind h
  extract_lets jp at h
  -- the byte an item begins with is handed back, unread
  have hjp : ∀ {start : Option UInt8} {vs : List UInt8}, start = vs.head? → Gives (jp start) vs o ys →
      ∃ b rest, o = some b ∧ b ≠ 93 ∧ ys = b :: rest ∧ vs = ys := by
    intro start vs hstart hj
    dsimp only [jp] at hj
    split at hj
    · exact (Refuses.failAhead _).not_gives hj |>.elim
    · rename_i c hc
      obtain ⟨rfl, hys⟩ := Gives.pure hj
      cases vs with
      | nil => cases hstart
      | cons d rest =>
        cases Option.some.inj hstart
        exact ⟨c, rest, rfl, hc, hys, hys.symm⟩
    · exact (Refuses.failAhead _).not_gives hj |>.elim
  cases hzs : afterBlanks xs with
  | nil =>
    rw [hzs] at h
    exact (Refuses.bind_of_left (Refuses.failAhead _)).not_gives h |>.elim
  | cons b rest =>
    rw [hzs, List.head?_cons] at h
    split at h
    · -- the closing bracket
      rename_i heq
      cases Option.some.inj heq
      obtain ⟨rfl, rfl⟩ := Gives.pure h
      exact .inl ⟨rfl, rest, rfl, rfl⟩
    · -- a comma: after an item it is read, just after the opening it begins an item
      rename_i heq
      cases Option.some.inj heq
      split at h
      · rename_i hfirst
        obtain ⟨_, vs, hp, hj⟩ := Gives.bind h
        obtain ⟨rfl, rfl⟩ := Gives.pure hp
        obtain ⟨c, rest', rfl, hc, rfl, hvs⟩ := hjp rfl hj
        refine .inr ⟨c, rest', rfl, hc, rfl, ?_⟩
        rw [ItemAt, if_pos hfirst, hzs, hvs]
      · rename_i hfirst
        replace h := Gives.skipBlank_bind (Gives.eat_bind h)
        obtain ⟨c, rest', rfl, hc, rfl, hvs⟩ := hjp rfl h
        refine .inr ⟨c, rest', rfl, hc, rfl, ?_⟩
        rw [ItemAt, if_neg hfirst]
        exact ⟨rest, hzs, hvs.symm⟩
    · -- any other byte begins the first item, and follows no item
      split at h
      · rename_i hfirst
        obtain ⟨_, vs, hp, hj⟩ := Gives.bind h
        obtain ⟨rfl, rfl⟩ := Gives.pure hp
        obtain ⟨c, rest', rfl, hc, rfl, hvs⟩ := hjp rfl hj
        refine .inr ⟨c, rest', rfl, hc, rfl, ?_⟩
        rw [ItemAt, if_pos hfirst, hzs, hvs]
      · exact (Refuses.bind_of_left (Refuses.failAhead _)).not_gives h |>.elim
    · exact (Refuses.bind_of_left (Refuses.failAhead _)).not_gives h |>.elim

theorem nextItem_end {first : Bool} {xs rest : List UInt8} (h : afterBlanks xs = 93 :: rest) :
    Yields (nextItem first) xs none (93 :: rest) := by
  unfold nextItem
  refine (skipBlank_bind_after _ xs).trans ?_
  rw [h, List.head?_cons]
  simp only
  exact Runs.refl _ _

theorem nextItem_start {first : Bool} {b : UInt8} {xs rest : List UInt8}
    (h : ItemAt first xs (b :: rest)) (hb : b ≠ 93) :
    Yields (nextItem first) xs (some b) (b :: rest) := by
  unfold nextItem
  refine (skipBlank_bind_after _ xs).trans ?_
  extract_lets jp
  -- the byte an item begins with is handed back, unread
  have hjp : Yields (jp (some b)) (b :: rest) (some b) (b :: rest) := by
    dsimp only [jp]
    split <;> rename_i heq
    · exact absurd (Option.some.inj heq) hb
    · cases Option.some.inj heq
      exact Runs.refl _ _
    · cases heq
  cases first with
  | true =>
    rw [ItemAt, if_pos rfl] at h
    rw [← h, List.head?_cons]
    split <;> rename_i heq
    · exact absurd (Option.some.inj heq) hb
    · cases Option.some.inj heq
      exact ((Yields.pure _ _).bind _).trans hjp
    · cases Option.some.inj heq
      exact ((Yields.pure _ _).bind _).trans hjp
    · cases heq
  | false =>
    rw [ItemAt, if_neg Bool.false_ne_true] at h
    obtain ⟨zs, hzs, hrest⟩ := h
    rw [hzs, List.head?_cons]
    simp only [Bool.false_eq_true, if_false]
    refine (eat_bind _ _ _).trans ((skipBlank_bind_after _ zs).trans ?_)
    rw [← hrest, List.head?_cons]
    exact hjp


theorem Reader.Gives.nextKey {first : Bool} {fuel : Nat} {xs ys : List UInt8} {o : Option String}
    (h : Gives (nextKey first fuel) xs o ys) :
    (o = none ∧ ∃ rest, afterBlanks xs = 125 :: rest ∧ ys = 125 :: rest) ∨
      ∃ k zs, o = some k ∧ ItemAt first xs (34 :: zs) ∧ StringBody zs (utf8 k) ys := by
  unfold Reader.nextKey at h
  replace h := Gives.skipBlank_bind h
  extract_lets jp at h
  -- a member begins with the quote of its name
  have hjp : ∀ {start : Option UInt8} {vs : List UInt8}, start = vs.head? →
      Gives (jp start) vs o ys → ∃ k zs, o = some k ∧ vs = 34 :: zs ∧ StringBody zs (utf8 k) ys := by
    intro start vs hstart hj
    dsimp only [jp] at hj
    split at hj
    · cases vs with
      | nil => cases hstart
      | cons d zs =>
        cases Option.some.inj hstart
        obtain ⟨k, ws, hk, hp⟩ := Gives.bind (Gives.eat_bind hj)
        obtain ⟨rfl, rfl⟩ := Gives.pure hp
        exact ⟨k, zs, rfl, rfl, Gives.readString hk⟩
    · exact (Refuses.failAhead _).not_gives hj |>.elim
    · exact (Refuses.failAhead _).not_gives hj |>.elim
    · exact (Refuses.failAhead _).not_gives hj |>.elim
  cases hzs : afterBlanks xs with
  | nil =>
    rw [hzs] at h
    exact (Refuses.bind_of_left (Refuses.failAhead _)).not_gives h |>.elim
  | cons b rest =>
    rw [hzs, List.head?_cons] at h
    split at h
    · -- the closing brace
      rename_i heq
      cases Option.some.inj heq
      obtain ⟨rfl, rfl⟩ := Gives.pure h
      exact .inl ⟨rfl, rest, rfl, rfl⟩
    · -- a comma: after a member it is read, just after the opening it is no name
      rename_i heq
      cases Option.some.inj heq
      split at h
      · obtain ⟨_, vs, hp, hj⟩ := Gives.bind h
        obtain ⟨rfl, rfl⟩ := Gives.pure hp
        obtain ⟨k, zs, -, hvs, -⟩ := hjp rfl hj
        cases hvs
      · rename_i hfirst
        replace h := Gives.skipBlank_bind (Gives.eat_bind h)
        obtain ⟨k, zs, rfl, hvs, hk⟩ := hjp rfl h
        refine .inr ⟨k, zs, rfl, ?_, hk⟩
        rw [ItemAt, if_neg hfirst]
        exact ⟨rest, hzs, hvs.symm⟩
    · -- any other byte begins the first member, and follows no member
      split at h
      · rename_i hfirst
        obtain ⟨_, vs, hp, hj⟩ := Gives.bind h
        obtain ⟨rfl, rfl⟩ := Gives.pure hp
        obtain ⟨k, zs, rfl, hvs, hk⟩ := hjp rfl hj
        refine .inr ⟨k, zs, rfl, ?_, hk⟩
        rw [ItemAt, if_pos hfirst, hzs, hvs]
      · exact (Refuses.bind_of_left (Refuses.failAhead _)).not_gives h |>.elim
    · exact (Refuses.bind_of_left (Refuses.failAhead _)).not_gives h |>.elim

theorem nextKey_end {first : Bool} {fuel : Nat} {xs rest : List UInt8}
    (h : afterBlanks xs = 125 :: rest) : Yields (nextKey first fuel) xs none (125 :: rest) := by
  unfold nextKey
  refine (skipBlank_bind_after _ xs).trans ?_
  rw [h, List.head?_cons]
  simp only
  exact Runs.refl _ _

theorem nextKey_start {first : Bool} {fuel : Nat} {k : String} {xs zs ys : List UInt8}
    (h : ItemAt first xs (34 :: zs)) (hk : StringBody zs (utf8 k) ys) (hf : zs.length ≤ fuel) :
    Yields (nextKey first fuel) xs (some k) ys := by
  unfold nextKey
  refine (skipBlank_bind_after _ xs).trans ?_
  extract_lets jp
  -- the name is read from its quote
  have hjp : Yields (jp (some 34)) (34 :: zs) (some k) ys := by
    dsimp only [jp]
    simp only
    exact (eat_bind _ _ _).trans ((hk.yields hf).bind _)
  cases first with
  | true =>
    rw [ItemAt, if_pos rfl] at h
    rw [← h, List.head?_cons]
    simp only [if_true]
    exact ((Yields.pure _ _).bind _).trans hjp
  | false =>
    rw [ItemAt, if_neg Bool.false_ne_true] at h
    obtain ⟨ws, hws, hrest⟩ := h
    rw [hws, List.head?_cons]
    simp only [Bool.false_eq_true, if_false]
    refine (eat_bind _ _ _).trans ((skipBlank_bind_after _ ws).trans ?_)
    rw [← hrest, List.head?_cons]
    exact hjp


/-! ## Colons, closings and depth -/

theorem Reader.Gives.colon {xs ys : List UInt8} {u : Unit} (h : Gives colon xs u ys) :
    afterBlanks xs = 58 :: ys := by
  unfold Reader.colon at h
  replace h := Gives.skipBlank_bind h
  cases hzs : afterBlanks xs with
  | nil =>
    rw [hzs] at h
    exact (Refuses.failAhead _).not_gives h |>.elim
  | cons b rest =>
    rw [hzs, List.head?_cons] at h
    split at h
    · rename_i heq
      cases Option.some.inj heq
      rw [Gives.of_eat h]
    · exact (Refuses.failAhead _).not_gives h |>.elim
    · exact (Refuses.failAhead _).not_gives h |>.elim


theorem colon_after {xs ys : List UInt8} (h : afterBlanks xs = 58 :: ys) : Yields colon xs () ys := by
  unfold colon
  refine (skipBlank_bind_after _ xs).trans ?_
  rw [h]
  exact eat_yields 58 ys

theorem Reader.Gives.endList {xs ys : List UInt8} {u : Unit} (h : Gives endList xs u ys) :
    afterBlanks xs = 93 :: ys := by
  unfold Reader.endList at h
  replace h := Gives.skipBlank_bind h
  cases hzs : afterBlanks xs with
  | nil =>
    rw [hzs] at h
    exact (Refuses.failAhead _).not_gives h |>.elim
  | cons b rest =>
    rw [hzs, List.head?_cons] at h
    split at h
    · rename_i heq
      cases Option.some.inj heq
      rw [Gives.of_eat h]
    · -- a comma before the closing bracket is refused
      replace h := Gives.skipBlank_bind (Gives.eat_bind h)
      split at h <;> exact (Refuses.failAhead _).not_gives h |>.elim
    · exact (Refuses.failAhead _).not_gives h |>.elim
    · exact (Refuses.failAhead _).not_gives h |>.elim

theorem endList_after {xs ys : List UInt8} (h : afterBlanks xs = 93 :: ys) :
    Yields endList xs () ys := by
  unfold endList
  refine (skipBlank_bind_after _ xs).trans ?_
  rw [h]
  exact eat_yields 93 ys

theorem Reader.Gives.endObject {xs ys : List UInt8} {u : Unit} (h : Gives endObject xs u ys) :
    afterBlanks xs = 125 :: ys := by
  unfold Reader.endObject at h
  replace h := Gives.skipBlank_bind h
  cases hzs : afterBlanks xs with
  | nil =>
    rw [hzs] at h
    exact (Refuses.failAhead _).not_gives h |>.elim
  | cons b rest =>
    rw [hzs, List.head?_cons] at h
    split at h
    · rename_i heq
      cases Option.some.inj heq
      rw [Gives.of_eat h]
    · exact (Refuses.failAhead _).not_gives h |>.elim
    · exact (Refuses.failAhead _).not_gives h |>.elim
    · exact (Refuses.failAhead _).not_gives h |>.elim

theorem endObject_after {xs ys : List UInt8} (h : afterBlanks xs = 125 :: ys) :
    Yields endObject xs () ys := by
  unfold endObject
  refine (skipBlank_bind_after _ xs).trans ?_
  rw [h]
  exact eat_yields 125 ys

/-- A container is entered only below the depth limit, by reading its opening byte. -/
theorem Reader.Gives.enter {depth : Nat} {b : UInt8} {xs ys : List UInt8} {u : Unit}
    (h : Gives (enter depth) (b :: xs) u ys) : 1 < depth ∧ ys = xs := by
  unfold Reader.enter at h
  split at h
  · exact (Refuses.failAhead _).not_gives h |>.elim
  · exact ⟨by omega, Gives.of_eat h⟩

/-! ## Where items stand -/

theorem ItemAt.length_le {first : Bool} {xs ys : List UInt8} (h : ItemAt first xs ys) :
    ys.length ≤ xs.length := by
  cases first with
  | true =>
    rw [ItemAt, if_pos rfl] at h
    exact h ▸ length_afterBlanks_le xs
  | false =>
    obtain ⟨zs, hc, rfl⟩ := h
    exact (length_afterBlanks_le zs).trans (length_lt_of_afterBlanks hc).le

/-- An item found where the reader stands begins the items that follow it. -/
theorem ItemsText.of_itemAt {β : Type} {close : UInt8} {E : List UInt8 → β → List UInt8 → Prop}
    (hE : ∀ {xs : List UInt8} {a : β} {ys : List UInt8}, E (afterBlanks xs) a ys → E xs a ys)
    {first : Bool} {xs zs ws ys : List UInt8} {a : β} {as : List β} (hat : ItemAt first xs zs)
    (ha : E zs a ws) (hs : ItemsText close E false ws as ys) :
    ItemsText close E first xs (a :: as) ys := by
  cases first with
  | true =>
    rw [ItemAt, if_pos rfl] at hat
    subst hat
    exact .first (hE ha) hs
  | false =>
    obtain ⟨us, hc, rfl⟩ := hat
    exact .next hc (hE ha) hs

/-- The first of some items stands where the next item does, and the others follow it. -/
theorem ItemsText.cons_itemAt {β : Type} {close : UInt8} {E : List UInt8 → β → List UInt8 → Prop}
    (hE : ∀ {xs : List UInt8} {a : β} {ys : List UInt8}, E xs a ys → E (afterBlanks xs) a ys)
    {first : Bool} {xs ys : List UInt8} {a : β} {as : List β}
    (h : ItemsText close E first xs (a :: as) ys) :
    ∃ zs ws, ItemAt first xs zs ∧ E zs a ws ∧ ItemsText close E false ws as ys := by
  cases h with
  | first ha hs => exact ⟨_, _, by rw [ItemAt, if_pos rfl], hE ha, hs⟩
  | next hc ha hs => exact ⟨_, _, ⟨_, hc, rfl⟩, hE ha, hs⟩

theorem ItemsText.nil_close {β : Type} {close : UInt8} {E : List UInt8 → β → List UInt8 → Prop}
    {first : Bool} {xs ys : List UInt8} (h : ItemsText close E first xs [] ys) :
    afterBlanks xs = close :: ys := by
  cases h with
  | close h => exact h

theorem ItemAt.afterBlanks_eq {first : Bool} {xs ys : List UInt8} (h : ItemAt first xs ys) :
    afterBlanks ys = ys := by
  cases first with
  | true =>
    rw [ItemAt, if_pos rfl] at h
    rw [h, afterBlanks_afterBlanks]
  | false =>
    obtain ⟨zs, -, rfl⟩ := h
    exact afterBlanks_afterBlanks zs

/-- One turn of a loop over the items of a list, whose continuation after the next item is
given by `K`: either the list has closed, or an item was read by `R` where the next item
stands. -/
theorem Reader.Gives.itemTurn {E : List UInt8 → Json → List UInt8 → Prop} {R : Reader Json}
    {path : List Step} {first : Bool} {K : Option UInt8 → Reader (Option Json)}
    (hnone : K none = Pure.pure none) (hsome : ∀ b, K (some b) = R >>= fun x => Pure.pure (some x))
    {xs us : List UInt8} {item : Option Json}
    (hR : ∀ {ys zs : List UInt8} {v : Json}, ys.length ≤ xs.length → Gives R ys v zs → E ys v zs)
    (h : Gives (Reader.tracked path (Reader.nextItem first >>= K)) xs item us) :
    (item = none ∧ ∃ rest, afterBlanks xs = 93 :: rest ∧ us = 93 :: rest) ∨
      ∃ zs x, item = some x ∧ ItemAt first xs zs ∧ E zs x us := by
  obtain ⟨o, vs, hnext, hk⟩ := Gives.bind (Gives.tracked h)
  rcases Gives.nextItem hnext with ⟨rfl, rest, hxs, rfl⟩ | ⟨b, rest, rfl, hb, rfl, hat⟩
  · rw [hnone] at hk
    obtain ⟨rfl, rfl⟩ := Gives.pure hk
    exact .inl ⟨rfl, rest, hxs, rfl⟩
  · rw [hsome] at hk
    obtain ⟨x, ps, hx, hp⟩ := Gives.bind hk
    obtain ⟨rfl, rfl⟩ := Gives.pure hp
    exact .inr ⟨b :: rest, x, rfl, hat, hR hat.length_le hx⟩

end Tintbook.Json
