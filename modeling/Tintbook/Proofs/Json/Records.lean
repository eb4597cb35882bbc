import Tintbook.Proofs.Json.Containers
import Tintbook.Proofs.Json.Skipping
import Tintbook.Proofs.Json.ShapeRead
/-!
# The texts of lists and records

What the reader takes for a list of some shape, and for a record whose fields are strings and
64-bit integers, worked out in both directions. For each shape the reader's texts are given as
a relation between the text ahead, the value read and the text left (`ShapeSpec`): everything
the reader reads fits the relation, and it reads everything that fits, once its fuel passes
four times the length of the text.

A record is written as an object or as a list (`RecordText`). In an object the members come in
any order; a name the record does not declare is passed over with its value, which may be any
JSON value; a declared name may not come twice; a field left out takes its default, and the
record is refused when it has none (`fillFields`). In a list the values of the fields come in
declared order, and fields with defaults may be left off the end (`FieldItems`).

## What this module delivers

- `ShapeSpec.text`, `ShapeSpec.int64`: strings and integers of the 64-bit range.
- `ShapeSpec.list`: a list of items of a shape.
- `ShapeSpec.record`: a record of leaf fields with distinct names, three at most.
- `ShapeSpec.read_eq_ok`: a whole text, with blanks around the value.
- `RecordText.values`: the record read has each field with a value of its shape or its default.
-/

set_option autoImplicit false
namespace Tintbook.Json
open Reader

/-- A string value, after the blanks before it. -/
def TextValue (xs : List UInt8) (w : Json) (ys : List UInt8) : Prop :=
  ∃ s, w = .str s ∧ StringText (afterBlanks xs) s ys

/-- An integer of the 64-bit signed range in its shortest form, after the blanks before it. -/
def Int64Value (xs : List UInt8) (w : Json) (ys : List UInt8) : Prop :=
  ∃ n, w = .int n ∧ Int64Text (afterBlanks xs) n ys

/-- The reader reads values of the shape `s` at `depth` exactly as `E` says, whenever its fuel
passes four times the length of the text by two. Each such value may stand behind blanks,
reads a byte at least, and begins with no closing bracket. -/
structure ShapeSpec (depth : Nat) (s : Shape) (E : List UInt8 → Json → List UInt8 → Prop) :
    Prop where
  sound : ∀ {path : List Step} {fuel : Nat} {xs ys : List UInt8} {w : Json},
    4 * xs.length + 2 ≤ fuel → Gives (readAs path depth fuel s) xs w ys → E xs w ys
  complete : ∀ {path : List Step} {fuel : Nat} {xs ys : List UInt8} {w : Json},
    4 * xs.length + 2 ≤ fuel → E xs w ys → Yields (readAs path depth fuel s) xs w ys
  blanks : ∀ {xs ys : List UInt8} {w : Json}, E (afterBlanks xs) w ys ↔ E xs w ys
  length_lt : ∀ {xs ys : List UInt8} {w : Json}, E xs w ys → ys.length < xs.length
  head : ∀ {xs ys : List UInt8} {w : Json}, E xs w ys →
    ∃ b rest, afterBlanks xs = b :: rest ∧ b ≠ 93

theorem Int64Text.head {xs ys : List UInt8} {n : Int} (h : Int64Text xs n ys) :
    ∃ b rest, xs = b :: rest ∧ b ≠ 93 := by
  obtain ⟨hxs, -, hlow, hhigh⟩ := h
  obtain ⟨b, bs, hbs, -, -, h93, -⟩ := compact_head (plain_int64 hlow hhigh)
  refine ⟨b, bs ++ ys, ?_, h93⟩
  rw [hxs, show utf8 (showInt n) = b :: bs from hbs, List.cons_append]

theorem ShapeSpec.text (depth : Nat) : ShapeSpec depth .text TextValue where
  sound := by
    intro path fuel xs ys w hf h
    obtain ⟨f, rfl⟩ : ∃ f, fuel = f + 1 := ⟨fuel - 1, by omega⟩
    rw [readAs] at h
    replace h := Gives.tracked h
    unfold readText at h
    replace h := Gives.skipBlank_bind h
    cases hzs : afterBlanks xs with
    | nil =>
      rw [hzs] at h
      exact (Refuses.failAhead _).not_gives h |>.elim
    | cons b rest =>
      rw [hzs, List.head?_cons] at h
      split at h
      · rename_i heq
        cases heq
      · rename_i heq
        cases Option.some.inj heq
        obtain ⟨s, zs, hs, hp⟩ := Gives.bind (Gives.eat_bind h)
        obtain ⟨rfl, rfl⟩ := Gives.pure hp
        exact ⟨s, rfl, rest, hzs, Gives.readString hs⟩
      · exact (refuseKind_refuses _ _).not_gives h |>.elim
  complete := by
    rintro path fuel xs ys w hf ⟨s, rfl, zs, hzs, hs⟩
    obtain ⟨f, rfl⟩ : ∃ f, fuel = f + 1 := ⟨fuel - 1, by omega⟩
    have hlen : zs.length ≤ f := by
      have := length_afterBlanks_le xs
      rw [hzs, List.length_cons] at this
      omega
    rw [readAs]
    refine tracked_yields path ?_
    unfold readText
    refine (skipBlank_bind_after _ xs).trans ?_
    rw [hzs, List.head?_cons]
    simp only
    exact (eat_bind _ _ _).trans ((hs.yields hlen).bind _)
  blanks := by
    intro xs ys w
    rw [TextValue, TextValue, afterBlanks_afterBlanks]
  length_lt := by
    rintro xs ys w ⟨s, -, hs⟩
    exact hs.length_lt.trans_le (length_afterBlanks_le xs)
  head := by
    rintro xs ys w ⟨s, -, zs, hzs, -⟩
    exact ⟨34, zs, hzs, by decide⟩

theorem ShapeSpec.int64 (depth : Nat) : ShapeSpec depth .int64 Int64Value where
  sound := by
    intro path fuel xs ys w hf h
    obtain ⟨f, rfl⟩ : ∃ f, fuel = f + 1 := ⟨fuel - 1, by omega⟩
    rw [readAs] at h
    exact Gives.readInt64 (Gives.tracked h) (by have := length_afterBlanks_le xs; omega)
  complete := by
    rintro path fuel xs ys w hf ⟨n, rfl, hn⟩
    obtain ⟨f, rfl⟩ : ∃ f, fuel = f + 1 := ⟨fuel - 1, by omega⟩
    rw [readAs]
    exact tracked_yields path (hn.yields (by have := length_afterBlanks_le xs; omega))
  blanks := by
    intro xs ys w
    rw [Int64Value, Int64Value, afterBlanks_afterBlanks]
  length_lt := by
    rintro xs ys w ⟨n, -, hn⟩
    exact hn.length_lt.trans_le (length_afterBlanks_le xs)
  head := by
    rintro xs ys w ⟨n, -, hn⟩
    exact hn.head

/-! ## Lists -/

/-- A list of items each of the kind `E`, behind the blanks before it. -/
def ListValue (E : List UInt8 → Json → List UInt8 → Prop) (xs : List UInt8) (w : Json)
    (ys : List UInt8) : Prop :=
  ∃ zs ws, afterBlanks xs = 91 :: zs ∧ ItemsText 93 E true zs ws ys ∧ w = .arr ws

section Items

variable {depth : Nat} {s : Shape} {E : List UInt8 → Json → List UInt8 → Prop}

/-- What the item loop gives is items of the kind the shape reads, up to the closing bracket,
which it leaves unread; the fuel runs four times the length of the text ahead. -/
theorem Reader.Gives.readItemsAs (hE : ShapeSpec depth s E) {path : List Step} :
    ∀ (fuel : Nat) {first : Bool} {i : Nat} {acc : List Json} {xs zs : List UInt8} {v : Json},
      4 * xs.length + 3 ≤ fuel → Gives (readItemsAs path depth fuel s first i acc) xs v zs →
      ∃ ws ys, ItemsText 93 E first xs ws ys ∧ zs = 93 :: ys ∧ v = .arr (acc.reverse ++ ws)
  | 0, _, _, _, _, _, _, hf, _ => by omega
  | fuel + 1, first, i, acc, xs, zs, v, hf, h => by
    rw [Reader.readItemsAs] at h
    obtain ⟨item, us, hitem, h⟩ := Gives.bind h
    rcases Gives.itemTurn rfl (fun _ => rfl) (fun hlen hg => hE.sound (by omega) hg) hitem with
      ⟨rfl, rest, hxs, rfl⟩ | ⟨ws, x, rfl, hat, hx⟩
    · -- the closing bracket ends the list
      obtain ⟨rfl, rfl⟩ := Gives.pure h
      exact ⟨[], rest, .close hxs, rfl, by simp⟩
    · have hat_len := hat.length_le
      have hx_len := hE.length_lt hx
      obtain ⟨ws, ys, hitems, rfl, rfl⟩ := Gives.readItemsAs hE fuel (by omega) h
      exact ⟨x :: ws, ys, ItemsText.of_itemAt hE.blanks.1 hat hx hitems, rfl, by simp⟩

/-- Items of the kind the shape reads, up to a closing bracket, are what the item loop reads
there, given fuel four times the length of the text ahead. -/
theorem ItemsText.yields_readItemsAs (hE : ShapeSpec depth s E) (path : List Step)
    {first : Bool} {xs ys : List UInt8} {ws : List Json} (h : ItemsText 93 E first xs ws ys) :
    ∀ (fuel i : Nat) (acc : List Json), 4 * xs.length + 3 ≤ fuel →
      Yields (readItemsAs path depth fuel s first i acc) xs (.arr (acc.reverse ++ ws))
        (93 :: ys) := by
  induction h with
  | close h =>
    intro fuel i acc hf
    obtain ⟨f, rfl⟩ : ∃ f, fuel = f + 1 := ⟨fuel - 1, by omega⟩
    simpa using readItemsAs_stop (nextItem_end h)
  | @first xs zs ys a as ha hs ih =>
    intro fuel i acc hf
    obtain ⟨f, rfl⟩ : ∃ f, fuel = f + 1 := ⟨fuel - 1, by omega⟩
    obtain ⟨b, rest, hbs, hb⟩ := hE.head ha
    have hat : ItemAt true xs (b :: rest) := by rw [ItemAt, if_pos rfl, hbs]
    have hlen := hE.length_lt ha
    have hbs_len := length_afterBlanks_le xs
    rw [hbs] at hbs_len
    refine (readItemsAs_step (nextItem_start hat hb)
      (hE.complete (by omega) (hbs ▸ hE.blanks.2 ha))).trans ?_
    have hrest := ih f (i + 1) (a :: acc) (by omega)
    rwa [List.reverse_cons, List.append_assoc, List.singleton_append] at hrest
  | @next xs us zs ys a as hc ha hs ih =>
    intro fuel i acc hf
    obtain ⟨f, rfl⟩ : ∃ f, fuel = f + 1 := ⟨fuel - 1, by omega⟩
    obtain ⟨b, rest, hbs, hb⟩ := hE.head ha
    have hat : ItemAt false xs (b :: rest) := ⟨us, hc, hbs.symm⟩
    have hlen := hE.length_lt ha
    have hbs_len := hat.length_le
    have hus_len := length_lt_of_afterBlanks hc
    refine (readItemsAs_step (nextItem_start hat hb)
      (hE.complete (by omega) (hbs ▸ hE.blanks.2 ha))).trans ?_
    have hrest := ih f (i + 1) (a :: acc) (by omega)
    rwa [List.reverse_cons, List.append_assoc, List.singleton_append] at hrest

end Items

theorem ShapeSpec.list {depth : Nat} {s : Shape} {E : List UInt8 → Json → List UInt8 → Prop}
    (hd : 1 < depth) (hE : ShapeSpec (depth - 1) s E) : ShapeSpec depth (.list s) (ListValue E) where
  sound := by
    intro path fuel xs ys w hf h
    obtain ⟨f, rfl⟩ : ∃ f, fuel = f + 1 := ⟨fuel - 1, by omega⟩
    rw [readAs] at h
    replace h := Gives.skipBlank_bind (Gives.tracked h)
    cases hzs : afterBlanks xs with
    | nil =>
      rw [hzs] at h
      exact (Refuses.failAhead _).not_gives h |>.elim
    | cons b rest =>
      rw [hzs, List.head?_cons] at h
      split at h
      · rename_i heq
        cases heq
      · rename_i heq
        cases Option.some.inj heq
        obtain ⟨u, zs, henter, hin⟩ := Gives.bind h
        obtain ⟨-, rfl⟩ := Gives.enter henter
        obtain ⟨r, zs', hr, hin⟩ := Gives.bind hin
        obtain ⟨e, zs'', he, hin⟩ := Gives.bind hin
        obtain ⟨hfirst, rfl⟩ := Gives.placed hin
        obtain ⟨rfl, rfl⟩ := firstOf_eq_ok hfirst
        have hrest := length_lt_of_afterBlanks hzs
        obtain ⟨ws, ys', hitems, rfl, rfl⟩ :=
          Gives.readItemsAs hE f (by omega) (Gives.attempt_ok hr)
        have hend := Gives.endList (Gives.attempt_ok he)
        rw [afterBlanks_cons (by decide)] at hend
        cases List.cons.inj hend |>.2
        exact ⟨zs, ws, hzs, hitems, rfl⟩
      · exact (refuseKind_refuses _ _).not_gives h |>.elim
  complete := by
    rintro path fuel xs ys w hf ⟨zs, ws, hzs, hitems, rfl⟩
    obtain ⟨f, rfl⟩ : ∃ f, fuel = f + 1 := ⟨fuel - 1, by omega⟩
    have hrest := length_lt_of_afterBlanks hzs
    rw [readAs]
    refine tracked_yields path ((skipBlank_bind_after _ xs).trans ?_)
    rw [hzs, List.head?_cons]
    simp only
    refine ((enter_yields hd _ _).bind _).trans ?_
    have hread := hitems.yields_readItemsAs hE path f 0 [] (by omega)
    rw [List.reverse_nil, List.nil_append] at hread
    refine ((attempt_yields hread).bind _).trans ?_
    exact ((attempt_yields (endList_after (afterBlanks_cons (by decide) ys))).bind _).trans
      (Runs.refl _ _)
  blanks := by
    intro xs ys w
    rw [ListValue, ListValue, afterBlanks_afterBlanks]
  length_lt := by
    rintro xs ys w ⟨zs, ws, hzs, hitems, -⟩
    exact (hitems.length_lt hE.length_lt).trans (length_lt_of_afterBlanks hzs)
  head := by
    rintro xs ys w ⟨zs, ws, hzs, -, -⟩
    exact ⟨91, zs, hzs, by decide⟩

/-- Items of one kind, each the image of an item of another. -/
theorem ItemsText.map {β γ : Type} {close : UInt8} {E : List UInt8 → β → List UInt8 → Prop}
    {g : γ → β} {first : Bool} {xs ys : List UInt8} {cs : List γ}
    (h : ItemsText close (fun xs c ys => E xs (g c) ys) first xs cs ys) :
    ItemsText close E first xs (cs.map g) ys := by
  induction h with
  | close h => exact .close h
  | first ha _ ih => exact .first ha ih
  | next hc ha _ ih => exact .next hc ha ih

/-- Items whose values all lie in the image of `g` are the images of items of the other kind. -/
theorem ItemsText.exists_map {β γ : Type} {close : UInt8}
    {E : List UInt8 → β → List UInt8 → Prop} {g : γ → β}
    (hg : ∀ {xs : List UInt8} {a : β} {ys : List UInt8}, E xs a ys → ∃ c, a = g c)
    {first : Bool} {xs ys : List UInt8} {as : List β} (h : ItemsText close E first xs as ys) :
    ∃ cs, as = cs.map g ∧ ItemsText close (fun xs c ys => E xs (g c) ys) first xs cs ys := by
  induction h with
  | close h => exact ⟨[], rfl, .close h⟩
  | first ha _ ih =>
    obtain ⟨c, rfl⟩ := hg ha
    obtain ⟨cs, rfl, hcs⟩ := ih
    exact ⟨c :: cs, rfl, .first ha hcs⟩
  | next hc ha _ ih =>
    obtain ⟨c, rfl⟩ := hg ha
    obtain ⟨cs, rfl, hcs⟩ := ih
    exact ⟨c :: cs, rfl, .next hc ha hcs⟩

/-! ## Records -/

/-- A value of a leaf shape: a string, or an integer of the 64-bit range. Records are read
here only with fields of these shapes. -/
def LeafValue : Shape → List UInt8 → Json → List UInt8 → Prop
  | .text => TextValue
  | .int64 => Int64Value
  | _ => fun _ _ _ => False

/-- Every field of the record has a leaf shape. -/
def LeafFields (fields : List (String × Shape × Option Json)) : Prop :=
  ∀ f ∈ fields, f.2.1 = .text ∨ f.2.1 = .int64

theorem ShapeSpec.leaf {s : Shape} (hs : s = .text ∨ s = .int64) (depth : Nat) :
    ShapeSpec depth s (LeafValue s) := by
  rcases hs with rfl | rfl
  · exact ShapeSpec.text depth
  · exact ShapeSpec.int64 depth

theorem LeafValue.length_lt {s : Shape} {xs ys : List UInt8} {w : Json}
    (h : LeafValue s xs w ys) : ys.length < xs.length := by
  cases s with
  | text => exact (ShapeSpec.text 0).length_lt h
  | int64 => exact (ShapeSpec.int64 0).length_lt h
  | _ => exact h.elim

theorem LeafFields.head {k : String} {s : Shape} {d : Option Json}
    {fields : List (String × Shape × Option Json)} (h : LeafFields ((k, s, d) :: fields)) :
    s = .text ∨ s = .int64 :=
  h _ List.mem_cons_self

theorem LeafFields.tail {f : String × Shape × Option Json}
    {fields : List (String × Shape × Option Json)} (h : LeafFields (f :: fields)) :
    LeafFields fields :=
  fun g hg => h g (List.mem_cons_of_mem f hg)

/-- The items of a record written as a list, each read against its field in declared order,
up to the closing bracket, which is not part of them. Fields with a default may be left off
the end. -/
inductive FieldItems : List (String × Shape × Option Json) → Bool → List UInt8 →
    List (String × Json) → List UInt8 → Prop
  | done {first : Bool} {xs : List UInt8} : FieldItems [] first xs [] xs
  | item {k : String} {s : Shape} {d : Option Json} {fields : List (String × Shape × Option Json)}
      {first : Bool} {xs zs ws ys : List UInt8} {v : Json} {ms : List (String × Json)}
      (hat : ItemAt first xs zs) (hv : LeafValue s zs v ws)
      (hs : FieldItems fields false ws ms ys) :
      FieldItems ((k, s, d) :: fields) first xs ((k, v) :: ms) ys
  | default {k : String} {s : Shape} {v : Json} {fields : List (String × Shape × Option Json)}
      {first : Bool} {xs rest ys : List UInt8} {ms : List (String × Json)}
      (hend : afterBlanks xs = 93 :: rest) (hs : FieldItems fields first (93 :: rest) ms ys) :
      FieldItems ((k, s, some v) :: fields) first xs ((k, v) :: ms) ys

/-- A turn of the loop over a record written as a list where the list has closed: the field
takes its default. -/
theorem readFieldsInOrder_default {path : List Step} {depth fuel i : Nat} {name : String}
    {all fields : List (String × Shape × Option Json)} {k : String} {s : Shape} {v : Json}
    {first : Bool} {acc : List (String × Json)} {xs rest : List UInt8}
    (hend : afterBlanks xs = 93 :: rest) :
    Runs (readFieldsInOrder path depth (fuel + 1) name all ((k, s, some v) :: fields) first i acc)
      xs (readFieldsInOrder path depth fuel name all fields first (i + 1) ((k, v) :: acc))
      (93 :: rest) := by
  rw [readFieldsInOrder]
  refine ((tracked_yields _ (?_ : Yields _ _ none (93 :: rest))).bind _).trans (Runs.refl _ _)
  exact ((nextItem_end hend).bind _).trans (Runs.refl _ _)

section InOrder

variable {depth : Nat} {path : List Step} {name : String}
  {all : List (String × Shape × Option Json)}

/-- What the loop over a record written as a list gives is the record's items up to where it
stopped; the fuel runs four times the length of the text ahead and the count of fields left. -/
theorem Reader.Gives.readFieldsInOrder :
    ∀ (fuel : Nat) {fields : List (String × Shape × Option Json)} {first : Bool} {i : Nat}
      {acc : List (String × Json)} {xs zs : List UInt8} {v : Json}, LeafFields fields →
      4 * xs.length + 2 + fields.length ≤ fuel →
      Gives (readFieldsInOrder path depth fuel name all fields first i acc) xs v zs →
      ∃ ms, FieldItems fields first xs ms zs ∧ v = .obj (acc.reverse ++ ms)
  | 0, _, _, _, _, _, _, _, _, hf, _ => by omega
  | fuel + 1, [], first, i, acc, xs, zs, v, _, _, h => by
    rw [Reader.readFieldsInOrder.eq_2 path depth (fuel + 1) name all first i acc
      (Nat.succ_ne_zero fuel)] at h
    obtain ⟨rfl, rfl⟩ := Gives.pure h
    exact ⟨[], .done, by simp⟩
  | fuel + 1, (k, s, d) :: fields, first, i, acc, xs, zs, v, hleaf, hf, h => by
    have hs := ShapeSpec.leaf hleaf.head depth
    simp only [List.length_cons] at hf
    -- an item read against the field goes on with the next field, whatever the default
    have hnext : ∀ {us ws : List UInt8} {x : Json}, ItemAt first xs ws → LeafValue s ws x us →
        Gives (Reader.readFieldsInOrder path depth fuel name all fields false (i + 1)
          ((k, x) :: acc))
          us v zs → ∃ ms, FieldItems ((k, s, d) :: fields) first xs ms zs ∧
            v = .obj (acc.reverse ++ ms) := by
      intro us ws x hat hx h
      have hat_len := hat.length_le
      have hx_len := hs.length_lt hx
      obtain ⟨ms, hms, rfl⟩ := Gives.readFieldsInOrder fuel hleaf.tail (by omega) h
      exact ⟨(k, x) :: ms, .item hat hx hms, by simp⟩
    -- where the list has closed, the field takes its default or the list is too short
    cases d with
    | none =>
      rw [Reader.readFieldsInOrder] at h
      obtain ⟨item, us, hitem, hk⟩ := Gives.bind h
      rcases Gives.itemTurn rfl (fun _ => rfl) (fun hlen hg => hs.sound (by omega) hg) hitem with
        ⟨rfl, rest, -, rfl⟩ | ⟨ws, x, rfl, hat, hx⟩
      · exact (Refuses.failData _).not_gives hk |>.elim
      · exact hnext hat hx hk
    | some w =>
      rw [Reader.readFieldsInOrder] at h
      obtain ⟨item, us, hitem, hk⟩ := Gives.bind h
      rcases Gives.itemTurn rfl (fun _ => rfl) (fun hlen hg => hs.sound (by omega) hg) hitem with
        ⟨rfl, rest, hxs, rfl⟩ | ⟨ws, x, rfl, hat, hx⟩
      · have hrest := length_lt_of_afterBlanks hxs
        obtain ⟨ms, hms, rfl⟩ :=
          Gives.readFieldsInOrder fuel hleaf.tail (by simp only [List.length_cons]; omega) hk
        exact ⟨(k, w) :: ms, .default hxs hms, by simp⟩
      · exact hnext hat hx hk

/-- The items of a record written as a list are what the loop over it reads, given fuel four
times the length of the text ahead and the count of fields left. -/
theorem FieldItems.yields_readFieldsInOrder {fields : List (String × Shape × Option Json)}
    {first : Bool} {xs ys : List UInt8} {ms : List (String × Json)}
    (h : FieldItems fields first xs ms ys) (hleaf : LeafFields fields) :
    ∀ (fuel i : Nat) (acc : List (String × Json)), 4 * xs.length + 2 + fields.length ≤ fuel →
      Yields (readFieldsInOrder path depth fuel name all fields first i acc) xs
        (.obj (acc.reverse ++ ms)) ys := by
  induction h with
  | done =>
    intro fuel i acc hf
    obtain ⟨f, rfl⟩ : ∃ f, fuel = f + 1 := ⟨fuel - 1, by omega⟩
    simpa using readFieldsInOrder_stop _
  | @item k s d fields first xs zs ws ys v ms hat hv hs ih =>
    intro fuel i acc hf
    obtain ⟨f, rfl⟩ : ∃ f, fuel = f + 1 := ⟨fuel - 1, by omega⟩
    have hsp := ShapeSpec.leaf hleaf.head depth
    obtain ⟨b, rest, hbs, hb⟩ := hsp.head hv
    rw [hat.afterBlanks_eq] at hbs
    subst hbs
    have hat_len := hat.length_le
    have hv_len := hsp.length_lt hv
    simp only [List.length_cons] at hf
    refine (readFieldsInOrder_step (nextItem_start hat hb) (hsp.complete (by omega) hv)).trans ?_
    have hrest := ih hleaf.tail f (i + 1) ((k, v) :: acc) (by omega)
    rwa [List.reverse_cons, List.append_assoc, List.singleton_append] at hrest
  | @default k s v fields first xs rest ys ms hend hs ih =>
    intro fuel i acc hf
    obtain ⟨f, rfl⟩ : ∃ f, fuel = f + 1 := ⟨fuel - 1, by omega⟩
    have hrest_len := length_lt_of_afterBlanks hend
    simp only [List.length_cons] at hf
    refine (readFieldsInOrder_default hend).trans ?_
    have hrest := ih hleaf.tail f (i + 1) ((k, v) :: acc) (by simp only [List.length_cons]; omega)
    rwa [List.reverse_cons, List.append_assoc, List.singleton_append] at hrest

end InOrder

/-! ## Records written as objects -/

/-- One member of a record written as an object: a declared field with a value of its shape,
or a name the record does not declare, whose value is passed over. -/
inductive FieldMember (fields : List (String × Shape × Option Json)) :
    List UInt8 → Option (String × Json) → List UInt8 → Prop
  | known {xs zs ws ys : List UInt8} {k : String} {s : Shape} {d : Option Json} {v : Json}
      (hk : StringText (afterBlanks xs) k zs) (hc : afterBlanks zs = 58 :: ws)
      (hf : (k, s, d) ∈ fields) (hv : LeafValue s ws v ys) :
      FieldMember fields xs (some (k, v)) ys
  | other {xs zs ws ys : List UInt8} {k : String}
      (hk : StringText (afterBlanks xs) k zs) (hc : afterBlanks zs = 58 :: ws)
      (hf : ∀ f ∈ fields, f.1 ≠ k) (hv : LooseValue ws ys) : FieldMember fields xs none ys

/-- The record that the members `given` make: each declared field with the value given to
it, or else its default; none when a field with no default is not given. -/
def fillFields (fields : List (String × Shape × Option Json)) (given : List (String × Json)) :
    Option (List (String × Json)) :=
  fields.mapM fun f => ((given.lookup f.1).or f.2.2).map (f.1, ·)

/-- What the slots of the loop over an object hold once the members `given` have been read:
for each declared field, the value given to it, if any. -/
def slotsOf (fields : List (String × Shape × Option Json)) (given : List (String × Json)) :
    List (Option Json) :=
  fields.map fun f => given.lookup f.1

theorem FieldMember.of_afterBlanks {fields : List (String × Shape × Option Json)}
    {xs ys : List UInt8} {m : Option (String × Json)} (h : FieldMember fields (afterBlanks xs) m ys) :
    FieldMember fields xs m ys := by
  cases h with
  | known hk hc hf hv => exact .known (by rwa [afterBlanks_afterBlanks] at hk) hc hf hv
  | other hk hc hf hv => exact .other (by rwa [afterBlanks_afterBlanks] at hk) hc hf hv

theorem FieldMember.to_afterBlanks {fields : List (String × Shape × Option Json)}
    {xs ys : List UInt8} {m : Option (String × Json)} (h : FieldMember fields xs m ys) :
    FieldMember fields (afterBlanks xs) m ys := by
  cases h with
  | known hk hc hf hv => exact .known (by rwa [afterBlanks_afterBlanks]) hc hf hv
  | other hk hc hf hv => exact .other (by rwa [afterBlanks_afterBlanks]) hc hf hv

theorem FieldMember.length_lt {fields : List (String × Shape × Option Json)}
    {xs ys : List UInt8} {m : Option (String × Json)} (h : FieldMember fields xs m ys) :
    ys.length < xs.length := by
  -- the name, the colon and the value each read a byte at least
  have hname : ∀ {zs ws : List UInt8} {k : String}, StringText (afterBlanks xs) k zs →
      afterBlanks zs = 58 :: ws → ws.length < xs.length := fun hk hc =>
    (length_lt_of_afterBlanks hc).trans (hk.length_lt.trans_le (length_afterBlanks_le xs))
  cases h with
  | known hk hc hf hv => exact hv.length_lt.trans (hname hk hc)
  | other hk hc hf hv => exact hv.length_lt.trans (hname hk hc)

section Slots

variable {fields : List (String × Shape × Option Json)} {given : List (String × Json)}

theorem lookup_append_ne {k k' : String} {x : Json} (h : k ≠ k') :
    (given ++ [(k', x)]).lookup k = given.lookup k := by
  rw [List.lookup_append, List.lookup_cons, beq_false_of_ne h]
  exact Option.or_none

theorem lookup_append_self {k : String} {x : Json} (h : given.lookup k = none) :
    (given ++ [(k, x)]).lookup k = some x := by
  simp [List.lookup_append, h]

theorem fillFields_cons (f : String × Shape × Option Json) :
    fillFields (f :: fields) given = (((given.lookup f.1).or f.2.2).map (f.1, ·)).bind
      fun p => (fillFields fields given).bind fun ws => some (p :: ws) := by
  simp only [fillFields, List.mapM_cons]
  rfl

theorem slotsOf_nil : slotsOf fields [] = fields.map fun _ => none := by
  simp [slotsOf]

theorem slotsOf_getElem? (i : Nat) :
    (slotsOf fields given)[i]? = fields[i]?.map fun f => given.lookup f.1 := by
  simp [slotsOf]

/-- Reading a field that was not given before puts its value in its slot. -/
theorem slotsOf_set {f : String × Shape × Option Json} {x : Json}
    (hnew : given.lookup f.1 = none) :
    ∀ {fields : List (String × Shape × Option Json)} {i : Nat}, (fields.map (·.1)).Nodup →
      fields[i]? = some f →
      (slotsOf fields given).set i (some x) = slotsOf fields (given ++ [(f.1, x)])
  | [], _, _, hi => by simp at hi
  | g :: fields, 0, hnames, hi => by
    rw [List.getElem?_cons_zero, Option.some.injEq] at hi
    subst hi
    rw [List.map_cons, List.nodup_cons] at hnames
    -- no other field shares the name
    have hrest : ∀ g' ∈ fields, (given ++ [(g.1, x)]).lookup g'.1 = given.lookup g'.1 :=
      fun g' hg' => lookup_append_ne fun he => hnames.1 (he ▸ List.mem_map_of_mem hg')
    simp only [slotsOf, List.map_cons, List.set_cons_zero, lookup_append_self hnew]
    rw [List.map_congr_left hrest]
  | g :: fields, i + 1, hnames, hi => by
    rw [List.getElem?_cons_succ] at hi
    rw [List.map_cons, List.nodup_cons] at hnames
    have hne : g.1 ≠ f.1 := fun he =>
      hnames.1 (he ▸ List.mem_map_of_mem (List.mem_of_getElem? hi))
    simp only [slotsOf, List.map_cons, List.set_cons_succ, lookup_append_ne hne]
    rw [← slotsOf, ← slotsOf, slotsOf_set hnew hnames.2 hi]

/-- The slots of the loop over an object, once it has closed, fill the record exactly as
`fillFields` does, for each way of treating the slots that keeps a value, falls back to the
default and misses a field with neither. -/
theorem mapM_slots
    {F : (String × Shape × Option Json) × Option Json → Except String (String × Json)}
    (hsome : ∀ f v, F (f, some v) = .ok (f.1, v))
    (hdefault : ∀ f v, f.2.2 = some v → F (f, none) = .ok (f.1, v))
    (hmissing : ∀ f, f.2.2 = none → F (f, none) = .error f.1) :
    ∀ (fields : List (String × Shape × Option Json)) (w : List (String × Json)),
      (fields.zip (slotsOf fields given)).mapM F = .ok w ↔ fillFields fields given = some w
  | [], w => by
    constructor
    · intro h
      cases h
      rfl
    · intro h
      cases h
      rfl
  | f :: fields, w => by
    have ih := mapM_slots hsome hdefault hmissing fields
    have hslots : slotsOf (f :: fields) given = given.lookup f.1 :: slotsOf fields given := rfl
    -- the field takes the value given, else its default, else the record is refused
    have hF : F (f, given.lookup f.1) =
        (((given.lookup f.1).or f.2.2).map (f.1, ·)).elim (.error f.1) .ok := by
      cases hl : given.lookup f.1 with
      | some v => simp [hsome]
      | none =>
        cases hd : f.2.2 with
        | some v => simp [hdefault f v hd]
        | none => simp [hmissing f hd]
    rw [hslots, List.zip_cons_cons, List.mapM_cons, fillFields_cons, hF]
    cases ((given.lookup f.1).or f.2.2).map (f.1, ·) with
    | none =>
      constructor
      · intro h
        cases h
      · intro h
        cases h
    | some p =>
      cases hm : (fields.zip (slotsOf fields given)).mapM F with
      | error e =>
        constructor
        · intro h
          cases h
        · intro h
          cases hfill : fillFields fields given with
          | none =>
            rw [hfill] at h
            cases h
          | some ws =>
            rw [(ih ws).2 hfill] at hm
            cases hm
      | ok ws =>
        rw [(ih ws).1 hm]
        show Except.ok (p :: ws) = .ok w ↔ some (p :: ws) = some w
        simp

end Slots

/-- One turn of the loop over an object: either the object closes, and its record is filled
from the members read, or a member stands where the next item does, with a name not read
before, and the loop goes on past it. -/
theorem Reader.Gives.fieldsTurn {path : List Step} {depth fuel : Nat}
    {fields : List (String × Shape × Option Json)} (hnames : (fields.map (·.1)).Nodup)
    (hleaf : LeafFields fields) {first : Bool} {given : List (String × Json)}
    {xs zs : List UInt8} {v : Json} (hf : 4 * xs.length + 2 ≤ fuel)
    (h : Gives (Reader.readFieldsByName path depth (fuel + 1) fields first (slotsOf fields given))
      xs v zs) :
    (∃ rest w, afterBlanks xs = 125 :: rest ∧ zs = 125 :: rest ∧
      fillFields fields given = some w ∧ v = .obj w) ∨
    ∃ ws m us, ItemAt first xs ws ∧ FieldMember fields ws m us ∧
      (∀ p ∈ m, given.lookup p.1 = none) ∧
      Gives (Reader.readFieldsByName path depth fuel fields false
        (slotsOf fields (given ++ m.toList))) us v zs := by
  rw [Reader.readFieldsByName] at h
  obtain ⟨o, ks, hkey, hk⟩ := Gives.bind h
  rcases Gives.nextKey hkey with ⟨rfl, rest, hxs, rfl⟩ | ⟨k, ks', rfl, hat, hbody⟩
  · -- the object closes
    dsimp only at hk
    split at hk
    · rename_i members hfilled
      obtain ⟨rfl, rfl⟩ := Gives.pure hk
      have hfill := (mapM_slots (by intro f v; rfl) (by intro f v hd; simp [hd])
        (by intro f hd; simp [hd]) fields members).1 hfilled
      exact .inl ⟨rest, members, hxs, rfl, hfill, rfl⟩
    · exact (Refuses.failData _).not_gives hk |>.elim
  · dsimp only at hk
    have hat_len := hat.length_le
    have hks := hbody.length_lt
    have hname : StringText (afterBlanks (34 :: ks')) k ks :=
      ⟨ks', afterBlanks_cons (by decide) ks', hbody⟩
    split at hk
    · rename_i i hidx
      obtain ⟨hi, hik, -⟩ := List.findIdx?_eq_some_iff_getElem.1 hidx
      rcases hfi : fields[i] with ⟨k', s', d'⟩
      have hkk : k' = k := by
        rw [hfi] at hik
        exact beq_iff_eq.1 hik
      subst hkk
      have hfield : fields[i]? = some (k', s', d') := by rw [List.getElem?_eq_getElem hi, hfi]
      rw [slotsOf_getElem?, hfield] at hk
      split at hk
      · exact (Refuses.failData _).not_gives hk |>.elim
      · rename_i hslot
        have hnew : given.lookup k' = none := by
          cases hl : given.lookup k' with
          | none => rfl
          | some x => exact (hslot x (by simp [hl])).elim
        obtain ⟨x, us, hv, hk⟩ := Gives.bind hk
        obtain ⟨u, ps, hcolon, hv⟩ := Gives.bind (Gives.tracked hv)
        have hc := Gives.colon hcolon
        have hps := length_lt_of_afterBlanks hc
        have hsp := ShapeSpec.leaf (hleaf _ (hfi ▸ List.getElem_mem hi)) depth
        have hxv := hsp.sound (by simp only [List.length_cons] at hat_len; omega) hv
        rw [slotsOf_set hnew hnames hfield] at hk
        exact .inr ⟨34 :: ks', some (k', x), us, hat,
          .known hname hc (hfi ▸ List.getElem_mem hi) hxv, by simpa using hnew, hk⟩
    · rename_i hidx
      obtain ⟨u, us, hskip, hk⟩ := Gives.bind hk
      obtain ⟨u', ps, hcolon, hskip⟩ := Gives.bind (Gives.tracked hskip)
      have hc := Gives.colon hcolon
      have hps := length_lt_of_afterBlanks hc
      have hother : ∀ f ∈ fields, f.1 ≠ k := fun f hf he =>
        by simpa [he] using List.findIdx?_eq_none_iff.1 hidx f hf
      refine .inr ⟨34 :: ks', none, us, hat,
        .other hname hc hother (Gives.skipValue hskip ?_), by simp, by simpa using hk⟩
      simp only [List.length_cons] at hat_len
      omega

section ByName

variable {path : List Step} {depth : Nat} {fields : List (String × Shape × Option Json)}

theorem filterMap_id_append (given : List (String × Json)) (m : Option (String × Json))
    (ms : List (Option (String × Json))) :
    given ++ (m :: ms).filterMap id = (given ++ m.toList) ++ ms.filterMap id := by
  cases m <;> simp

/-- A member whose name was not given before keeps the names given distinct. -/
theorem nodup_keys_append {given : List (String × Json)} {m : Option (String × Json)}
    (hgiven : (given.map (·.1)).Nodup) (hnew : ∀ p ∈ m, given.lookup p.1 = none) :
    ((given ++ m.toList).map (·.1)).Nodup := by
  cases m with
  | none => simpa using hgiven
  | some p =>
    have hp : p.1 ∉ given.map (·.1) := by
      intro hmem
      obtain ⟨q, hq, hqp⟩ := List.mem_map.1 hmem
      have hne := List.lookup_eq_none_iff.1 (hnew p rfl) q hq
      simp [hqp] at hne
    rw [Option.toList_some, List.map_append, List.nodup_append]
    refine ⟨hgiven, by simp, ?_⟩
    intro a ha b hb hab
    rw [List.map_cons, List.map_nil, List.mem_singleton] at hb
    exact hp (hb ▸ hab ▸ ha)

/-- Names kept distinct were not given before. -/
theorem lookup_eq_none_of_nodup {given rest : List (String × Json)} {m : Option (String × Json)}
    (h : ((given ++ m.toList ++ rest).map (·.1)).Nodup) : ∀ p ∈ m, given.lookup p.1 = none := by
  intro p hp
  rw [Option.mem_def] at hp
  subst hp
  rw [List.lookup_eq_none_iff]
  intro q hq
  rw [List.append_assoc, List.map_append, List.nodup_append] at h
  have hne := h.2.2 q.1 (List.mem_map_of_mem hq) p.1
    (List.mem_map_of_mem (List.mem_append_left rest List.mem_cons_self))
  exact bne_iff_ne.2 (Ne.symm hne)

/-- One turn of the loop over an object that closes it: the record is filled from the slots. -/
theorem readFieldsByName_close {fuel : Nat} {first : Bool} {given : List (String × Json)}
    {xs rest : List UInt8} {w : List (String × Json)} (hend : afterBlanks xs = 125 :: rest)
    (hfill : fillFields fields given = some w) :
    Yields (readFieldsByName path depth (fuel + 1) fields first (slotsOf fields given)) xs
      (.obj w) (125 :: rest) := by
  rw [readFieldsByName]
  refine ((nextKey_end hend).bind _).trans ?_
  dsimp only
  split
  · rename_i members hfilled
    have hm := (mapM_slots (by intro f v; rfl) (by intro f v hd; simp [hd])
      (by intro f hd; simp [hd]) fields members).1 hfilled
    rw [hfill, Option.some.injEq] at hm
    subst hm
    exact Runs.refl _ _
  · rename_i e hfilled
    have hm := ((mapM_slots (by intro f v; rfl) (by intro f v hd; simp [hd])
      (by intro f hd; simp [hd]) fields w).2 hfill).symm.trans hfilled
    cases hm

/-- One turn of the loop over an object that reads a declared field not read before. -/
theorem readFieldsByName_known {fuel i : Nat} {first : Bool} {slots : List (Option Json)}
    {xs ks ys zs : List UInt8} {k : String} {s : Shape} {d : Option Json} {v : Json}
    (hkey : Yields (nextKey first fuel) xs (some k) ks) (hcolon : afterBlanks ks = 58 :: ys)
    (hidx : fields.findIdx? (·.1 == k) = some i) (hfield : fields[i]? = some (k, s, d))
    (hslot : slots[i]? = some none)
    (hv : Yields (readAs (path ++ [.key k]) depth fuel s) ys v zs) :
    Runs (readFieldsByName path depth (fuel + 1) fields first slots) xs
      (readFieldsByName path depth fuel fields false (slots.set i (some v))) zs := by
  rw [readFieldsByName]
  refine (hkey.bind _).trans ?_
  dsimp only
  rw [hidx]
  dsimp only
  rw [hslot, hfield]
  dsimp only
  refine ((tracked_yields _ (?_ : Yields _ _ v zs)).bind _).trans (Runs.refl _ _)
  exact ((colon_after hcolon).bind _).trans hv

/-- One turn of the loop over an object that passes over a member the record does not
declare. -/
theorem readFieldsByName_other {fuel : Nat} {first : Bool} {slots : List (Option Json)}
    {xs ks ys zs : List UInt8} {k : String}
    (hkey : Yields (nextKey first fuel) xs (some k) ks) (hcolon : afterBlanks ks = 58 :: ys)
    (hidx : fields.findIdx? (·.1 == k) = none) (hskip : Yields (skipValue fuel) ys () zs) :
    Runs (readFieldsByName path depth (fuel + 1) fields first slots) xs
      (readFieldsByName path depth fuel fields false slots) zs := by
  rw [readFieldsByName]
  refine (hkey.bind _).trans ?_
  dsimp only
  rw [hidx]
  dsimp only
  refine ((tracked_yields _ (?_ : Yields _ _ () zs)).bind _).trans (Runs.refl _ _)
  exact ((colon_after hcolon).bind _).trans hskip

/-- A declared name is found at its place. -/
theorem findIdx?_of_mem (hnames : (fields.map (·.1)).Nodup) {f : String × Shape × Option Json}
    (hf : f ∈ fields) : ∃ i, fields.findIdx? (·.1 == f.1) = some i ∧ fields[i]? = some f := by
  obtain ⟨pre, post, rfl⟩ := List.append_of_mem hf
  exact ⟨pre.length, findIdx?_key pre post f hnames, by simp⟩

/-- A member standing where the next item does is what one turn of the loop over an object
reads, given that its name was not read before. -/
theorem FieldMember.runs_readFieldsByName (hnames : (fields.map (·.1)).Nodup)
    (hleaf : LeafFields fields) {fuel : Nat} {first : Bool} {given : List (String × Json)}
    {xs ws us : List UInt8} {m : Option (String × Json)} (hat : ItemAt first xs ws)
    (hm : FieldMember fields ws m us) (hnew : ∀ p ∈ m, given.lookup p.1 = none)
    (hf : 4 * xs.length + 2 ≤ fuel) :
    Runs (readFieldsByName path depth (fuel + 1) fields first (slotsOf fields given)) xs
      (readFieldsByName path depth fuel fields false (slotsOf fields (given ++ m.toList))) us := by
  have hat_len := hat.length_le
  rw [← hat.afterBlanks_eq] at hat
  cases hm with
  | @known _ zs ps k s d v hk hc hmem hv =>
    obtain ⟨ks, hws, hbody⟩ := hk
    rw [hws] at hat
    have hks := hbody.length_lt
    have hps := length_lt_of_afterBlanks hc
    have hws_len := length_afterBlanks_le ws
    rw [hws] at hws_len
    simp only [List.length_cons] at hws_len
    obtain ⟨i, hidx, hfield⟩ := findIdx?_of_mem hnames hmem
    have hnew' : given.lookup k = none := hnew (k, v) rfl
    have hslot : (slotsOf fields given)[i]? = some none := by
      rw [slotsOf_getElem?, hfield, Option.map_some, hnew']
    have hsp := ShapeSpec.leaf (hleaf _ hmem) depth
    refine (readFieldsByName_known (nextKey_start hat hbody (by omega)) hc hidx hfield hslot
      (hsp.complete (by omega) hv)).trans ?_
    rw [slotsOf_set hnew' hnames hfield]
    exact Runs.refl _ _
  | @other _ zs ps k hk hc hother hv =>
    obtain ⟨ks, hws, hbody⟩ := hk
    rw [hws] at hat
    have hks := hbody.length_lt
    have hps := length_lt_of_afterBlanks hc
    have hws_len := length_afterBlanks_le ws
    rw [hws] at hws_len
    simp only [List.length_cons] at hws_len
    have hidx : fields.findIdx? (·.1 == k) = none :=
      List.findIdx?_eq_none_iff.2 fun f hf => by simpa using hother f hf
    rw [Option.toList_none, List.append_nil]
    exact readFieldsByName_other (nextKey_start hat hbody (by omega)) hc hidx
      (hv.yields_skipValue (by omega))

/-- What the loop over an object gives is its members up to the closing brace, which it
leaves unread, with no declared name twice, and the record that they fill; the fuel runs four
times the length of the text ahead. -/
theorem Reader.Gives.readFieldsByName (hnames : (fields.map (·.1)).Nodup)
    (hleaf : LeafFields fields) :
    ∀ (fuel : Nat) {first : Bool} {given : List (String × Json)} {xs zs : List UInt8} {v : Json},
      (given.map (·.1)).Nodup → 4 * xs.length + 3 ≤ fuel →
      Gives (Reader.readFieldsByName path depth fuel fields first (slotsOf fields given)) xs v zs →
      ∃ ms ys w, ItemsText 125 (FieldMember fields) first xs ms ys ∧ zs = 125 :: ys ∧
        ((given ++ ms.filterMap id).map (·.1)).Nodup ∧
        fillFields fields (given ++ ms.filterMap id) = some w ∧ v = .obj w
  | 0, _, _, _, _, _, _, hf, _ => by omega
  | fuel + 1, first, given, xs, zs, v, hgiven, hf, h => by
    rcases Gives.fieldsTurn hnames hleaf (by omega) h with
      ⟨rest, w, hxs, rfl, hfill, rfl⟩ | ⟨ws, m, us, hat, hm, hnew, h⟩
    · exact ⟨[], rest, w, .close hxs, rfl, by simpa using hgiven, by simpa using hfill, rfl⟩
    · have hat_len := hat.length_le
      have hm_len := hm.length_lt
      obtain ⟨ms, ys, w, hitems, rfl, hnodup, hfill, rfl⟩ :=
        Gives.readFieldsByName hnames hleaf fuel (nodup_keys_append hgiven hnew) (by omega) h
      refine ⟨m :: ms, ys, w, ItemsText.of_itemAt FieldMember.of_afterBlanks hat hm hitems, rfl,
        ?_, ?_, rfl⟩
      · rwa [filterMap_id_append]
      · rwa [filterMap_id_append]

/-- The members of an object up to its closing brace, with no declared name twice and with
every field filled, are what the loop over it reads, given fuel four times the length of the
text ahead. -/
theorem ItemsText.yields_readFieldsByName (hnames : (fields.map (·.1)).Nodup)
    (hleaf : LeafFields fields) :
    ∀ {ms : List (Option (String × Json))} {start : Bool} {xs ys : List UInt8} (fuel : Nat)
      (given w : List (String × Json)), ItemsText 125 (FieldMember fields) start xs ms ys →
      ((given ++ ms.filterMap id).map (·.1)).Nodup →
      fillFields fields (given ++ ms.filterMap id) = some w → 4 * xs.length + 3 ≤ fuel →
      Yields (readFieldsByName path depth fuel fields start (slotsOf fields given)) xs (.obj w)
        (125 :: ys)
  | [], start, xs, ys, fuel, given, w, h, _, hfill, hf => by
    obtain ⟨f, rfl⟩ : ∃ f, fuel = f + 1 := ⟨fuel - 1, by omega⟩
    rw [List.filterMap_nil, List.append_nil] at hfill
    exact readFieldsByName_close h.nil_close hfill
  | m :: ms, start, xs, ys, fuel, given, w, h, hnodup, hfill, hf => by
    obtain ⟨f, rfl⟩ : ∃ f, fuel = f + 1 := ⟨fuel - 1, by omega⟩
    obtain ⟨ws, us, hat, hm, hs⟩ := h.cons_itemAt FieldMember.to_afterBlanks
    rw [filterMap_id_append] at hnodup hfill
    have hat_len := hat.length_le
    have hm_len := hm.length_lt
    exact (hm.runs_readFieldsByName hnames hleaf hat (lookup_eq_none_of_nodup hnodup)
      (by omega)).trans (ItemsText.yields_readFieldsByName hnames hleaf f _ w hs hnodup hfill
        (by omega))

end ByName

/-- A record of leaf fields, behind the blanks before it: an object whose members are declared
fields, none twice, and names the record does not declare, in any order, with defaults for the
fields left out; or a list of the fields' values in declared order, where fields with defaults
may be left off the end. -/
inductive RecordText (fields : List (String × Shape × Option Json)) :
    List UInt8 → Json → List UInt8 → Prop
  | object {xs zs ys : List UInt8} {ms : List (Option (String × Json))} {w : List (String × Json)}
      (h : afterBlanks xs = 123 :: zs) (hm : ItemsText 125 (FieldMember fields) true zs ms ys)
      (hnodup : ((ms.filterMap id).map (·.1)).Nodup)
      (hw : fillFields fields (ms.filterMap id) = some w) : RecordText fields xs (.obj w) ys
  | list {xs zs ws ys : List UInt8} {w : List (String × Json)}
      (h : afterBlanks xs = 91 :: zs) (hl : FieldItems fields true zs w ws)
      (hend : afterBlanks ws = 93 :: ys) : RecordText fields xs (.obj w) ys

theorem FieldItems.length_le {fields : List (String × Shape × Option Json)} {first : Bool}
    {xs ys : List UInt8} {ms : List (String × Json)} (h : FieldItems fields first xs ms ys) :
    ys.length ≤ xs.length := by
  induction h with
  | done => exact le_rfl
  | item hat hv _ ih => exact ih.trans ((hv.length_lt.trans_le hat.length_le).le)
  | default hend _ ih =>
    exact ih.trans (by rw [← hend]; exact length_afterBlanks_le _)

/-- The reader reads a record of leaf fields with distinct names, three at most, as
`RecordText` says, below the depth limit. -/
theorem ShapeSpec.record {depth : Nat} {name : String}
    {fields : List (String × Shape × Option Json)} (hd : 1 < depth)
    (hnames : (fields.map (·.1)).Nodup) (hleaf : LeafFields fields) (hlen : fields.length ≤ 3) :
    ShapeSpec depth (.record name fields) (RecordText fields) where
  sound := by
    intro path fuel xs ys w hf h
    obtain ⟨f, rfl⟩ : ∃ f, fuel = f + 1 := ⟨fuel - 1, by omega⟩
    rw [readAs] at h
    replace h := Gives.skipBlank_bind (Gives.tracked h)
    cases hzs : afterBlanks xs with
    | nil =>
      rw [hzs] at h
      exact (Refuses.failAhead _).not_gives h |>.elim
    | cons b rest =>
      rw [hzs, List.head?_cons] at h
      have hrest := length_lt_of_afterBlanks hzs
      split at h
      · rename_i heq
        cases heq
      · -- a list of the fields' values
        rename_i heq
        cases Option.some.inj heq
        obtain ⟨u, zs, henter, hin⟩ := Gives.bind h
        obtain ⟨-, rfl⟩ := Gives.enter henter
        obtain ⟨r, zs', hr, hin⟩ := Gives.bind hin
        obtain ⟨e, zs'', he, hin⟩ := Gives.bind hin
        obtain ⟨hfirst, rfl⟩ := Gives.placed hin
        obtain ⟨rfl, rfl⟩ := firstOf_eq_ok hfirst
        obtain ⟨ms, hms, rfl⟩ :=
          Gives.readFieldsInOrder f hleaf (by omega) (Gives.attempt_ok hr)
        exact .list hzs (by simpa using hms) (Gives.endList (Gives.attempt_ok he))
      · -- an object of members
        rename_i heq
        cases Option.some.inj heq
        obtain ⟨u, zs, henter, hin⟩ := Gives.bind h
        obtain ⟨-, rfl⟩ := Gives.enter henter
        obtain ⟨r, zs', hr, hin⟩ := Gives.bind hin
        obtain ⟨e, zs'', he, hin⟩ := Gives.bind hin
        obtain ⟨hfirst, rfl⟩ := Gives.placed hin
        obtain ⟨rfl, rfl⟩ := firstOf_eq_ok hfirst
        rw [← slotsOf_nil] at hr
        obtain ⟨ms, ys', w, hitems, rfl, hnodup, hfill, rfl⟩ :=
          Gives.readFieldsByName hnames hleaf f (by simp) (by omega) (Gives.attempt_ok hr)
        have hend := Gives.endObject (Gives.attempt_ok he)
        rw [afterBlanks_cons (by decide)] at hend
        cases List.cons.inj hend |>.2
        exact .object hzs hitems (by simpa using hnodup) (by simpa using hfill)
      · exact (refuseKind_refuses _ _).not_gives h |>.elim
  complete := by
    intro path fuel xs ys w hf h
    obtain ⟨f, rfl⟩ : ∃ f, fuel = f + 1 := ⟨fuel - 1, by omega⟩
    rw [readAs]
    refine tracked_yields path ((skipBlank_bind_after _ xs).trans ?_)
    cases h with
    | object hzs hm hnodup hw =>
      have hrest := length_lt_of_afterBlanks hzs
      rw [hzs, List.head?_cons]
      simp only
      refine ((enter_yields hd _ _).bind _).trans ?_
      have hread : Yields (readFieldsByName path (depth - 1) f fields true (slotsOf fields []))
          _ (.obj _) _ := ItemsText.yields_readFieldsByName hnames hleaf f [] _ hm
        (by simpa using hnodup) (by simpa using hw) (by omega)
      rw [slotsOf_nil] at hread
      refine ((attempt_yields hread).bind _).trans ?_
      exact ((attempt_yields (endObject_after (afterBlanks_cons (by decide) _))).bind _).trans
        (Runs.refl _ _)
    | list hzs hl hend =>
      have hrest := length_lt_of_afterBlanks hzs
      rw [hzs, List.head?_cons]
      simp only
      refine ((enter_yields hd _ _).bind _).trans ?_
      have hread : Yields (readFieldsInOrder path (depth - 1) f name fields fields true 0 [])
          _ (.obj ([].reverse ++ _)) _ := hl.yields_readFieldsInOrder hleaf f 0 [] (by omega)
      rw [List.reverse_nil, List.nil_append] at hread
      refine ((attempt_yields hread).bind _).trans ?_
      exact ((attempt_yields (endList_after hend)).bind _).trans (Runs.refl _ _)
  blanks := by
    intro xs ys w
    constructor
    · intro h
      cases h with
      | object h hm hnodup hw => exact .object (by rwa [afterBlanks_afterBlanks] at h) hm hnodup hw
      | list h hl hend => exact .list (by rwa [afterBlanks_afterBlanks] at h) hl hend
    · intro h
      cases h with
      | object h hm hnodup hw => exact .object (by rwa [afterBlanks_afterBlanks]) hm hnodup hw
      | list h hl hend => exact .list (by rwa [afterBlanks_afterBlanks]) hl hend
  length_lt := by
    intro xs ys w h
    cases h with
    | object h hm _ _ =>
      exact (hm.length_lt FieldMember.length_lt).trans (length_lt_of_afterBlanks h)
    | list h hl hend =>
      exact (length_lt_of_afterBlanks hend).trans_le
        (hl.length_le.trans (length_lt_of_afterBlanks h).le)
  head := by
    intro xs ys w h
    cases h with
    | object h _ _ _ => exact ⟨123, _, h, by decide⟩
    | list h _ _ => exact ⟨91, _, h, by decide⟩

/-! ## The values records are read to -/

/-- The values a leaf shape reads to: strings for a text, integers of the 64-bit range for an
integer. -/
def LeafResult : Shape → Json → Prop
  | .text, .str _ => True
  | .int64, .int n => int64Min ≤ n ∧ n ≤ int64Max
  | _, _ => False

/-- The fields of a record in declared order, each with a value its shape reads to or with its
default. -/
inductive FieldValues : List (String × Shape × Option Json) → List (String × Json) → Prop
  | nil : FieldValues [] []
  | cons {k : String} {s : Shape} {d : Option Json} {v : Json}
      {fields : List (String × Shape × Option Json)} {ms : List (String × Json)}
      (hv : LeafResult s v ∨ d = some v) (hs : FieldValues fields ms) :
      FieldValues ((k, s, d) :: fields) ((k, v) :: ms)

theorem LeafValue.result {s : Shape} {xs ys : List UInt8} {v : Json} (h : LeafValue s xs v ys) :
    LeafResult s v := by
  cases s with
  | text =>
    obtain ⟨t, rfl, -⟩ := h
    trivial
  | int64 =>
    obtain ⟨n, rfl, hn⟩ := h
    exact ⟨hn.2.2.1, hn.2.2.2⟩
  | _ => exact h.elim

/-- Fields with distinct names are told apart by their names. -/
theorem eq_of_name_eq {fields : List (String × Shape × Option Json)}
    (hnames : (fields.map (·.1)).Nodup) {f g : String × Shape × Option Json} (hf : f ∈ fields)
    (hg : g ∈ fields) (h : f.1 = g.1) : f = g := by
  induction fields with
  | nil => cases hf
  | cons a fields ih =>
    rw [List.map_cons, List.nodup_cons] at hnames
    rcases List.mem_cons.1 hf with rfl | hf' <;> rcases List.mem_cons.1 hg with rfl | hg'
    · rfl
    · exact absurd (h ▸ List.mem_map_of_mem hg') hnames.1
    · exact absurd (h.symm ▸ List.mem_map_of_mem hf') hnames.1
    · exact ih hnames.2 hf' hg'

theorem FieldItems.values {fields : List (String × Shape × Option Json)} {first : Bool}
    {xs ys : List UInt8} {ms : List (String × Json)} (h : FieldItems fields first xs ms ys) :
    FieldValues fields ms := by
  induction h with
  | done => exact .nil
  | item _ hv _ ih => exact .cons (.inl hv.result) ih
  | default _ _ ih => exact .cons (.inr rfl) ih

/-- The members read of an object give each declared field a value its shape reads to. -/
theorem ItemsText.members_result {fields : List (String × Shape × Option Json)}
    (hnames : (fields.map (·.1)).Nodup) {first : Bool} {xs ys : List UInt8}
    {ms : List (Option (String × Json))} (h : ItemsText 125 (FieldMember fields) first xs ms ys) :
    ∀ p ∈ ms.filterMap id, ∀ f ∈ fields, f.1 = p.1 → LeafResult f.2.1 p.2 := by
  -- a member's value fits the shape of the field it names, which is the only one of that name
  have hmember : ∀ {xs ys : List UInt8} {m : Option (String × Json)},
      FieldMember fields xs m ys → ∀ p ∈ m, ∀ f ∈ fields, f.1 = p.1 → LeafResult f.2.1 p.2 := by
    intro xs ys m hm p hp f hf hfp
    cases hm with
    | known hk hc hmem hv =>
      rw [Option.mem_def, Option.some.injEq] at hp
      subst hp
      rw [eq_of_name_eq hnames hf hmem hfp]
      exact hv.result
    | other => cases hp
  induction h with
  | close => intro p hp; cases hp
  | first ha _ ih | next _ ha _ ih =>
    intro p hp
    rw [List.filterMap_cons] at hp
    split at hp
    · exact ih p hp
    · rename_i q hq
      rcases List.mem_cons.1 hp with rfl | hp
      · exact hmember ha p (by simpa using hq)
      · exact ih p hp

/-- A record filled from values that fit their fields has each field with such a value or with
its default. -/
theorem fillFields_values {given : List (String × Json)} :
    ∀ {fields : List (String × Shape × Option Json)} {w : List (String × Json)},
      (∀ p ∈ given, ∀ f ∈ fields, f.1 = p.1 → LeafResult f.2.1 p.2) →
      fillFields fields given = some w → FieldValues fields w
  | [], w, _, h => by
    cases h
    exact .nil
  | (k, s, d) :: fields, w, hgiven, h => by
    rw [fillFields_cons] at h
    cases hv : (given.lookup k).or d with
    | none =>
      rw [hv] at h
      cases h
    | some v =>
      cases hrest : fillFields fields given with
      | none =>
        rw [hv, hrest] at h
        cases h
      | some ws =>
        rw [hv, hrest] at h
        cases h
        refine .cons ?_ (fillFields_values
          (fun p hp f hf => hgiven p hp f (List.mem_cons_of_mem _ hf)) hrest)
        -- the value is the one given, which fits the field, or else the default
        cases hl : given.lookup k with
        | none =>
          rw [hl] at hv
          exact .inr hv
        | some v' =>
          rw [hl] at hv
          cases hv
          obtain ⟨l₁, l₂, hsplit, -⟩ := List.lookup_eq_some_iff.1 hl
          exact .inl (hgiven (k, v) (by simp [hsplit]) (k, s, d) List.mem_cons_self rfl)

/-- A record of leaf fields with distinct names is read to its fields in declared order, each
with a value its shape reads to or with its default. -/
theorem RecordText.values {fields : List (String × Shape × Option Json)}
    (hnames : (fields.map (·.1)).Nodup) {xs ys : List UInt8} {w : Json}
    (h : RecordText fields xs w ys) : ∃ ms, w = .obj ms ∧ FieldValues fields ms := by
  cases h with
  | object _ hm _ hw => exact ⟨_, rfl, fillFields_values (hm.members_result hnames) hw⟩
  | list _ hl _ => exact ⟨_, rfl, hl.values⟩

/-! ## Whole texts -/

/-- **A whole text is read against a shape as its grammar says.** The text holds a value of the
shape, then nothing but blanks; below the reader's depth limit of 128. -/
theorem ShapeSpec.read_eq_ok {s : Shape} {E : List UInt8 → Json → List UInt8 → Prop}
    (hS : ShapeSpec 128 s E) (text : String) (w : Json) :
    s.read text = .ok w ↔ ∃ ys, E (utf8 text) w ys ∧ afterBlanks ys = [] := by
  unfold Shape.read
  dsimp only
  rw [toUTF8_toList]
  constructor
  · intro h
    obtain ⟨zs, hg⟩ := Gives.of_run h
    obtain ⟨v, ys, hv, hk⟩ := Gives.bind hg
    have hE := hS.sound (by omega) hv
    replace hk := Gives.skipBlank_bind hk
    cases hys : afterBlanks ys with
    | nil =>
      rw [hys] at hk
      obtain ⟨rfl, -⟩ := Gives.pure hk
      exact ⟨ys, hE, hys⟩
    | cons b rest =>
      rw [hys] at hk
      exact (Refuses.failAhead _).not_gives hk |>.elim
  · rintro ⟨ys, hE, hys⟩
    apply Yields.run
    refine ((hS.complete (by omega) hE).bind _).trans ((skipBlank_bind_after _ ys).trans ?_)
    rw [hys]
    exact Runs.refl _ _

end Tintbook.Json
