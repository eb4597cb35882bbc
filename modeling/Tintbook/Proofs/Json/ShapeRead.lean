import Tintbook.Proofs.Json.ReadBack
/-!
# Reading a compact text against a shape

The shapes that forms are read against take back what the writer writes. A string is read
as a text shape, an integer of the 64-bit signed range as an `int64` shape, a list of values
that each shape takes back as a list shape, an object whose members are a record's fields in
declared order, each taken back by its field's shape, as that record, and a value read as
anything as a choice that it fits as it is (`readsAs_text`, `readsAs_int64`, `readsAs_list`,
`readsAs_record`, `readsAs_choice`); a whole text is then read as the value
(`Shape.read_compact`).

A record written as an object is read member by member into slots, one for each declared
field. With the fields of `pre` read and those of `post` not yet, the slots hold the values
of `pre` and nothing for `post` (`readSlots`); a name declared once is found at its place
(`findIdx?_key`), so each member fills the next slot, and at the closing brace every slot
holds a value and the record is its fields in order.

## What this module delivers

- `Reader.ReadsAs`: the reader takes a document back against a shape.
- One lemma for each shape, and the loops of lists and records.
- `Shape.read_compact`: a document read back against a shape is the value of its text.
-/

set_option autoImplicit false

namespace Tintbook.Json

namespace Reader

/-- The reader at `depth` reads the compact text of `j` against the shape `s` as `w`, whatever
follows it that ends a number. -/
def ReadsAs (depth : Nat) (s : Shape) (j w : Json) : Prop :=
  ∀ (path : List Step) (fuel : Nat) (rest : List UInt8), (utf8 (compact j)).length + 1 < fuel →
    EndsNumber rest → Yields (readAs path depth fuel s) (utf8 (compact j) ++ rest) w rest

/-! ## Leaves -/

theorem readsAs_text (depth : Nat) (s : String) : ReadsAs depth .text (.str s) (.str s) := by
  intro path fuel rest hfuel _
  obtain ⟨f, rfl⟩ : ∃ f, fuel = f + 1 := ⟨fuel - 1, by omega⟩
  have hbytes : utf8 (compact (.str s)) = 34 :: literalBytes s.toList ++ [34] := utf8_quote s
  rw [hbytes] at hfuel ⊢
  rw [readAs]
  refine tracked_yields path ?_
  unfold readText
  refine (skipBlank_bind _ _ (by decide)).trans ?_
  refine (eat_bind _ _ _).trans ?_
  simp only [List.append_eq, List.append_assoc, List.singleton_append]
  exact ((readString_literal s rest (by simp at hfuel; omega)).bind _).trans (Runs.refl _ _)

/-- An integer of the 64-bit signed range is one that the reader keeps as an integer. -/
theorem plain_int64 {n : Int} (hlow : int64Min ≤ n) (hhigh : n ≤ int64Max) : Plain (.int n) := by
  have hmin : int64Min = -((Nat.pow 2 63 : Nat) : Int) := rfl
  have hmax : int64Max ≤ (natMax : Int) := by decide
  exact .int (by omega) (by omega)

theorem readsAs_int64 (depth : Nat) {n : Int} (hlow : int64Min ≤ n) (hhigh : n ≤ int64Max) :
    ReadsAs depth .int64 (.int n) (.int n) := by
  intro path fuel rest hfuel hend
  obtain ⟨f, rfl⟩ : ∃ f, fuel = f + 1 := ⟨fuel - 1, by omega⟩
  have hbytes : utf8 (compact (.int n)) = utf8 (showInt n) := rfl
  have hmin : int64Min = -((Nat.pow 2 63 : Nat) : Int) := rfl
  have hmax : int64Max ≤ (natMax : Int) := by decide
  rw [hbytes] at hfuel ⊢
  rw [readAs]
  refine tracked_yields path ?_
  unfold readInt64
  by_cases hneg : n < 0
  · -- a minus sign, then the digits of the size
    obtain ⟨ds, hds, hsigned⟩ := showInt_neg_yields hneg (by omega) f (by omega) hend
    rw [hds, List.cons_append]
    refine (skipBlank_bind _ _ (by decide)).trans ?_
    refine (eat_bind _ _ _).trans ((hsigned.bind _).trans (Runs.refl _ _))
  · -- the digits of the number
    obtain ⟨b, bs, hbs, hdigit, hunsigned⟩ :=
      showInt_nonneg_yields (n := n) (by omega) (by omega) f (by omega) hend
    rw [hbs] at hunsigned ⊢
    refine (skipBlank_bind _ _ (isBlankByte_of_isDigit hdigit)).trans ?_
    split <;> rename_i heq
    · cases heq
    · cases Option.some.inj heq
      exact absurd hdigit (by decide)
    · cases Option.some.inj heq
      rw [if_pos hdigit]
      refine (hunsigned.bind _).trans ?_
      unfold asInt64
      dsimp only
      rw [if_pos (by omega), show ((n.natAbs : Nat) : Int) = n by omega]
      exact Runs.refl _ _

/-! ## Lists -/

/-- One turn of the item loop: the next item is there, and is read against the shape. -/
theorem readItemsAs_step {path : List Step} {depth fuel i : Nat} {s : Shape} {first : Bool}
    {acc : List Json} {xs ys zs : List UInt8} {b : UInt8} {x : Json}
    (hnext : Yields (nextItem first) xs (some b) ys)
    (hx : Yields (readAs (path ++ [.index i]) depth fuel s) ys x zs) :
    Runs (readItemsAs path depth (fuel + 1) s first i acc) xs
      (readItemsAs path depth fuel s false (i + 1) (x :: acc)) zs := by
  rw [readItemsAs]
  refine ((tracked_yields _ (?_ : Yields _ _ (some x) zs)).bind _).trans (Runs.refl _ _)
  exact (hnext.bind _).trans ((hx.bind _).trans (Runs.refl _ _))

/-- The last turn of the item loop: the list closes on the items read. -/
theorem readItemsAs_stop {path : List Step} {depth fuel i : Nat} {s : Shape} {first : Bool}
    {acc : List Json} {xs ys : List UInt8} (hnext : Yields (nextItem first) xs none ys) :
    Yields (readItemsAs path depth (fuel + 1) s first i acc) xs (.arr acc.reverse) ys := by
  rw [readItemsAs]
  refine ((tracked_yields _ (?_ : Yields _ _ none ys)).bind _).trans (Runs.refl _ _)
  exact (hnext.bind _).trans (Runs.refl _ _)

/-- Items after the first, each behind its comma, are read against the shape onto the items
read so far. Each pair is an item as written and the value it is read as. -/
theorem readItemsAs_after {depth : Nat} {s : Shape} (path : List Step)
    (pairs : List (Json × Json)) (hread : ∀ p ∈ pairs, ReadsAs depth s p.1 p.2)
    (hplain : ∀ p ∈ pairs, Plain p.1) :
    ∀ (fuel i : Nat) (acc : List Json) (rest : List UInt8),
      (itemsAfter (pairs.map (·.1))).length + 1 < fuel →
      Yields (readItemsAs path depth fuel s false i acc)
        (itemsAfter (pairs.map (·.1)) ++ 93 :: rest)
        (.arr (acc.reverse ++ pairs.map (·.2))) (93 :: rest) := by
  induction pairs with
  | nil =>
    intro fuel i acc rest hfuel
    obtain ⟨n, rfl⟩ : ∃ n, fuel = n + 1 := ⟨fuel - 1, by omega⟩
    simp only [List.map_nil, List.append_nil]
    exact readItemsAs_stop (nextItem_close false rest)
  | cons p pairs ih =>
    intro fuel i acc rest hfuel
    obtain ⟨n, rfl⟩ : ∃ n, fuel = n + 1 := ⟨fuel - 1, by omega⟩
    rw [List.map_cons, length_itemsAfter_cons] at hfuel
    have hpos := length_compact_pos (hplain p List.mem_cons_self)
    obtain ⟨b, hnext⟩ :=
      nextItem_itemsAfter (hplain p List.mem_cons_self) (pairs.map (·.1)) (93 :: rest)
    have hx := hread p List.mem_cons_self (path ++ [.index i]) n
      (itemsAfter (pairs.map (·.1)) ++ 93 :: rest) (by omega) (endsNumber_itemsAfter _ rest)
    rw [List.map_cons, List.map_cons]
    refine (readItemsAs_step hnext hx).trans ?_
    have hrest := ih (fun q hq => hread q (List.mem_cons_of_mem p hq))
      (fun q hq => hplain q (List.mem_cons_of_mem p hq)) n (i + 1) (p.2 :: acc) rest (by omega)
    rw [List.reverse_cons, List.append_assoc, List.singleton_append] at hrest
    exact hrest

/-- All the items of a list read against the shape, after its opening bracket. -/
theorem readItemsAs_all {depth : Nat} {s : Shape} (path : List Step)
    (pairs : List (Json × Json)) (hread : ∀ p ∈ pairs, ReadsAs depth s p.1 p.2)
    (hplain : ∀ p ∈ pairs, Plain p.1) (fuel : Nat) (rest : List UInt8)
    (hfuel : (utf8 (compactItems (pairs.map (·.1)))).length + 2 < fuel) :
    Yields (readItemsAs path depth fuel s true 0 [])
      (utf8 (compactItems (pairs.map (·.1))) ++ 93 :: rest) (.arr (pairs.map (·.2)))
      (93 :: rest) := by
  obtain ⟨n, rfl⟩ : ∃ n, fuel = n + 1 := ⟨fuel - 1, by omega⟩
  cases pairs with
  | nil => exact readItemsAs_stop (nextItem_close true rest)
  | cons p pairs =>
    simp only [List.map_cons] at hfuel ⊢
    rw [utf8_compactItems_cons, List.length_append] at hfuel
    have hpos := length_compact_pos (hplain p List.mem_cons_self)
    obtain ⟨b, hnext⟩ :=
      nextItem_compactItems (hplain p List.mem_cons_self) (pairs.map (·.1)) (93 :: rest)
    have hx := hread p List.mem_cons_self (path ++ [.index 0]) n
      (itemsAfter (pairs.map (·.1)) ++ 93 :: rest) (by omega) (endsNumber_itemsAfter _ rest)
    refine (readItemsAs_step hnext hx).trans ?_
    exact readItemsAs_after path pairs (fun q hq => hread q (List.mem_cons_of_mem p hq))
      (fun q hq => hplain q (List.mem_cons_of_mem p hq)) n 1 [p.2] rest (by omega)

/-- A list is read item by item against the inner shape. -/
theorem readsAs_list {depth : Nat} {s : Shape} (pairs : List (Json × Json)) (hdepth : 1 < depth)
    (hread : ∀ p ∈ pairs, ReadsAs (depth - 1) s p.1 p.2) (hplain : ∀ p ∈ pairs, Plain p.1) :
    ReadsAs depth (.list s) (.arr (pairs.map (·.1))) (.arr (pairs.map (·.2))) := by
  intro path fuel rest hfuel _
  obtain ⟨n, rfl⟩ : ∃ n, fuel = n + 1 := ⟨fuel - 1, by omega⟩
  rw [utf8_compact_arr] at hfuel ⊢
  rw [readAs]
  refine tracked_yields path ((skipBlank_bind _ _ (by decide)).trans ?_)
  refine ((enter_yields hdepth _ _).bind _).trans ?_
  simp only [List.append_eq, List.append_assoc, List.singleton_append]
  have hitems := readItemsAs_all path pairs hread hplain n rest (by simp at hfuel; omega)
  refine ((attempt_yields hitems).bind _).trans ?_
  exact ((attempt_yields (endList_yields rest)).bind _).trans (Runs.refl _ _)

/-! ## Records written as objects -/

/-- A name that a record declares once is found at its place. -/
theorem findIdx?_key (pre post : List (String × Shape × Option Json))
    (f : String × Shape × Option Json) (hkeys : ((pre ++ f :: post).map (·.1)).Nodup) :
    (pre ++ f :: post).findIdx? (·.1 == f.1) = some pre.length := by
  induction pre with
  | nil => simp [List.findIdx?_cons]
  | cons g pre ih =>
    rw [List.cons_append, List.map_cons, List.nodup_cons] at hkeys
    have hne : g.1 ≠ f.1 := fun h => hkeys.1 (by simp [h])
    rw [List.cons_append, List.findIdx?_cons, ih hkeys.2]
    simp [hne]

/-- What the slots of a record hold when the fields of `pre` have been read and those of
`post` not yet. -/
def readSlots (pre post : List ((String × Shape × Option Json) × Json)) : List (Option Json) :=
  pre.map (fun e => some e.2) ++ post.map fun _ => none

theorem readSlots_getElem? (pre post : List ((String × Shape × Option Json) × Json))
    (e : (String × Shape × Option Json) × Json) :
    (readSlots pre (e :: post))[pre.length]? = some none := by
  simp [readSlots]

theorem readSlots_set (pre post : List ((String × Shape × Option Json) × Json))
    (e : (String × Shape × Option Json) × Json) :
    (readSlots pre (e :: post)).set pre.length (some e.2) = readSlots (pre ++ [e]) post := by
  simp [readSlots, List.set_append_right]

/-- One turn of the field loop: the next name is a declared field not read yet, and its
value is read against the field's shape. -/
theorem readFieldsByName_step {path : List Step} {depth fuel i : Nat}
    {fields : List (String × Shape × Option Json)} {first : Bool} {slots : List (Option Json)}
    {xs ys zs : List UInt8} {k : String} {s : Shape} {d : Option Json} {v : Json}
    (hkey : Yields (nextKey first fuel) xs (some k) (58 :: ys))
    (hidx : fields.findIdx? (·.1 == k) = some i) (hfield : fields[i]? = some (k, s, d))
    (hslot : slots[i]? = some none)
    (hv : Yields (readAs (path ++ [.key k]) depth fuel s) ys v zs) :
    Runs (readFieldsByName path depth (fuel + 1) fields first slots) xs
      (readFieldsByName path depth fuel fields false (slots.set i (some v))) zs := by
  rw [readFieldsByName]
  refine (hkey.bind _).trans ?_
  dsimp only
  rw [hidx]
  dsimp only
  rw [hslot, hfield]
  dsimp only
  refine ((tracked_yields _ (?_ : Yields _ _ v zs)).bind _).trans (Runs.refl _ _)
  exact ((colon_yields ys).bind _).trans hv

/-- Slots that all hold a value fill the record with them, whatever is done with empty
slots. -/
theorem mapM_filled
    {F : (String × Shape × Option Json) × Option Json → Except String (String × Json)}
    (hF : ∀ f v, F (f, some v) = .ok (f.1, v))
    (entries : List ((String × Shape × Option Json) × Json)) :
    ((entries.map (·.1)).zip (entries.map fun e => some e.2)).mapM F =
      .ok (entries.map fun e => (e.1.1, e.2)) := by
  induction entries with
  | nil => rfl
  | cons e entries ih =>
    simp only [List.map_cons, List.zip_cons_cons, List.mapM_cons, hF, ih]
    rfl

/-- The last turn of the field loop: the object closes with every field read, and the record
is its fields with their values, in declared order. -/
theorem readFieldsByName_stop {path : List Step} {depth fuel : Nat} {first : Bool}
    {xs ys : List UInt8} (entries : List ((String × Shape × Option Json) × Json))
    (hkey : Yields (nextKey first fuel) xs none ys) :
    Yields (readFieldsByName path depth (fuel + 1) (entries.map (·.1)) first
      (entries.map fun e => some e.2)) xs (.obj (entries.map fun e => (e.1.1, e.2))) ys := by
  rw [readFieldsByName]
  refine (hkey.bind _).trans ?_
  dsimp only
  rw [mapM_filled (fun f v => rfl) entries]
  exact Runs.refl _ _

/-- Fields after the first, each behind its comma, are read into their slots. The loop runs
over the fields not yet read, with those read before them generalized. -/
theorem readFieldsByName_after {depth : Nat} (path : List Step)
    (post : List ((String × Shape × Option Json) × Json))
    (hread : ∀ e ∈ post, ReadsAs depth e.1.2.1 e.2 e.2) :
    ∀ (pre : List ((String × Shape × Option Json) × Json)) (fuel : Nat) (rest : List UInt8),
      ((pre ++ post).map (·.1.1)).Nodup →
      (membersAfter (post.map fun e => (e.1.1, e.2))).length + 1 < fuel →
      Yields (readFieldsByName path depth fuel ((pre ++ post).map (·.1)) false (readSlots pre post))
        (membersAfter (post.map fun e => (e.1.1, e.2)) ++ 125 :: rest)
        (.obj ((pre ++ post).map fun e => (e.1.1, e.2))) (125 :: rest) := by
  induction post with
  | nil =>
    intro pre fuel rest _ hfuel
    obtain ⟨f, rfl⟩ : ∃ f, fuel = f + 1 := ⟨fuel - 1, by omega⟩
    have hslots : readSlots pre [] = pre.map fun e => some e.2 := by simp [readSlots]
    rw [hslots, List.append_nil]
    exact readFieldsByName_stop pre (nextKey_close false f rest)
  | cons e post ih =>
    intro pre fuel rest hkeys hfuel
    obtain ⟨f, rfl⟩ : ∃ f, fuel = f + 1 := ⟨fuel - 1, by omega⟩
    simp only [List.map_cons, length_membersAfter_cons] at hfuel
    -- the next name is the first field of `post`, declared once, so it finds its own slot
    have hfields : (pre ++ e :: post).map (·.1) = pre.map (·.1) ++ e.1 :: post.map (·.1) := by
      simp
    have hidx := findIdx?_key (pre.map (·.1)) (post.map (·.1)) e.1
      (by rw [← hfields, List.map_map]; exact hkeys)
    rw [← hfields, List.length_map] at hidx
    have hfield : ((pre ++ e :: post).map (·.1))[pre.length]? = some e.1 := by
      simp
    have hv := hread e List.mem_cons_self (path ++ [.key e.1.1]) f
      (membersAfter (post.map fun e => (e.1.1, e.2)) ++ 125 :: rest) (by omega)
      (endsNumber_membersAfter _ rest)
    rw [List.map_cons]
    refine (readFieldsByName_step (nextKey_membersAfter (e.1.1, e.2) _
      (by dsimp only; omega) _) hidx hfield (readSlots_getElem? pre post e) hv).trans ?_
    rw [readSlots_set]
    have hrest := ih (fun e' he' => hread e' (List.mem_cons_of_mem e he')) (pre ++ [e]) f rest
      (by simpa using hkeys) (by omega)
    rw [List.append_assoc, List.singleton_append] at hrest
    exact hrest

/-- All the fields of a record written as an object, in declared order, after its opening
brace. -/
theorem readFieldsByName_all {depth : Nat} (path : List Step)
    (entries : List ((String × Shape × Option Json) × Json))
    (hkeys : (entries.map (·.1.1)).Nodup) (hread : ∀ e ∈ entries, ReadsAs depth e.1.2.1 e.2 e.2)
    (fuel : Nat) (rest : List UInt8)
    (hfuel : (utf8 (compactMembers (entries.map fun e => (e.1.1, e.2)))).length + 2 < fuel) :
    Yields (readFieldsByName path depth fuel (entries.map (·.1)) true
        ((entries.map (·.1)).map fun _ => none))
      (utf8 (compactMembers (entries.map fun e => (e.1.1, e.2))) ++ 125 :: rest)
      (.obj (entries.map fun e => (e.1.1, e.2))) (125 :: rest) := by
  obtain ⟨f, rfl⟩ : ∃ f, fuel = f + 1 := ⟨fuel - 1, by omega⟩
  cases entries with
  | nil => exact readFieldsByName_stop [] (nextKey_close true f rest)
  | cons e post =>
    have hslots : ((e :: post).map (·.1)).map (fun _ => none) = readSlots [] (e :: post) := by
      rw [readSlots, List.map_nil, List.nil_append, List.map_map]
      rfl
    rw [hslots]
    simp only [List.map_cons] at hfuel ⊢
    simp only [utf8_compactMembers_cons, memberBytes, List.length_append, List.length_cons]
      at hfuel
    have hidx := findIdx?_key (([] : List ((String × Shape × Option Json) × Json)).map (·.1))
      (post.map (·.1)) e.1
      (by rw [List.map_nil, List.nil_append, List.map_cons, List.map_map]; exact hkeys)
    rw [List.length_map] at hidx
    have hv := hread e List.mem_cons_self (path ++ [.key e.1.1]) f
      (membersAfter (post.map fun e => (e.1.1, e.2)) ++ 125 :: rest) (by omega)
      (endsNumber_membersAfter _ rest)
    refine (readFieldsByName_step (nextKey_compactMembers (e.1.1, e.2) _
      (by dsimp only; omega) _) hidx rfl (readSlots_getElem? [] post e) hv).trans ?_
    rw [readSlots_set]
    exact readFieldsByName_after path post (fun e' he' => hread e' (List.mem_cons_of_mem e he'))
      [e] f rest hkeys (by omega)

theorem readsAs_record {depth : Nat} (name : String)
    (entries : List ((String × Shape × Option Json) × Json)) (hdepth : 1 < depth)
    (hkeys : (entries.map (·.1.1)).Nodup)
    (hread : ∀ e ∈ entries, ReadsAs (depth - 1) e.1.2.1 e.2 e.2) :
    ReadsAs depth (.record name (entries.map (·.1))) (.obj (entries.map fun e => (e.1.1, e.2)))
      (.obj (entries.map fun e => (e.1.1, e.2))) := by
  intro path fuel rest hfuel _
  obtain ⟨f, rfl⟩ : ∃ f, fuel = f + 1 := ⟨fuel - 1, by omega⟩
  rw [utf8_compact_obj] at hfuel ⊢
  rw [readAs]
  refine tracked_yields path ((skipBlank_bind _ _ (by decide)).trans ?_)
  refine ((enter_yields hdepth _ _).bind _).trans ?_
  simp only [List.append_eq, List.append_assoc, List.singleton_append]
  have hfields := readFieldsByName_all path entries hkeys hread f rest (by simp at hfuel; omega)
  refine ((attempt_yields hfields).bind _).trans ?_
  exact ((attempt_yields (endObject_yields rest)).bind _).trans (Runs.refl _ _)

/-! ## Records written as lists -/

/-- One turn of the loop over a record written as a list: the next item is there, and is read
against the next field's shape. -/
theorem readFieldsInOrder_step {path : List Step} {depth fuel i : Nat} {name : String}
    {all fields : List (String × Shape × Option Json)} {k : String} {s : Shape}
    {d : Option Json} {first : Bool} {acc : List (String × Json)} {xs ys zs : List UInt8}
    {b : UInt8} {v : Json} (hnext : Yields (nextItem first) xs (some b) ys)
    (hv : Yields (readAs (path ++ [.index i]) depth fuel s) ys v zs) :
    Runs (readFieldsInOrder path depth (fuel + 1) name all ((k, s, d) :: fields) first i acc) xs
      (readFieldsInOrder path depth fuel name all fields false (i + 1) ((k, v) :: acc)) zs := by
  -- the default of the field matters only when the list has closed
  cases d <;>
  · rw [readFieldsInOrder]
    refine ((tracked_yields _ (?_ : Yields _ _ (some v) zs)).bind _).trans (Runs.refl _ _)
    exact (hnext.bind _).trans ((hv.bind _).trans (Runs.refl _ _))

/-- With every field read, the record is complete, and what follows is left to close the
list. -/
theorem readFieldsInOrder_stop {path : List Step} {depth fuel i : Nat} {name : String}
    {all : List (String × Shape × Option Json)} {first : Bool} {acc : List (String × Json)}
    (xs : List UInt8) :
    Yields (readFieldsInOrder path depth (fuel + 1) name all [] first i acc) xs
      (.obj acc.reverse) xs := by
  rw [readFieldsInOrder.eq_2 path depth (fuel + 1) name all first i acc (Nat.succ_ne_zero fuel)]
  exact Runs.refl _ _

/-- A choice reads the value as anything and gives what the first alternative it fits makes
of it. -/
theorem readsAs_choice {depth : Nat} {name : String} {alts : List Shape} {j w : Json}
    (hread : ReadsBack depth j) (hconform : (Shape.choice name alts).conform j = some w) :
    ReadsAs depth (.choice name alts) j w := by
  intro path fuel rest hfuel hend
  obtain ⟨f, rfl⟩ : ∃ f, fuel = f + 1 := ⟨fuel - 1, by omega⟩
  rw [readAs]
  refine tracked_yields path (((hread path f rest (by omega) hend).bind _).trans ?_)
  rw [hconform]
  exact Runs.refl _ _

theorem endsNumber_nil : EndsNumber [] := fun _ hb => nomatch hb

end Reader

/-- What the reader makes of a document's compact text against a shape is the value of the
whole text. -/
theorem Shape.read_compact {s : Shape} {j w : Json} (h : Reader.ReadsAs 128 s j w) :
    s.read (compact j) = .ok w := by
  unfold Shape.read
  dsimp only
  rw [toUTF8_toList]
  apply Reader.Yields.run
  have hread := h [] (4 * (utf8 (compact j)).length + 16) [] (by omega) Reader.endsNumber_nil
  rw [List.append_nil] at hread
  exact (hread.bind _).trans ((Reader.skipBlank_bind_nil _).trans (Reader.Runs.refl _ _))

end Tintbook.Json
