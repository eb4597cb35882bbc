import Tintbook.Proofs.Json.Leaves
/-!
# Reading a compact text back

Every document without doubles is read back from its compact text as it is, when its integers
lie in the range the reader keeps as integers and the depth the reader allows exceeds the
nesting of its containers (`Reader.readsBack_of_plain`).

The compact text of a list is its items behind an opening bracket, separated by commas; an
object's is its members, each a quoted name, a colon and a value. The loops that read items
and members are followed one turn at a time (`readAnyItems_step`, `readAnyMembers_step`):
the first item comes straight after the bracket, each later one after its comma, and the
loop closes on the bracket, handing back what it read in order. A number ends where the next
byte is no part of one, so what follows a document is only ever asked to end numbers
(`EndsNumber`): a comma, a closing bracket or brace does.

## What this module delivers

- `Plain`: the documents the reader takes back as they are; `nesting`: how deep their
  containers nest.
- `compact_head`: a document's compact text begins with no blank, comma or closing byte.
- `Reader.nextItem_itemsAfter`, `Reader.nextKey_membersAfter` and their first-turn forms:
  the next item or name as written is there, shared by every loop over items or members.
- `Reader.ReadsBack`: the reader takes a document back from its compact text.
- `Reader.readsBack_of_plain`: every plain document is taken back.
-/

set_option autoImplicit false

namespace Tintbook.Json

/-! ## Containers as written -/

theorem utf8_compact_arr (xs : List Json) :
    utf8 (compact (.arr xs)) = 91 :: utf8 (compactItems xs) ++ [93] := by
  rw [compact]
  simp only [utf8_append]
  rfl

theorem utf8_compact_obj (ms : List (String × Json)) :
    utf8 (compact (.obj ms)) = 123 :: utf8 (compactMembers ms) ++ [125] := by
  rw [compact]
  simp only [utf8_append]
  rfl

/-- Items after the first, each behind its comma. -/
def itemsAfter (xs : List Json) : List UInt8 := xs.flatMap fun x => 44 :: utf8 (compact x)

theorem utf8_compactItems_cons (x : Json) (xs : List Json) :
    utf8 (compactItems (x :: xs)) = utf8 (compact x) ++ itemsAfter xs := by
  induction xs generalizing x with
  | nil => simp [compactItems, itemsAfter]
  | cons y ys ih =>
    rw [compactItems.eq_3 x (y :: ys) (List.cons_ne_nil y ys), utf8_append, utf8_append, ih]
    simp [itemsAfter]
    rfl

theorem itemsAfter_cons (x : Json) (xs : List Json) :
    itemsAfter (x :: xs) = 44 :: (utf8 (compact x) ++ itemsAfter xs) := by
  simp [itemsAfter]

@[simp] theorem length_itemsAfter_cons (x : Json) (xs : List Json) :
    (itemsAfter (x :: xs)).length = (utf8 (compact x)).length + (itemsAfter xs).length + 1 := by
  rw [itemsAfter_cons, List.length_cons, List.length_append]

theorem utf8_colon : utf8 ":" = [58] := rfl

theorem utf8_comma : utf8 "," = [44] := rfl

/-- A member as written: its name, a colon and its value. -/
def memberBytes (m : String × Json) : List UInt8 := utf8 (quote m.1) ++ 58 :: utf8 (compact m.2)

/-- Members after the first, each behind its comma. -/
def membersAfter (ms : List (String × Json)) : List UInt8 := ms.flatMap fun m => 44 :: memberBytes m

theorem utf8_compactMembers_cons (m : String × Json) (ms : List (String × Json)) :
    utf8 (compactMembers (m :: ms)) = memberBytes m ++ membersAfter ms := by
  induction ms generalizing m with
  | nil =>
    obtain ⟨k, v⟩ := m
    simp [compactMembers, membersAfter, memberBytes, utf8_colon]
  | cons m' ms ih =>
    obtain ⟨k, v⟩ := m
    rw [compactMembers.eq_3 k v (m' :: ms) (List.cons_ne_nil m' ms), utf8_append, utf8_append,
      ih]
    simp [membersAfter, memberBytes, utf8_colon, utf8_comma]

theorem membersAfter_cons (m : String × Json) (ms : List (String × Json)) :
    membersAfter (m :: ms) =
      44 :: (utf8 (quote m.1) ++ 58 :: (utf8 (compact m.2) ++ membersAfter ms)) := by
  simp [membersAfter, memberBytes]

@[simp] theorem length_membersAfter_cons (m : String × Json) (ms : List (String × Json)) :
    (membersAfter (m :: ms)).length =
      (utf8 (quote m.1)).length + (utf8 (compact m.2)).length + (membersAfter ms).length + 2 := by
  rw [membersAfter_cons]
  simp only [List.length_cons, List.length_append]
  omega

/-! ## The steps of a container -/

namespace Reader

theorem nextItem_close (first : Bool) (rest : List UInt8) :
    Yields (nextItem first) (93 :: rest) none (93 :: rest) := by
  unfold nextItem
  exact (skipBlank_bind _ rest (by decide)).trans (Runs.refl _ _)

theorem nextItem_first {b : UInt8} (hb : isBlankByte b = false) (hclose : b ≠ 93)
    (rest : List UInt8) : Yields (nextItem true) (b :: rest) (some b) (b :: rest) := by
  unfold nextItem
  refine (skipBlank_bind _ rest hb).trans ?_
  -- the byte is no closing bracket; a comma or any other byte is handed on as it is
  split <;> rename_i heq
  · exact absurd (Option.some.inj heq) hclose
  · cases Option.some.inj heq
    exact Runs.refl _ _
  · cases Option.some.inj heq
    simp only [if_true]
    refine ((Yields.pure (some b) _).bind _).trans ?_
    split <;> rename_i heq'
    · exact absurd (Option.some.inj heq') hclose
    · cases Option.some.inj heq'
      exact Runs.refl _ _
    · cases heq'
  · cases heq

theorem nextItem_comma {b : UInt8} (hb : isBlankByte b = false) (hclose : b ≠ 93)
    (rest : List UInt8) : Yields (nextItem false) (44 :: b :: rest) (some b) (b :: rest) := by
  unfold nextItem
  refine (skipBlank_bind _ (b :: rest) (by decide)).trans ?_
  dsimp only
  rw [if_neg Bool.false_ne_true]
  refine (eat_bind _ _ _).trans ((skipBlank_bind _ rest hb).trans ?_)
  split <;> rename_i heq
  · exact absurd (Option.some.inj heq) hclose
  · cases Option.some.inj heq
    exact Runs.refl _ _
  · cases heq

theorem nextKey_close (first : Bool) (fuel : Nat) (rest : List UInt8) :
    Yields (nextKey first fuel) (125 :: rest) none (125 :: rest) := by
  unfold nextKey
  exact (skipBlank_bind _ rest (by decide)).trans (Runs.refl _ _)

/-- The name of a member, read after the opening brace. -/
theorem nextKey_first (k : String) {fuel : Nat} (hfuel : (utf8 (quote k)).length ≤ fuel)
    (rest : List UInt8) : Yields (nextKey true fuel) (utf8 (quote k) ++ rest) (some k) rest := by
  rw [utf8_quote] at hfuel ⊢
  unfold nextKey
  refine (skipBlank_bind _ _ (by decide)).trans ?_
  dsimp only
  refine ((Yields.pure (some 34) _).bind _).trans ?_
  refine (eat_bind _ _ _).trans ?_
  simp only [List.append_eq, List.append_assoc, List.singleton_append]
  exact ((readString_literal k rest (by simp at hfuel; omega)).bind _).trans (Runs.refl _ _)

/-- The name of a member after the first, behind its comma. -/
theorem nextKey_comma (k : String) {fuel : Nat} (hfuel : (utf8 (quote k)).length ≤ fuel)
    (rest : List UInt8) :
    Yields (nextKey false fuel) (44 :: utf8 (quote k) ++ rest) (some k) rest := by
  rw [utf8_quote] at hfuel ⊢
  unfold nextKey
  refine (skipBlank_bind _ _ (by decide)).trans ?_
  dsimp only
  rw [if_neg Bool.false_ne_true]
  refine (eat_bind _ _ _).trans ((skipBlank_bind _ _ (by decide)).trans ?_)
  refine (eat_bind _ _ _).trans ?_
  simp only [List.append_eq, List.append_assoc, List.singleton_append]
  exact ((readString_literal k rest (by simp at hfuel; omega)).bind _).trans (Runs.refl _ _)

theorem colon_yields (rest : List UInt8) : Yields colon (58 :: rest) () rest := by
  unfold colon
  exact (skipBlank_bind _ rest (by decide)).trans (eat_yields 58 rest)

theorem endList_yields (rest : List UInt8) : Yields endList (93 :: rest) () rest := by
  unfold endList
  exact (skipBlank_bind _ rest (by decide)).trans (eat_yields 93 rest)

theorem endObject_yields (rest : List UInt8) : Yields endObject (125 :: rest) () rest := by
  unfold endObject
  exact (skipBlank_bind _ rest (by decide)).trans (eat_yields 125 rest)

theorem enter_yields {depth : Nat} (hdepth : 1 < depth) (b : UInt8) (rest : List UInt8) :
    Yields (enter depth) (b :: rest) () rest := by
  unfold enter
  rw [if_neg (by omega)]
  exact eat_yields b rest

end Reader

/-! ## Documents the reader takes back -/

/-- A document that the reader takes back as it is: it holds no double, and its integers lie
in the range that the reader keeps as integers, from `-2^63` to `2^64 - 1`. -/
inductive Plain : Json → Prop
  | null : Plain .null
  | bool (b : Bool) : Plain (.bool b)
  | int {n : Int} (hlow : -((Nat.pow 2 63 : Nat) : Int) ≤ n) (hhigh : n ≤ (Reader.natMax : Int)) :
      Plain (.int n)
  | str (s : String) : Plain (.str s)
  | arr {xs : List Json} (h : ∀ x ∈ xs, Plain x) : Plain (.arr xs)
  | obj {ms : List (String × Json)} (h : ∀ m ∈ ms, Plain m.2) : Plain (.obj ms)

mutual
/-- How deep containers nest in a document: a leaf holds none, and a container one more than
its deepest item. -/
def nesting : Json → Nat
  | .arr xs => itemsNesting xs + 1
  | .obj ms => membersNesting ms + 1
  | _ => 0

/-- The deepest nesting of a list of items. -/
def itemsNesting : List Json → Nat
  | [] => 0
  | x :: xs => max (nesting x) (itemsNesting xs)

/-- The deepest nesting of the values of a list of members. -/
def membersNesting : List (String × Json) → Nat
  | [] => 0
  | (_, v) :: ms => max (nesting v) (membersNesting ms)
end

theorem nesting_le_itemsNesting {x : Json} {xs : List Json} (h : x ∈ xs) :
    nesting x ≤ itemsNesting xs := by
  induction xs with
  | nil => cases h
  | cons y ys ih =>
    rw [itemsNesting]
    rcases List.mem_cons.1 h with rfl | hmem
    · exact Nat.le_max_left _ _
    · exact (ih hmem).trans (Nat.le_max_right _ _)

theorem nesting_le_membersNesting {m : String × Json} {ms : List (String × Json)}
    (h : m ∈ ms) : nesting m.2 ≤ membersNesting ms := by
  induction ms with
  | nil => cases h
  | cons m' ms ih =>
    obtain ⟨k, v⟩ := m'
    rw [membersNesting]
    rcases List.mem_cons.1 h with rfl | hmem
    · exact Nat.le_max_left _ _
    · exact (ih hmem).trans (Nat.le_max_right _ _)

theorem itemsNesting_le {xs : List Json} {n : Nat} (h : ∀ x ∈ xs, nesting x ≤ n) :
    itemsNesting xs ≤ n := by
  induction xs with
  | nil => exact Nat.zero_le n
  | cons x xs ih =>
    rw [itemsNesting]
    exact Nat.max_le.2 ⟨h x List.mem_cons_self, ih fun y hy => h y (List.mem_cons_of_mem x hy)⟩

/-- The first digit of a number as written is a digit byte. -/
theorem toDigits_bytes (m : Nat) :
    ∃ b bs, (Nat.toDigits 10 m).flatMap String.utf8EncodeChar = b :: bs ∧
      Reader.isDigit b = true := by
  obtain ⟨d, ds, hds⟩ := List.exists_cons_of_ne_nil (Nat.toDigits_ne_nil (n := m) (b := 10))
  have hd : d.isDigit = true :=
    Nat.isDigit_of_mem_toDigits (by decide) (by decide) (hds ▸ List.mem_cons_self)
  obtain ⟨hbyte, hdigit, -⟩ := utf8EncodeChar_digit hd
  exact ⟨_, _, by rw [hds, List.flatMap_cons, hbyte, List.singleton_append], hdigit⟩

/-- A document as written begins with a byte that is no blank, no comma and no closing
bracket or brace. -/
theorem compact_head {j : Json} (hj : Plain j) :
    ∃ b bs, utf8 (compact j) = b :: bs ∧ Reader.isBlankByte b = false ∧ b ≠ 44 ∧ b ≠ 93 ∧
      b ≠ 125 := by
  cases hj with
  | null => exact ⟨_, _, rfl, by decide, by decide, by decide, by decide⟩
  | bool b => cases b <;> exact ⟨_, _, rfl, by decide, by decide, by decide, by decide⟩
  | @int n _ _ =>
    show ∃ b bs, utf8 (showInt n) = b :: bs ∧ _
    rw [utf8_showInt]
    split
    · exact ⟨_, _, rfl, by decide, by decide, by decide, by decide⟩
    · obtain ⟨b, bs, hbs, hdigit⟩ := toDigits_bytes n.natAbs
      rw [List.nil_append, hbs]
      have hbound : 48 ≤ b.toNat ∧ b.toNat ≤ 57 := by
        simpa [Reader.isDigit, UInt8.le_iff_toNat_le] using hdigit
      refine ⟨b, bs, rfl, ?_, ?_, ?_, ?_⟩
      · simp only [Reader.isBlankByte, Bool.or_eq_false_iff, beq_eq_false_iff_ne, ne_eq]
        refine ⟨⟨⟨?_, ?_⟩, ?_⟩, ?_⟩ <;> rintro rfl <;> simp at hbound
      all_goals
        rintro rfl
        simp at hbound
  | str s => exact ⟨_, _, utf8_quote s, by decide, by decide, by decide, by decide⟩
  | arr _ => exact ⟨_, _, utf8_compact_arr _, by decide, by decide, by decide, by decide⟩
  | obj _ => exact ⟨_, _, utf8_compact_obj _, by decide, by decide, by decide, by decide⟩

namespace Reader

/-- The reader at `depth` takes `j` back from its compact text, whatever follows it that
ends a number. -/
def ReadsBack (depth : Nat) (j : Json) : Prop :=
  ∀ (path : List Step) (fuel : Nat) (rest : List UInt8), (utf8 (compact j)).length < fuel →
    EndsNumber rest → Yields (readAny path depth fuel) (utf8 (compact j) ++ rest) j rest

/-! ### Leaves -/

theorem readsBack_null (depth : Nat) : ReadsBack depth .null := by
  intro path fuel rest hfuel _
  obtain ⟨f, rfl⟩ : ∃ f, fuel = f + 1 := ⟨fuel - 1, by omega⟩
  show Yields _ (110 :: ([117, 108, 108] ++ rest)) _ _
  rw [readAny]
  refine tracked_yields path ((skipBlank_bind _ _ (by decide)).trans ?_)
  dsimp only
  rw [if_pos (by decide)]
  exact (eat_bind _ _ _).trans ((expectWord_yields [117, 108, 108] rest).bind _)

theorem readsBack_bool (depth : Nat) (b : Bool) : ReadsBack depth (.bool b) := by
  intro path fuel rest hfuel _
  obtain ⟨f, rfl⟩ : ∃ f, fuel = f + 1 := ⟨fuel - 1, by omega⟩
  rw [readAny]
  cases b
  · show Yields _ (102 :: ([97, 108, 115, 101] ++ rest)) _ _
    refine tracked_yields path ((skipBlank_bind _ _ (by decide)).trans ?_)
    dsimp only
    rw [if_neg (by decide), if_neg (by decide), if_pos (by decide)]
    exact (eat_bind _ _ _).trans ((expectWord_yields [97, 108, 115, 101] rest).bind _)
  · show Yields _ (116 :: ([114, 117, 101] ++ rest)) _ _
    refine tracked_yields path ((skipBlank_bind _ _ (by decide)).trans ?_)
    dsimp only
    rw [if_neg (by decide), if_pos (by decide)]
    exact (eat_bind _ _ _).trans ((expectWord_yields [114, 117, 101] rest).bind _)

theorem readsBack_str (depth : Nat) (s : String) : ReadsBack depth (.str s) := by
  intro path fuel rest hfuel _
  obtain ⟨f, rfl⟩ : ∃ f, fuel = f + 1 := ⟨fuel - 1, by omega⟩
  have hbytes : utf8 (compact (.str s)) = 34 :: literalBytes s.toList ++ [34] := utf8_quote s
  rw [hbytes] at hfuel ⊢
  rw [readAny]
  refine tracked_yields path ((skipBlank_bind _ _ (by decide)).trans ?_)
  dsimp only
  rw [if_neg (by decide), if_neg (by decide), if_neg (by decide), if_neg (by decide),
    if_neg (by decide), if_pos (by decide)]
  refine (eat_bind _ _ _).trans ?_
  simp only [List.append_eq, List.append_assoc, List.singleton_append]
  exact (readString_literal s rest (by simp at hfuel; omega)).bind _

theorem ne_of_isDigit {b k : UInt8} (h : isDigit b = true) (hk : isDigit k = false) : b ≠ k := by
  rintro rfl
  rw [h] at hk
  cases hk

theorem isBlankByte_of_isDigit {b : UInt8} (h : isDigit b = true) : isBlankByte b = false := by
  simp only [isBlankByte, Bool.or_eq_false_iff, beq_eq_false_iff_ne, ne_eq]
  exact ⟨⟨⟨ne_of_isDigit h (k := 32) (by decide), ne_of_isDigit h (k := 10) (by decide)⟩,
    ne_of_isDigit h (k := 9) (by decide)⟩, ne_of_isDigit h (k := 13) (by decide)⟩

/-- A negative integer as written is a minus sign and digits that are read back signed. -/
theorem showInt_neg_yields {n : Int} (hneg : n < 0) (hlow : -((Nat.pow 2 63 : Nat) : Int) ≤ n)
    (fuel : Nat) (hfuel : (utf8 (showInt n)).length ≤ fuel + 1) {rest : List UInt8}
    (hend : EndsNumber rest) :
    ∃ ds, utf8 (showInt n) = 45 :: ds ∧
      Yields (readNumber false fuel) (ds ++ rest) (.signed n) rest := by
  have hdigits : ∀ c ∈ Nat.toDigits 10 n.natAbs, c.isDigit = true :=
    fun _ hc => Nat.isDigit_of_mem_toDigits (by decide) (by decide) hc
  have hlen := length_digitBytes hdigits
  rw [utf8_showInt, if_pos hneg, List.singleton_append] at hfuel ⊢
  refine ⟨_, rfl, ?_⟩
  rw [List.length_cons] at hfuel
  have h63 : ((Nat.pow 2 63 : Nat) : Int) = 9223372036854775808 := rfl
  have hsigned : Yields (readNumber false fuel)
      ((Nat.toDigits 10 n.natAbs).flatMap String.utf8EncodeChar ++ rest)
      (.signed (-(n.natAbs : Int))) rest :=
    readNumber_signed (by omega) (by omega) (by omega) hend
  rwa [show -(n.natAbs : Int) = n by omega] at hsigned

/-- A natural number as written is digits, read back unsigned. -/
theorem showInt_nonneg_yields {n : Int} (hnn : 0 ≤ n) (hhigh : n ≤ (natMax : Int))
    (fuel : Nat) (hfuel : (utf8 (showInt n)).length ≤ fuel) {rest : List UInt8}
    (hend : EndsNumber rest) :
    ∃ b bs, utf8 (showInt n) = b :: bs ∧ isDigit b = true ∧
      Yields (readNumber true fuel) (utf8 (showInt n) ++ rest) (.unsigned n.natAbs) rest := by
  have hdigits : ∀ c ∈ Nat.toDigits 10 n.natAbs, c.isDigit = true :=
    fun _ hc => Nat.isDigit_of_mem_toDigits (by decide) (by decide) hc
  have hlen := length_digitBytes hdigits
  rw [utf8_showInt, if_neg (by omega), List.nil_append] at hfuel ⊢
  obtain ⟨b, bs, hbs, hdigit⟩ := toDigits_bytes n.natAbs
  exact ⟨b, bs, hbs, hdigit, readNumber_unsigned (by omega) (by omega) hend⟩

theorem readsBack_int (depth : Nat) {n : Int} (hlow : -((Nat.pow 2 63 : Nat) : Int) ≤ n)
    (hhigh : n ≤ (natMax : Int)) : ReadsBack depth (.int n) := by
  intro path fuel rest hfuel hend
  obtain ⟨f, rfl⟩ : ∃ f, fuel = f + 1 := ⟨fuel - 1, by omega⟩
  have hbytes : utf8 (compact (.int n)) = utf8 (showInt n) := rfl
  rw [hbytes] at hfuel ⊢
  rw [readAny]
  by_cases hneg : n < 0
  · -- a minus sign, then the digits of the size
    obtain ⟨ds, hds, hsigned⟩ := showInt_neg_yields hneg hlow f (by omega) hend
    rw [hds, List.cons_append]
    refine tracked_yields path ((skipBlank_bind _ _ (by decide)).trans ?_)
    dsimp only
    rw [if_neg (by decide), if_neg (by decide), if_neg (by decide), if_pos (by decide)]
    exact (eat_bind _ _ _).trans ((hsigned.bind _).trans (Runs.refl _ _))
  · -- the digits of the number
    obtain ⟨b, bs, hbs, hdigit, hunsigned⟩ :=
      showInt_nonneg_yields (n := n) (by omega) hhigh f (by omega) hend
    rw [hbs] at hunsigned ⊢
    refine tracked_yields path ((skipBlank_bind _ _ (isBlankByte_of_isDigit hdigit)).trans ?_)
    dsimp only
    rw [if_neg (by simpa using ne_of_isDigit hdigit (k := 110) (by decide)),
      if_neg (by simpa using ne_of_isDigit hdigit (k := 116) (by decide)),
      if_neg (by simpa using ne_of_isDigit hdigit (k := 102) (by decide)),
      if_neg (by simpa using ne_of_isDigit hdigit (k := 45) (by decide)), if_pos hdigit]
    refine (hunsigned.bind _).trans ?_
    show Runs (pure (Json.int (n.natAbs : Int))) _ _ _
    rw [show ((n.natAbs : Nat) : Int) = n by omega]
    exact Runs.refl _ _

/-- A comma, a closing bracket or a closing brace ends a number. -/
theorem endsNumber_cons {b : UInt8} (hb : b = 44 ∨ b = 93 ∨ b = 125) (rest : List UInt8) :
    EndsNumber (b :: rest) := by
  intro x hx
  cases hx
  rcases hb with rfl | rfl | rfl <;> decide

theorem endsNumber_itemsAfter (xs : List Json) (rest : List UInt8) :
    EndsNumber (itemsAfter xs ++ 93 :: rest) := by
  cases xs with
  | nil => exact endsNumber_cons (by simp) rest
  | cons x xs => exact endsNumber_cons (by simp) _

theorem length_compact_pos {j : Json} (hj : Plain j) : 0 < (utf8 (compact j)).length := by
  obtain ⟨b, bs, hbs, -⟩ := compact_head hj
  simp [hbs]

/-- After the opening bracket, the first item of a list as written is there. -/
theorem nextItem_compactItems {x : Json} (hx : Plain x) (xs : List Json) (more : List UInt8) :
    ∃ b, Yields (nextItem true) (utf8 (compactItems (x :: xs)) ++ more) (some b)
      (utf8 (compact x) ++ (itemsAfter xs ++ more)) := by
  obtain ⟨b, bs, hbs, hblank, -, hclose, -⟩ := compact_head hx
  rw [utf8_compactItems_cons, List.append_assoc, hbs]
  exact ⟨b, nextItem_first hblank hclose _⟩

/-- Behind its comma, the next item of a list as written is there. -/
theorem nextItem_itemsAfter {x : Json} (hx : Plain x) (xs : List Json) (more : List UInt8) :
    ∃ b, Yields (nextItem false) (itemsAfter (x :: xs) ++ more) (some b)
      (utf8 (compact x) ++ (itemsAfter xs ++ more)) := by
  obtain ⟨b, bs, hbs, hblank, -, hclose, -⟩ := compact_head hx
  simp only [itemsAfter_cons, hbs, List.cons_append, List.append_assoc]
  exact ⟨b, nextItem_comma hblank hclose _⟩

/-! ### Lists -/

/-- One turn of the item loop: the next item is there, and is read. -/
theorem readAnyItems_step {path : List Step} {depth fuel i : Nat} {first : Bool}
    {acc : List Json} {xs ys zs : List UInt8} {b : UInt8} {x : Json}
    (hnext : Yields (nextItem first) xs (some b) ys)
    (hx : Yields (readAny (path ++ [.index i]) depth fuel) ys x zs) :
    Runs (readAnyItems path depth (fuel + 1) first i acc) xs
      (readAnyItems path depth fuel false (i + 1) (x :: acc)) zs := by
  rw [readAnyItems]
  refine ((tracked_yields _ (?_ : Yields _ _ (some x) zs)).bind _).trans (Runs.refl _ _)
  exact (hnext.bind _).trans ((hx.bind _).trans (Runs.refl _ _))

/-- The last turn of the item loop: the list closes, and the items read are handed back. -/
theorem readAnyItems_stop {path : List Step} {depth fuel i : Nat} {first : Bool}
    {acc : List Json} {xs ys : List UInt8} (hnext : Yields (nextItem first) xs none ys) :
    Yields (readAnyItems path depth (fuel + 1) first i acc) xs acc.reverse ys := by
  rw [readAnyItems]
  refine ((tracked_yields _ (?_ : Yields _ _ none ys)).bind _).trans (Runs.refl _ _)
  exact (hnext.bind _).trans (Runs.refl _ _)

/-- Items after the first, each behind its comma, are read onto the items read so far. -/
theorem readAnyItems_after {depth : Nat} {xs : List Json} (hread : ∀ x ∈ xs, ReadsBack depth x)
    (hplain : ∀ x ∈ xs, Plain x) (path : List Step) :
    ∀ (fuel i : Nat) (acc : List Json) (rest : List UInt8), (itemsAfter xs).length + 1 < fuel →
      Yields (readAnyItems path depth fuel false i acc) (itemsAfter xs ++ 93 :: rest)
        (acc.reverse ++ xs) (93 :: rest) := by
  induction xs with
  | nil =>
    intro fuel i acc rest hfuel
    obtain ⟨f, rfl⟩ : ∃ f, fuel = f + 1 := ⟨fuel - 1, by omega⟩
    rw [List.append_nil]
    exact readAnyItems_stop (nextItem_close false rest)
  | cons x xs ih =>
    intro fuel i acc rest hfuel
    obtain ⟨f, rfl⟩ : ∃ f, fuel = f + 1 := ⟨fuel - 1, by omega⟩
    rw [length_itemsAfter_cons] at hfuel
    have hpos := length_compact_pos (hplain x List.mem_cons_self)
    obtain ⟨b, hnext⟩ := nextItem_itemsAfter (hplain x List.mem_cons_self) xs (93 :: rest)
    have hx := hread x List.mem_cons_self (path ++ [.index i]) f (itemsAfter xs ++ 93 :: rest)
      (by omega) (endsNumber_itemsAfter xs rest)
    refine (readAnyItems_step hnext hx).trans ?_
    have hrest := ih (fun y hy => hread y (List.mem_cons_of_mem x hy))
      (fun y hy => hplain y (List.mem_cons_of_mem x hy)) f (i + 1) (x :: acc) rest (by omega)
    rw [List.reverse_cons, List.append_assoc, List.singleton_append] at hrest
    exact hrest

/-- All the items of a list, after its opening bracket. -/
theorem readAnyItems_all {depth : Nat} {xs : List Json} (hread : ∀ x ∈ xs, ReadsBack depth x)
    (hplain : ∀ x ∈ xs, Plain x) (path : List Step) {fuel : Nat} (rest : List UInt8)
    (hfuel : (utf8 (compactItems xs)).length + 1 < fuel) :
    Yields (readAnyItems path depth fuel true 0 []) (utf8 (compactItems xs) ++ 93 :: rest) xs
      (93 :: rest) := by
  obtain ⟨f, rfl⟩ : ∃ f, fuel = f + 1 := ⟨fuel - 1, by omega⟩
  cases xs with
  | nil => exact readAnyItems_stop (nextItem_close true rest)
  | cons x xs =>
    rw [utf8_compactItems_cons, List.length_append] at hfuel
    have hpos := length_compact_pos (hplain x List.mem_cons_self)
    obtain ⟨b, hnext⟩ := nextItem_compactItems (hplain x List.mem_cons_self) xs (93 :: rest)
    have hx := hread x List.mem_cons_self (path ++ [.index 0]) f (itemsAfter xs ++ 93 :: rest)
      (by omega) (endsNumber_itemsAfter xs rest)
    refine (readAnyItems_step hnext hx).trans ?_
    exact readAnyItems_after (fun y hy => hread y (List.mem_cons_of_mem x hy))
      (fun y hy => hplain y (List.mem_cons_of_mem x hy)) path f 1 [x] rest (by omega)

theorem readsBack_arr {depth : Nat} {xs : List Json} (hdepth : 1 < depth)
    (hread : ∀ x ∈ xs, ReadsBack (depth - 1) x) (hplain : ∀ x ∈ xs, Plain x) :
    ReadsBack depth (.arr xs) := by
  intro path fuel rest hfuel _
  obtain ⟨f, rfl⟩ : ∃ f, fuel = f + 1 := ⟨fuel - 1, by omega⟩
  rw [utf8_compact_arr] at hfuel ⊢
  rw [readAny]
  refine tracked_yields path ((skipBlank_bind _ _ (by decide)).trans ?_)
  dsimp only
  rw [if_neg (by decide), if_neg (by decide), if_neg (by decide), if_neg (by decide),
    if_neg (by decide), if_neg (by decide), if_pos (by decide)]
  refine ((enter_yields hdepth _ _).bind _).trans ?_
  simp only [List.append_eq, List.append_assoc, List.singleton_append]
  refine ((readAnyItems_all hread hplain path rest (by simp at hfuel; omega)).bind _).trans ?_
  exact ((endList_yields rest).bind _).trans (Runs.refl _ _)

/-! ### Objects -/

theorem endsNumber_membersAfter (ms : List (String × Json)) (rest : List UInt8) :
    EndsNumber (membersAfter ms ++ 125 :: rest) := by
  cases ms with
  | nil => exact endsNumber_cons (by simp) rest
  | cons m ms => exact endsNumber_cons (by simp) _

/-- After the opening brace, the name of the first member as written is read, and its colon
and value follow. -/
theorem nextKey_compactMembers (m : String × Json) (ms : List (String × Json)) {fuel : Nat}
    (hfuel : (utf8 (quote m.1)).length ≤ fuel) (more : List UInt8) :
    Yields (nextKey true fuel) (utf8 (compactMembers (m :: ms)) ++ more) (some m.1)
      (58 :: (utf8 (compact m.2) ++ (membersAfter ms ++ more))) := by
  simp only [utf8_compactMembers_cons, memberBytes, List.append_assoc, List.cons_append]
  exact nextKey_first m.1 hfuel _

/-- Behind its comma, the name of the next member as written is read, and its colon and value
follow. -/
theorem nextKey_membersAfter (m : String × Json) (ms : List (String × Json)) {fuel : Nat}
    (hfuel : (utf8 (quote m.1)).length ≤ fuel) (more : List UInt8) :
    Yields (nextKey false fuel) (membersAfter (m :: ms) ++ more) (some m.1)
      (58 :: (utf8 (compact m.2) ++ (membersAfter ms ++ more))) := by
  simp only [membersAfter_cons, List.append_assoc, List.cons_append]
  exact nextKey_comma m.1 hfuel _

/-- One turn of the member loop: the next name is there, and its value is read after the
colon. -/
theorem readAnyMembers_step {path : List Step} {depth fuel : Nat} {first : Bool}
    {acc : List (String × Json)} {xs ys zs : List UInt8} {k : String} {v : Json}
    (hkey : Yields (nextKey first fuel) xs (some k) (58 :: ys))
    (hv : Yields (readAny (path ++ [.key k]) depth fuel) ys v zs) :
    Runs (readAnyMembers path depth (fuel + 1) first acc) xs
      (readAnyMembers path depth fuel false ((k, v) :: acc)) zs := by
  rw [readAnyMembers]
  refine (hkey.bind _).trans ?_
  refine ((tracked_yields _ (?_ : Yields _ _ v zs)).bind _).trans (Runs.refl _ _)
  exact ((colon_yields ys).bind _).trans hv

/-- The last turn of the member loop: the object closes, and the members read are handed
back. -/
theorem readAnyMembers_stop {path : List Step} {depth fuel : Nat} {first : Bool}
    {acc : List (String × Json)} {xs ys : List UInt8}
    (hkey : Yields (nextKey first fuel) xs none ys) :
    Yields (readAnyMembers path depth (fuel + 1) first acc) xs acc.reverse ys := by
  rw [readAnyMembers]
  exact (hkey.bind _).trans (Runs.refl _ _)

/-- Members after the first, each behind its comma, are read onto the members read so far. -/
theorem readAnyMembers_after {depth : Nat} {ms : List (String × Json)}
    (hread : ∀ m ∈ ms, ReadsBack depth m.2) (path : List Step) :
    ∀ (fuel : Nat) (acc : List (String × Json)) (rest : List UInt8),
      (membersAfter ms).length + 1 < fuel →
      Yields (readAnyMembers path depth fuel false acc) (membersAfter ms ++ 125 :: rest)
        (acc.reverse ++ ms) (125 :: rest) := by
  induction ms with
  | nil =>
    intro fuel acc rest hfuel
    obtain ⟨f, rfl⟩ : ∃ f, fuel = f + 1 := ⟨fuel - 1, by omega⟩
    rw [List.append_nil]
    exact readAnyMembers_stop (nextKey_close false f rest)
  | cons m ms ih =>
    intro fuel acc rest hfuel
    obtain ⟨f, rfl⟩ : ∃ f, fuel = f + 1 := ⟨fuel - 1, by omega⟩
    rw [length_membersAfter_cons] at hfuel
    have hv := hread m List.mem_cons_self (path ++ [.key m.1]) f
      (membersAfter ms ++ 125 :: rest) (by omega) (endsNumber_membersAfter ms rest)
    refine (readAnyMembers_step (nextKey_membersAfter m ms (by omega) _) hv).trans ?_
    have hrest := ih (fun m hm => hread m (List.mem_cons_of_mem _ hm)) f (m :: acc) rest
      (by omega)
    rw [List.reverse_cons, List.append_assoc, List.singleton_append] at hrest
    exact hrest

/-- All the members of an object, after its opening brace. -/
theorem readAnyMembers_all {depth : Nat} {ms : List (String × Json)}
    (hread : ∀ m ∈ ms, ReadsBack depth m.2) (path : List Step) {fuel : Nat}
    (rest : List UInt8) (hfuel : (utf8 (compactMembers ms)).length + 1 < fuel) :
    Yields (readAnyMembers path depth fuel true []) (utf8 (compactMembers ms) ++ 125 :: rest) ms
      (125 :: rest) := by
  obtain ⟨f, rfl⟩ : ∃ f, fuel = f + 1 := ⟨fuel - 1, by omega⟩
  cases ms with
  | nil => exact readAnyMembers_stop (nextKey_close true f rest)
  | cons m ms =>
    simp only [utf8_compactMembers_cons, memberBytes, List.length_append, List.length_cons]
      at hfuel
    have hv := hread m List.mem_cons_self (path ++ [.key m.1]) f
      (membersAfter ms ++ 125 :: rest) (by omega) (endsNumber_membersAfter ms rest)
    refine (readAnyMembers_step (nextKey_compactMembers m ms (by omega) _) hv).trans ?_
    exact readAnyMembers_after (fun m hm => hread m (List.mem_cons_of_mem _ hm)) path f
      [m] rest (by omega)

theorem readsBack_obj {depth : Nat} {ms : List (String × Json)} (hdepth : 1 < depth)
    (hread : ∀ m ∈ ms, ReadsBack (depth - 1) m.2) : ReadsBack depth (.obj ms) := by
  intro path fuel rest hfuel _
  obtain ⟨f, rfl⟩ : ∃ f, fuel = f + 1 := ⟨fuel - 1, by omega⟩
  rw [utf8_compact_obj] at hfuel ⊢
  rw [readAny]
  refine tracked_yields path ((skipBlank_bind _ _ (by decide)).trans ?_)
  dsimp only
  rw [if_neg (by decide), if_neg (by decide), if_neg (by decide), if_neg (by decide),
    if_neg (by decide), if_neg (by decide), if_neg (by decide), if_pos (by decide)]
  refine ((enter_yields hdepth _ _).bind _).trans ?_
  simp only [List.append_eq, List.append_assoc, List.singleton_append]
  refine ((readAnyMembers_all hread path rest (by simp at hfuel; omega)).bind _).trans ?_
  exact ((endObject_yields rest).bind _).trans (Runs.refl _ _)

/-- The reader takes back every document without doubles from its compact text, when the
depth it allows exceeds the nesting of the document. -/
theorem readsBack_of_plain {j : Json} (hj : Plain j) :
    ∀ depth, nesting j < depth → ReadsBack depth j := by
  induction hj with
  | null => exact fun depth _ => readsBack_null depth
  | bool b => exact fun depth _ => readsBack_bool depth b
  | int hlow hhigh => exact fun depth _ => readsBack_int depth hlow hhigh
  | str s => exact fun depth _ => readsBack_str depth s
  | @arr xs hplain ih =>
    intro depth hdepth
    rw [nesting] at hdepth
    refine readsBack_arr (by omega) (fun x hx => ih x hx (depth - 1) ?_) hplain
    have := nesting_le_itemsNesting hx
    omega
  | @obj ms _ ih =>
    intro depth hdepth
    rw [nesting] at hdepth
    refine readsBack_obj (by omega) (fun m hm => ih m hm (depth - 1) ?_)
    have := nesting_le_membersNesting hm
    omega

end Reader

end Tintbook.Json
