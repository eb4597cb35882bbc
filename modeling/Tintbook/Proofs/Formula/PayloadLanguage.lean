import Tintbook.Proofs.Json.Records
import Tintbook.Proofs.Formula.PayloadDecoding
/-!
# The texts the payload decoders take

The colorant lines of a formula are decoded from exactly the texts of a list of colorant lines
(`decodeColorants_eq_ok_iff`): blanks may stand around every token; each line is an object
with a string `colorant_name` and an integer `amount` of the 64-bit range, zero when left out,
whose members come in any order, where other names are passed over with any values and neither
name comes twice; or a line is written as the list of its name and amount, the amount again
optional. Every other text is refused.

## What this module delivers

- `ColorantText`, `ColorantsText`: the texts of colorant lines.
- `decodeColorants_eq_ok_iff`: the colorant lines decoded are those the text is the text of.
-/

set_option autoImplicit false

namespace Tintbook.Payload

open Json Json.Reader

/-! ## Colorant lines -/

/-- The fields of `colorantShape`: a name, and an amount that defaults to zero. -/
def colorantEntries : List (String × Shape × Option Json) :=
  [("colorant_name", .text, none), ("amount", .int64, some (.int 0))]

theorem colorantShape_eq : colorantShape = .record "ColorantEntry" colorantEntries := rfl

/-- The text of one colorant line: an object with a string `colorant_name` and an integer
`amount` of the 64-bit range, zero when left out, where other names are passed over with their
values and neither name comes twice; or a list of the name and, but for a zero amount, the
amount. -/
def ColorantText (xs : List UInt8) (l : ColorantLine) (ys : List UInt8) : Prop :=
  RecordText colorantEntries xs (ColorantLine.toJson l) ys

/-- The text of colorant lines: a list of them, with nothing but blanks around it. -/
def ColorantsText (bytes : List UInt8) (ls : List ColorantLine) : Prop :=
  ∃ xs ys, afterBlanks bytes = 91 :: xs ∧ ItemsText 93 ColorantText true xs ls ys ∧
    afterBlanks ys = []

theorem LeafResult.text {v : Json} (h : LeafResult .text v) : ∃ s, v = .str s := by
  cases v with
  | str s => exact ⟨s, rfl⟩
  | _ => exact h.elim

theorem LeafResult.int64 {v : Json} (h : LeafResult .int64 v) : ∃ n, v = .int n := by
  cases v with
  | int n => exact ⟨n, rfl⟩
  | _ => exact h.elim

/-- Every record read against `colorantShape` is the document of a colorant line. -/
theorem RecordText.colorantLine {xs ys : List UInt8} {w : Json}
    (h : RecordText colorantEntries xs w ys) : ∃ l : ColorantLine, w = ColorantLine.toJson l := by
  obtain ⟨ms, rfl, hms⟩ := h.values (by decide)
  cases hms with
  | cons hname hms =>
    cases hms with
    | cons hamount hms =>
      cases hms
      obtain ⟨n, rfl⟩ := hname.elim LeafResult.text fun h => by cases h
      obtain ⟨a, rfl⟩ := hamount.elim LeafResult.int64 fun h => ⟨0, (Option.some.inj h).symm⟩
      exact ⟨⟨n, a⟩, rfl⟩

theorem shapeSpec_colorants :
    ShapeSpec 128 (.list colorantShape) (ListValue (RecordText colorantEntries)) :=
  ShapeSpec.list (by decide) (ShapeSpec.record (by decide) (by decide)
    (by
      intro f hf
      simp only [List.mem_cons, List.not_mem_nil, or_false] at hf
      rcases hf with rfl | rfl
      · exact .inl rfl
      · exact .inr rfl)
    (by decide))

/-- **The texts of colorant lines.** The colorant lines decoded from a text are exactly those it
is the text of: a list of colorant lines, each an object or a list of its fields, with nothing
but blanks around it. -/
theorem decodeColorants_eq_ok_iff (t : String) (ls : List ColorantLine) :
    decodeColorants t = .ok ls ↔ ColorantsText (utf8 t) ls := by
  unfold decodeColorants
  constructor
  · intro h
    split at h
    · rename_i items hread
      cases h
      obtain ⟨ys, ⟨zs, ws, hzs, hitems, hw⟩, hend⟩ := (shapeSpec_colorants.read_eq_ok t _).1 hread
      cases hw
      obtain ⟨cs, rfl, hcs⟩ := hitems.exists_map RecordText.colorantLine
      have hls : (cs.map ColorantLine.toJson).map colorantOf = cs := by
        simp [List.map_map, Function.comp_def]
      rw [hls]
      exact ⟨zs, ys, hzs, hcs, hend⟩
    · rename_i v hv hread
      obtain ⟨ys, ⟨zs, ws, -, -, rfl⟩, -⟩ := (shapeSpec_colorants.read_eq_ok t _).1 hread
      exact (hv ws rfl).elim
    · cases h
  · rintro ⟨zs, ys, hzs, hitems, hend⟩
    have hread := (shapeSpec_colorants.read_eq_ok t (.arr (ls.map ColorantLine.toJson))).2
      ⟨ys, ⟨zs, _, hzs, ItemsText.map (g := ColorantLine.toJson) hitems, rfl⟩, hend⟩
    rw [hread]
    simp [List.map_map, Function.comp_def]

end Tintbook.Payload
