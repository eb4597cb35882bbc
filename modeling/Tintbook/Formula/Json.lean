import Tintbook.Formula.Basic
import Tintbook.Json.Value
/-!
# Stored formulas as JSON

The JSON API and the command line show stored records as JSON objects whose members come
in a fixed order: a formula as `id`, `formula_name`, `formula_number`, `customer_name`,
`summary`, `notes`, `created_date`, `last_modified`; a colorant line as `id`, `formula_id`,
`colorant_name`, `amount`; a base line as `id`, `formula_id`, `base_name`, `product_name`;
a formula with its lines as `formula`, `colorants`, `bases`. Times are RFC 3339 text in
UTC with the suffix `Z`.

## What this module delivers

- `Formula.toJson`, `Colorant.toJson`, `Base.toJson`, `FormulaDetail.toJson`.
-/

set_option autoImplicit false

namespace Tintbook

/-- The document of a stored formula. -/
def Formula.toJson (f : Formula) : Json :=
  .obj [("id", .int f.id), ("formula_name", .str f.name), ("formula_number", .str f.number),
    ("customer_name", .str f.customer), ("summary", .str f.summary), ("notes", .str f.notes),
    ("created_date", .str (f.created.rfc3339 true)),
    ("last_modified", .str (f.modified.rfc3339 true))]

/-- The document of a stored colorant line. -/
def Colorant.toJson (c : Colorant) : Json :=
  .obj [("id", .int c.id), ("formula_id", .int c.formulaId), ("colorant_name", .str c.name),
    ("amount", .int c.amount)]

/-- The document of a stored base line. -/
def Base.toJson (b : Base) : Json :=
  .obj [("id", .int b.id), ("formula_id", .int b.formulaId), ("base_name", .str b.base),
    ("product_name", .str b.product)]

/-- The document of a formula with its lines. -/
def FormulaDetail.toJson (d : FormulaDetail) : Json :=
  .obj [("formula", d.formula.toJson), ("colorants", .arr (d.colorants.map Colorant.toJson)),
    ("bases", .arr (d.bases.map Base.toJson))]

end Tintbook
