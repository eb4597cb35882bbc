import Tintbook.Time.Instant
/-!
# Formulas and their lines

A *formula* is the recipe of one paint colour: a name, a number, the customer it was mixed
for, a summary and notes, and two lists of lines: the *colorants* mixed in, each with an
amount, and the *bases* it is tinted from, each with the product it comes as. A formula
carries the instant it was created and the instant it was last changed.

Before it is stored, a formula is a `Draft` with its lines; a change to a stored formula is
a `Revision` of some of its fields, with new lists of lines where they are replaced.

## What this module delivers

- `ColorantLine`, `BaseLine`: the lines as submitted.
- `Draft`, `NewFormula`, `Revision`, `Amendment`: what creating and changing a formula take.
- `Formula`, `Colorant`, `Base`, `FormulaDetail`: formulas and lines as stored.
-/

set_option autoImplicit false

namespace Tintbook

/-- A colorant as submitted: its name and amount. -/
structure ColorantLine where
  name : String
  amount : Int
  deriving DecidableEq, Repr

/-- A base as submitted: its name and the product it comes as. -/
structure BaseLine where
  base : String
  product : String
  deriving DecidableEq, Repr

/-- The fields of a formula about to be created. -/
structure Draft where
  name : String
  number : String
  customer : String
  summary : String
  notes : String
  deriving DecidableEq, Repr

/-- A formula about to be created, with its lines in order. -/
structure NewFormula where
  draft : Draft
  colorants : List ColorantLine
  bases : List BaseLine
  deriving DecidableEq, Repr

/-- A change of some fields of a formula: a field that is `none` is kept. -/
structure Revision where
  name : Option String := none
  number : Option String := none
  customer : Option String := none
  summary : Option String := none
  notes : Option String := none
  deriving DecidableEq, Repr

/-- A change of a formula: some of its fields, and new lists of lines where given. -/
structure Amendment where
  fields : Revision
  colorants : Option (List ColorantLine)
  bases : Option (List BaseLine)
  deriving DecidableEq, Repr

/-- A stored formula. -/
structure Formula where
  id : Int
  name : String
  number : String
  customer : String
  summary : String
  notes : String
  created : Instant
  modified : Instant
  deriving DecidableEq, Repr

/-- A stored colorant line of a formula. -/
structure Colorant where
  id : Int
  formulaId : Int
  name : String
  amount : Int
  deriving DecidableEq, Repr

/-- A stored base line of a formula. -/
structure Base where
  id : Int
  formulaId : Int
  base : String
  product : String
  deriving DecidableEq, Repr

/-- A formula with its lines, each list in the order the lines were stored. -/
structure FormulaDetail where
  formula : Formula
  colorants : List Colorant
  bases : List Base
  deriving DecidableEq, Repr

end Tintbook
