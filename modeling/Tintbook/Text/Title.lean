import Tintbook.Text.Blank
import Tintbook.Text.CaseMap
/-!
# Title case

Names of formulas and customers are kept in title case: every word starts with its capital
form and goes on in small letters. A word starts at the beginning of the text and after a
blank or a hyphen, so `blue-green` becomes `Blue-Green` while `o'neil` becomes `O'neil`.
Case forms may be longer than the character they come from (the capital of `ß` is `SS`),
and the word boundaries are read off the given text, never off the case forms.

## What this module delivers

- `Text.titleCaseFrom`: title case of a list of characters, given whether a word starts.
- `Text.titleCase`: title case of a text.
-/

set_option autoImplicit false

namespace Tintbook.Text

/-- A character after which a new word begins: a blank or a hyphen. -/
def endsWord (c : Char) : Bool := isBlank c || c == '-'

/-- Title case of the characters `cs`, where `start` says whether the first of them begins
a word: a word's first character takes its capital form and every other its small form. -/
def titleCaseFrom : Bool → List Char → List Char
  | _, [] => []
  | start, c :: cs =>
    (if start then upperCase c else lowerCase c) ++ titleCaseFrom (endsWord c) cs

/-- Title case of a text: each word starts with its capital form and goes on in small forms. -/
def titleCase (s : String) : String := String.ofList (titleCaseFrom true s.toList)

end Tintbook.Text
