import Tintbook.Submission.Basic
/-!
# Deciding whether two JSON values are the same

A JSON value nests lists of values and lists of members, so equality of values is not
derived with the type. It is decided here by a test that walks both values together
(`Json.same`), and the test is shown to answer exactly equality (`Json.eq_of_same`,
`Json.same_self`). With it, equality of submissions, which may carry lines as a JSON value in
place, is decided too, so that what a JSON body is read to can be computed and checked.

## What this module delivers

- `Json.same`, `Json.sameItems`, `Json.sameMembers`: the test, by structural recursion.
- `Json.eq_of_same`, `Json.same_self`, and the `DecidableEq` instances of `Json`,
  `PayloadField` and `Submission`.
-/

set_option autoImplicit false

namespace Tintbook.Json

mutual

/-- Whether two JSON values are the same. -/
def same : Json → Json → Bool
  | .null, .null => true
  | .bool a, .bool b => a == b
  | .int a, .int b => a == b
  | .float a, .float b => a == b
  | .str a, .str b => a == b
  | .arr as, .arr bs => sameItems as bs
  | .obj as, .obj bs => sameMembers as bs
  | _, _ => false

/-- Whether two lists of JSON values are the same, item by item. -/
def sameItems : List Json → List Json → Bool
  | [], [] => true
  | a :: as, b :: bs => same a b && sameItems as bs
  | _, _ => false

/-- Whether two lists of members are the same, member by member. -/
def sameMembers : List (String × Json) → List (String × Json) → Bool
  | [], [] => true
  | (k, a) :: as, (l, b) :: bs => k == l && same a b && sameMembers as bs
  | _, _ => false

end

mutual

/-- Values that pass the test are equal. -/
theorem eq_of_same : (a b : Json) → same a b = true → a = b
  | .null, b, h | .bool _, b, h | .int _, b, h | .float _, b, h | .str _, b, h => by
    cases b <;> simp_all [same]
  | .arr as, b, h => by
    -- values of another kind fail the test; lists go item by item
    cases b <;> simp [same] at h
    rw [eq_of_sameItems as _ h]
  | .obj as, b, h => by
    cases b <;> simp [same] at h
    rw [eq_of_sameMembers as _ h]

theorem eq_of_sameItems : (as bs : List Json) → sameItems as bs = true → as = bs
  | [], [], _ => rfl
  | a :: as, b :: bs, h => by
    simp only [sameItems, Bool.and_eq_true] at h
    rw [eq_of_same a b h.1, eq_of_sameItems as bs h.2]
  | [], _ :: _, h | _ :: _, [], h => by simp [sameItems] at h

theorem eq_of_sameMembers : (as bs : List (String × Json)) → sameMembers as bs = true → as = bs
  | [], [], _ => rfl
  | (k, a) :: as, (l, b) :: bs, h => by
    simp only [sameMembers, Bool.and_eq_true, beq_iff_eq] at h
    rw [h.1.1, eq_of_same a b h.1.2, eq_of_sameMembers as bs h.2]
  | [], _ :: _, h | _ :: _, [], h => by simp [sameMembers] at h

end

mutual

/-- Every value passes the test against itself. -/
theorem same_self : (a : Json) → same a a = true
  | .null => rfl
  | .bool a => by simp [same]
  | .int a => by simp [same]
  | .float a => by simp [same]
  | .str a => by simp [same]
  | .arr as => by simpa [same] using sameItems_self as
  | .obj as => by simpa [same] using sameMembers_self as

theorem sameItems_self : (as : List Json) → sameItems as as = true
  | [] => rfl
  | a :: as => by simp [sameItems, same_self a, sameItems_self as]

theorem sameMembers_self : (as : List (String × Json)) → sameMembers as as = true
  | [] => rfl
  | (k, a) :: as => by simp [sameMembers, same_self a, sameMembers_self as]

end

instance : DecidableEq Json := fun a b =>
  decidable_of_iff (same a b = true) ⟨eq_of_same a b, fun h => h ▸ same_self a⟩

end Tintbook.Json

namespace Tintbook

deriving instance DecidableEq for PayloadField
deriving instance DecidableEq for Submission

end Tintbook
