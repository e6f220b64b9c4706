import EgressWatch.Toml.Value

/-!
# Equality of TOML values

Whether two values are equal is decidable, so that what a text reads as can be computed and compared
with what it should read as. Values are trees with lists of trees in them, and the comparison
follows them: `same` for two values, `sameItems` for two lists of values and `sameEntries` for two
tables, each by recursion on the first.

`same_iff` says that the comparison is equality, by one induction over the three kinds of lists and
trees, and the instance rests on it.
-/

namespace EgressWatch.Toml

mutual

/-- Two values are the same. -/
def same : Toml → Toml → Bool
  | .text s, .text t => s == t
  | .integer m, .integer n => m == n
  | .real x, .real y => decide (x = y)
  | .flag a, .flag b => a == b
  | .moment s, .moment t => s == t
  | .list vs, .list ws => sameItems vs ws
  | .table es, .table fs => sameEntries es fs
  | _, _ => false

/-- The items of two lists are the same, one by one. -/
def sameItems : List Toml → List Toml → Bool
  | [], [] => true
  | v :: vs, w :: ws => same v w && sameItems vs ws
  | _, _ => false

/-- The entries of two tables are the same, one by one. -/
def sameEntries : List (String × Toml) → List (String × Toml) → Bool
  | [], [] => true
  | (key, v) :: es, (key', w) :: fs => key == key' && same v w && sameEntries es fs
  | _, _ => false

end

mutual

theorem same_iff (v w : Toml) : same v w = true ↔ v = w := by
  cases v with
  | list vs => cases w <;> simp [same, sameItems_iff vs]
  | table es => cases w <;> simp [same, sameEntries_iff es]
  | _ => cases w <;> simp [same]

theorem sameItems_iff (vs ws : List Toml) : sameItems vs ws = true ↔ vs = ws := by
  cases vs with
  | nil => cases ws <;> simp [sameItems]
  | cons v vs => cases ws <;> simp [sameItems, same_iff v, sameItems_iff vs]

theorem sameEntries_iff (es fs : List (String × Toml)) : sameEntries es fs = true ↔ es = fs := by
  cases es with
  | nil => cases fs <;> simp [sameEntries]
  | cons e es =>
    obtain ⟨key, v⟩ := e
    cases fs with
    | nil => simp [sameEntries]
    | cons f fs =>
      obtain ⟨key', w⟩ := f
      simp [sameEntries, same_iff v, sameEntries_iff es]

end

instance : DecidableEq Toml := fun v w => decidable_of_iff _ (same_iff v w)

end EgressWatch.Toml
