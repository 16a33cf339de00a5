/-!
# Searching ascending tables

`countUpTo` finds by halving where a number falls in a table whose keys ascend. The character tables
of this library are kept as such tables.
-/

namespace HotReload.Text

/-- The number of elements of `table` from the front whose key is at most `n`, for ascending keys. -/
def countUpTo (key : α → Nat) (table : Array α) (n : Nat) : Nat :=
  go 0 table.size
where
  /-- The boundary sought lies between `low` and `high`. -/
  go (low high : Nat) : Nat :=
    if low < high then
      let middle := (low + high) / 2
      match table[middle]? with
      | some entry => if key entry ≤ n then go (middle + 1) high else go low middle
      | none => low
    else low
  termination_by high - low

/-- The last element of `table` whose key is at most `n`, for ascending keys. -/
def lastUpTo? (key : α → Nat) (table : Array α) (n : Nat) : Option α :=
  match countUpTo key table n with
  | 0 => none
  | count + 1 => table[count]?

/-- A set of characters, given by the code points at which membership changes. -/
structure CharSet where
  /-- Code points in ascending order; the set starts at the first, stops before the second, and so on. -/
  boundaries : Array Nat

/-- A character is in the set if an odd number of boundaries lie at or before it. -/
def CharSet.contains (set : CharSet) (c : Char) : Bool :=
  countUpTo id set.boundaries c.toNat % 2 == 1

end HotReload.Text
