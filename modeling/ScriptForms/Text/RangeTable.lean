/-!
# Tables of code point ranges

A character property is a list of closed ranges of code points, in increasing order. A character has
the property when some range holds its code point.
-/

namespace ScriptForms

/-- Closed ranges of code points. -/
abbrev RangeTable := List (Nat × Nat)

/-- Whether some range of the table holds the code point of `c`. -/
def RangeTable.contains (table : RangeTable) (c : Char) : Bool :=
  table.any fun range ↦ range.1 ≤ c.toNat && c.toNat ≤ range.2

@[simp]
theorem RangeTable.contains_nil (c : Char) : RangeTable.contains [] c = false :=
  rfl

/-- A table is asked range by range. -/
@[simp]
theorem RangeTable.contains_cons (range : Nat × Nat) (table : RangeTable) (c : Char) :
    RangeTable.contains (range :: table) c =
      ((decide (range.1 ≤ c.toNat) && decide (c.toNat ≤ range.2)) ||
        RangeTable.contains table c) :=
  rfl

end ScriptForms
