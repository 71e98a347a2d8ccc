/-!
# Sorted tables of code point ranges

A character property of the Unicode standard is held as an increasing list of
inclusive code point ranges.  Membership stops at the first range that begins
above the character, so characters near the start of a table are found at once.
-/

namespace ConfigWiring
namespace Text

/-- Inclusive code point ranges in increasing order. -/
abbrev RangeTable := List (Nat × Nat)

namespace RangeTable

/-- Whether a code point lies in one of the ranges of an increasing table. -/
def contains : RangeTable -> Nat -> Bool
  | [], _ => false
  | (low, high) :: rest, code =>
      if code < low then false
      else if code ≤ high then true
      else contains rest code

@[simp] theorem contains_nil (code : Nat) : contains [] code = false := rfl

theorem contains_cons_of_lt
    {low high code : Nat} {rest : RangeTable} (below : code < low) :
    contains ((low, high) :: rest) code = false := by
  simp [contains, below]

end RangeTable
end Text
end ConfigWiring
