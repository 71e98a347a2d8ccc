import ConfigWiring.Text.RangeTable

/-!
# Blank characters

The blank characters are those with the Unicode property `White_Space`.
Trimming removes them from the ends of a text and nothing from its middle.
-/

namespace ConfigWiring
namespace Text

/-- Code points with the property `White_Space`. -/
def blankRanges : RangeTable :=
  [
    (0x9, 0xD), (0x20, 0x20), (0x85, 0x85), (0xA0, 0xA0), (0x1680, 0x1680),
    (0x2000, 0x200A), (0x2028, 0x2029), (0x202F, 0x202F), (0x205F, 0x205F),
    (0x3000, 0x3000)
  ]

/-- Whether a character is blank: a space, a line break or another separator. -/
def isBlank (char : Char) : Bool := blankRanges.contains char.toNat

/-- The text without its leading blanks. -/
def trimStart (text : List Char) : List Char := text.dropWhile isBlank

/-- The text without the trailing characters that satisfy a test. -/
def dropEndWhile (test : Char -> Bool) (text : List Char) : List Char :=
  (text.reverse.dropWhile test).reverse

/-- The text without its trailing blanks. -/
def trimEnd (text : List Char) : List Char := dropEndWhile isBlank text

/-- The text without the blanks at either end. -/
def trim (text : List Char) : List Char := trimEnd (trimStart text)

/-- A string without the blanks at either end. -/
def trimString (text : String) : String := String.ofList (trim text.toList)

@[simp] theorem trimStart_nil : trimStart [] = [] := rfl

@[simp] theorem trimEnd_nil : trimEnd [] = [] := rfl

theorem subset_of_trimStart (text : List Char) : trimStart text ⊆ text :=
  (List.dropWhile_sublist isBlank).subset

theorem subset_of_trimEnd (text : List Char) : trimEnd text ⊆ text := by
  intro char present
  rw [trimEnd, dropEndWhile, List.mem_reverse] at present
  exact List.mem_reverse.1 ((List.dropWhile_sublist isBlank).subset present)

theorem isBlank_of_isWhitespace {char : Char} (white : char.isWhitespace = true) :
    isBlank char = true := by
  simp only [Char.isWhitespace, Bool.or_eq_true, decide_eq_true_eq] at white
  rcases white with ((white | white) | white) | white <;> subst white <;> decide

end Text
end ConfigWiring
