/-!
# Sorted texts without repetition

Texts are put into ascending order, each once.
-/

namespace ConfigWiring
namespace Text

/-- Put a text into an ascending list unless it is there. -/
def insertSorted (text : String) : List String -> List String
  | [] => [text]
  | first :: rest =>
      if text < first then text :: first :: rest
      else if text = first then first :: rest
      else first :: insertSorted text rest

/-- The texts of a list in ascending order, each once. -/
def sortedSet (texts : List String) : List String := texts.foldr insertSorted []

@[simp] theorem mem_insertSorted {text other : String} {texts : List String} :
    other ∈ insertSorted text texts ↔ other = text ∨ other ∈ texts := by
  induction texts with
  | nil => simp [insertSorted]
  | cons first rest ih =>
      rw [insertSorted]
      split
      · simp
      · split
        · next same => simp [same]
        · simp only [List.mem_cons, ih]
          constructor
          · rintro (here | here | here)
            · exact .inr (.inl here)
            · exact .inl here
            · exact .inr (.inr here)
          · rintro (here | here | here)
            · exact .inr (.inl here)
            · exact .inl here
            · exact .inr (.inr here)

@[simp] theorem mem_sortedSet {text : String} {texts : List String} :
    text ∈ sortedSet texts ↔ text ∈ texts := by
  induction texts with
  | nil => simp [sortedSet]
  | cons first rest ih => simpa [sortedSet] using or_congr Iff.rfl ih

end Text
end ConfigWiring
