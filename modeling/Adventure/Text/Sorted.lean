/-!
# Sets of texts

A set of texts is kept as a list in increasing order without repetitions, so equal sets are equal
lists.
-/

namespace Adventure.Text

/-- The sorted list with one more text, which stays the only one of its kind. -/
def insertSorted (s : String) : List String → List String
  | [] => [s]
  | t :: rest =>
    if s < t then s :: t :: rest else if s = t then t :: rest else t :: insertSorted s rest

/-- The texts in increasing order, each of them once. -/
def sortedSet (texts : List String) : List String := texts.foldr insertSorted []

/-- The sorted list with one more text, also where it occurs already. -/
def insertRepeated (s : String) : List String → List String
  | [] => [s]
  | t :: rest => if t < s then t :: insertRepeated s rest else s :: t :: rest

/-- The texts in increasing order. -/
def sorted (texts : List String) : List String := texts.foldr insertRepeated []

theorem mem_insertSorted (s t : String) :
    ∀ texts : List String, t ∈ insertSorted s texts ↔ t = s ∨ t ∈ texts
  | [] => by simp [insertSorted]
  | u :: rest => by
    simp only [insertSorted]
    split
    · simp
    · split
      · rename_i h
        subst h
        simp
      · simp [mem_insertSorted s t rest, or_left_comm]

/-- A set has the same texts as the list that it was made of. -/
theorem mem_sortedSet (t : String) : ∀ texts : List String, t ∈ sortedSet texts ↔ t ∈ texts
  | [] => by simp [sortedSet]
  | s :: rest => by
    have ih := mem_sortedSet t rest
    simp only [sortedSet, List.foldr_cons] at ih ⊢
    rw [mem_insertSorted, ih, List.mem_cons]

end Adventure.Text
