/-!
# Cutting texts

The pieces of a text between separators. A text of `n` separators has `n + 1` pieces, of which any may be
empty.
-/

namespace GuestHost.Text

/-- Puts a character in front of a text that is cut already. -/
def consPiece (sep : Char → Bool) (c : Char) : List (List Char) → List (List Char)
  | [] => [[c]]
  | piece :: rest => if sep c then [] :: piece :: rest else (c :: piece) :: rest

/-- The pieces of a text between the characters for which `sep` holds. -/
def split (sep : Char → Bool) (s : List Char) : List (List Char) := s.foldr (consPiece sep) [[]]

theorem split_ne_nil (sep : Char → Bool) (s : List Char) : split sep s ≠ [] := by
  induction s with
  | nil => simp [split]
  | cons c s ih =>
    have h : split sep (c :: s) = consPiece sep c (split sep s) := rfl
    rw [h]
    cases hs : split sep s with
    | nil => exact absurd hs ih
    | cons piece rest =>
      rw [consPiece]
      split <;> simp

end GuestHost.Text
