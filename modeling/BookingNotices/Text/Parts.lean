/-!
# Parts of a text

* `parts` : what stands before, between and behind the separators of a text (`parts_ne_nil`).
-/

namespace BookingNotices.Text

/-- What stands before, between and behind the separators of a text, in order. -/
def parts (separator : Char) : List Char → List (List Char)
  | [] => [[]]
  | c :: cs =>
    if c = separator then [] :: parts separator cs
    else
      match parts separator cs with
      | [] => [[c]]
      | part :: rest => (c :: part) :: rest

theorem parts_ne_nil (separator : Char) (cs : List Char) : parts separator cs ≠ [] := by
  cases cs with
  | nil => simp [parts]
  | cons c cs =>
    simp only [parts]
    split
    · simp
    · split <;> simp

end BookingNotices.Text
