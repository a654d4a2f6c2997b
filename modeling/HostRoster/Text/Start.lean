/-!
# Starts of texts

What follows an expected start of a text. Nothing follows a start that is not there.
-/

namespace HostRoster.Text

/-- The characters after an expected start. -/
def after? : List Char → List Char → Option (List Char)
  | [], cs => some cs
  | _ :: _, [] => none
  | e :: es, c :: cs => if e = c then after? es cs else none

/-- A start is followed by what completes it. -/
theorem after?_eq_some_iff {es cs rest : List Char} :
    after? es cs = some rest ↔ cs = es ++ rest := by
  induction es generalizing cs with
  | nil => simp [after?]
  | cons e es ih =>
    cases cs with
    | nil => simp [after?]
    | cons c cs => by_cases h : e = c <;> simp [after?, h, ih, eq_comm]

end HostRoster.Text
