/-!
# Supplies of texts

New ids come from a supply: an endless sequence of texts, of which some were handed out.
-/

namespace HostRoster

/-- An endless sequence of texts and a place in it. -/
structure Supply where
  /-- The texts. -/
  text : Nat → String
  /-- The number of texts handed out. -/
  used : Nat

namespace Supply

/-- The next text. -/
def next (s : Supply) : String := s.text s.used

/-- The supply without the next text. -/
def rest (s : Supply) : Supply := { s with used := s.used + 1 }

/-- The texts of a list, followed by numbered ones. -/
def ofList (given : List String) (numbered : Nat → String) : Supply :=
  ⟨fun n => (given[n]?).getD (numbered (n - given.length)), 0⟩

end Supply

end HostRoster
