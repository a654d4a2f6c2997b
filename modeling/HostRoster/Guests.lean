import HostRoster.Text.Lowercase

/-!
# Guest lists

The difference between the guests that are stored for a host and those that were reported, compared
without regard to case and order. The reported list replaces the stored one if they differ.
-/

namespace HostRoster

/-- What distinguishes a reported list of guests from the stored one. -/
structure GuestDiff where
  /-- Reported but not stored. -/
  additions : List String
  /-- Stored but not reported. -/
  removals : List String
  /-- Stored in another spelling; in the reported spelling. -/
  respelled : List String
  deriving DecidableEq, Repr

namespace GuestDiff

/-- No difference. -/
def none : GuestDiff := ⟨[], [], []⟩

/-- Whether there is no difference. -/
def isEmpty (d : GuestDiff) : Bool :=
  d.additions.isEmpty && d.removals.isEmpty && d.respelled.isEmpty

/-- Guests with what their spellings are compared by. -/
def keyed (guests : List String) : List (String × String) := guests.map fun g => (Text.lower g, g)

/-- The last spelling of a guest in a list. -/
def spelling? (guests : List (String × String)) (key : String) : Option String :=
  (guests.findRev? fun g => g.1 == key).map Prod.snd

/-- The difference between a stored list and a reported one. -/
def between (stored reported : List String) : GuestDiff :=
  let stored := keyed stored
  let reported := keyed reported
  { additions := (reported.filter fun g => (spelling? stored g.1).isNone).map Prod.snd
    removals := (stored.filter fun g => (spelling? reported g.1).isNone).map Prod.snd
    respelled := (reported.filter fun g => (spelling? stored g.1).any (· != g.2)).map Prod.snd }

end GuestDiff

/-- The list to store in place of another, and what changed. -/
def replaceGuests (stored reported : List String) : List String × GuestDiff :=
  let d := GuestDiff.between stored reported
  (if d.isEmpty then stored else reported, d)

end HostRoster
