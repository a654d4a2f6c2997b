/-!
# Keyed lists

Entries in the order in which their keys are first mentioned. A key mentioned again keeps its place
and takes the later content.
-/

namespace HostRoster

/-- Entries in the order of their keys' first mention. -/
abbrev KeyedList (α : Type) := List (String × α)

namespace KeyedList

variable {α : Type}

/-- The entries with a value under a key: in the place of the entry with this key, or at the end. -/
def put (k : String) (v : α) : KeyedList α → KeyedList α
  | [] => [(k, v)]
  | e :: rest => if e.1 = k then (k, v) :: rest else e :: put k v rest

/-- The value under a key. -/
def find? (k : String) : KeyedList α → Option α
  | [] => none
  | e :: rest => if e.1 = k then some e.2 else find? k rest

/-- The entries of pairs mentioned one after the other. -/
def ofPairs (l : List (String × α)) : KeyedList α := l.foldl (fun done e => put e.1 e.2 done) []

/-- The contents. -/
def contents (l : KeyedList α) : List α := l.map Prod.snd

/-- The keys. -/
def names (l : KeyedList α) : List String := l.map Prod.fst

/-- The value just put is found, and other keys are not affected. -/
theorem find?_put (k j : String) (v : α) (l : KeyedList α) :
    find? j (put k v l) = if k = j then some v else find? j l := by
  induction l with
  | nil => simp [put, find?]
  | cons d rest ih => grind [put, find?]

/-- A key that is there keeps its place, and a new one goes to the end. -/
theorem names_put (k : String) (v : α) (l : KeyedList α) :
    names (put k v l) = if k ∈ names l then names l else names l ++ [k] := by
  induction l with
  | nil => simp [put, names]
  | cons d rest ih => grind [put, names]

end KeyedList

end HostRoster
