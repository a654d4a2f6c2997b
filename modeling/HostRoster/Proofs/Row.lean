import HostRoster.Proofs.KeyedList

/-!
# Rows

A keyed list kept as a row of contents, with a dictionary that says in which place of the row the
content of a key stands. The content of a key that has a place is overwritten there, which cannot be
done if the row is too short. It never is.
-/

namespace HostRoster

/-- Contents in a row, with the places of their keys. -/
structure Row (α : Type) where
  /-- The contents. -/
  contents : List α
  /-- The place of each key, counted from zero. -/
  places : Dict Nat

namespace Row

variable {α : Type} {row : Row α} {done : KeyedList α} {k : String} {v : α} {i : Nat}

/-- Nothing in a row. -/
def empty : Row α := ⟨[], .empty⟩

/-- The row with another content in a place, unless it has no such place. -/
def replace? (row : Row α) (i : Nat) (v : α) : Option (Row α) :=
  if i < row.contents.length then some { row with contents := row.contents.set i v } else none

/-- The row with a content for a key in a new place at the end. -/
def add (row : Row α) (k : String) (v : α) : Row α :=
  ⟨row.contents ++ [v], row.places.insert k row.contents.length⟩

/-- The row with a content for a key: in the place of the key, or in a new one. -/
def put? (row : Row α) (k : String) (v : α) : Option (Row α) :=
  match row.places.get? k with
  | some i => row.replace? i v
  | none => some (row.add k v)

/-- The row of pairs that are put one after the other. -/
def ofPairs? (l : List (String × α)) : Option (Row α) :=
  l.foldlM (fun row e => row.put? e.1 e.2) empty

/-- The content of a key is overwritten in the place of the key. -/
theorem contents_put_of_idxOf? (h : done.names.idxOf? k = some i) (v : α) :
    i < done.contents.length ∧ (done.put k v).contents = done.contents.set i v := by
  induction done generalizing i with
  | nil => cases h
  | cons e rest ih =>
    rw [KeyedList.names, List.map_cons, List.idxOf?_cons] at h
    rw [KeyedList.put, KeyedList.contents, List.map_cons, ← KeyedList.contents]
    by_cases hek : e.1 = k
    · rw [if_pos (beq_iff_eq.mpr hek)] at h
      obtain rfl := Option.some.inj h
      rw [if_pos hek]
      exact ⟨Nat.succ_pos _, rfl⟩
    · rw [if_neg (mt beq_iff_eq.mp hek)] at h
      obtain ⟨j, hj, rfl⟩ := Option.map_eq_some_iff.mp h
      obtain ⟨hlt, hput⟩ := ih hj
      rw [if_neg hek, List.set_cons_succ, ← hput]
      exact ⟨Nat.succ_lt_succ hlt, rfl⟩

/-- A new key has the place at the end. -/
theorem idxOf?_concat {names : List String} (h : k ∉ names) (j : String) :
    (names ++ [k]).idxOf? j = if k = j then some names.length else names.idxOf? j := by
  rw [List.idxOf?, List.findIdx?_append, ← List.idxOf?]
  by_cases hkj : k = j
  · subst hkj
    rw [if_pos rfl, List.idxOf?_eq_none_iff.mpr h]
    simp
  · rw [if_neg hkj]
    simp [hkj]

/-- A row that keeps a keyed list. -/
structure Keeps (row : Row α) (done : KeyedList α) : Prop where
  /-- The contents are the same. -/
  contents : row.contents = done.contents
  /-- Each key has the place of its content. -/
  places (k : String) : row.places.get? k = done.names.idxOf? k

theorem keeps_empty : (empty : Row α).Keeps [] := ⟨rfl, fun _ => rfl⟩

/-- The place of a key is one of the row, and overwriting it leaves the key where it was. -/
theorem Keeps.replace (h : row.Keeps done) (hk : done.names.idxOf? k = some i) (v : α) :
    ∃ row', row.replace? i v = some row' ∧ row'.Keeps (done.put k v) := by
  obtain ⟨hlt, hput⟩ := contents_put_of_idxOf? hk v
  have hmem : k ∈ done.names := by
    by_contra hnot
    rw [List.idxOf?_eq_none_iff.mpr hnot] at hk
    cases hk
  refine ⟨{ row with contents := row.contents.set i v }, ?_, ?_, ?_⟩
  · rw [replace?, h.contents, if_pos hlt]
  · rw [hput, ← h.contents]
  · rw [KeyedList.names_put, if_pos hmem]
    exact h.places

/-- A new key goes to the end of both. -/
theorem Keeps.add (h : row.Keeps done) (hnew : k ∉ done.names) (v : α) :
    (row.add k v).Keeps (done.put k v) where
  contents := by
    rw [KeyedList.put_of_not_mem hnew, Row.add, h.contents, KeyedList.contents,
      KeyedList.contents, List.map_append, List.map_singleton]
  places j := by
    have hlength : row.contents.length = done.names.length := by
      rw [h.contents, KeyedList.contents, KeyedList.names, List.length_map, List.length_map]
    rw [KeyedList.names_put, if_neg hnew, idxOf?_concat hnew, Row.add, Dict.get?_insert, h.places,
      hlength]

/-- A content can be put for any key. -/
theorem Keeps.put (h : row.Keeps done) (k : String) (v : α) :
    ∃ row', row.put? k v = some row' ∧ row'.Keeps (done.put k v) := by
  rw [put?, h.places]
  cases hk : done.names.idxOf? k with
  | some i => exact h.replace hk v
  | none => exact ⟨row.add k v, rfl, h.add (List.idxOf?_eq_none_iff.mp hk) v⟩

/-- Any pairs can be put one after the other, and the row keeps their keyed list. -/
theorem exists_ofPairs? (l : List (String × α)) :
    ∃ row, ofPairs? l = some row ∧ row.Keeps (KeyedList.ofPairs l) := by
  induction l using List.reverseRecOn with
  | nil => exact ⟨empty, rfl, keeps_empty⟩
  | append_singleton l e ih =>
    obtain ⟨row, hrow, hkeeps⟩ := ih
    obtain ⟨row', hput, hkeeps'⟩ := hkeeps.put e.1 e.2
    refine ⟨row', ?_, ?_⟩
    · rw [ofPairs?, List.foldlM_append, ← ofPairs?, hrow]
      simpa using hput
    · rw [KeyedList.ofPairs_concat]
      exact hkeeps'

/-- A row made of pairs has the contents of the keyed list made of them. -/
theorem contents_ofPairs? (l : List (String × α)) :
    (ofPairs? l).map contents = some (KeyedList.ofPairs l).contents := by
  obtain ⟨row, hrow, hkeeps⟩ := exists_ofPairs? l
  rw [hrow, Option.map_some, hkeeps.contents]

end Row

end HostRoster
