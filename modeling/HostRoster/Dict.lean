/-!
# Dictionaries

A finite map from texts to values, kept as its entries in ascending order of keys. The order of
texts is by code points, which is also the order of their UTF-8 bytes. Two dictionaries with the
same look-ups are equal, so equality of dictionaries is equality of maps.
-/

namespace HostRoster

/-- A finite map whose entries stand in ascending order of keys. -/
structure Dict (α : Type) where
  /-- The entries. -/
  entries : List (String × α)
  /-- Keys ascend strictly, so none repeats. -/
  ascending : entries.Pairwise fun a b => a.1 < b.1
  deriving DecidableEq, Repr

namespace Dict

variable {α β : Type}

/-- The map without entries. -/
def empty : Dict α := ⟨[], .nil⟩

instance : Inhabited (Dict α) := ⟨empty⟩

/-- The value of the first entry with a key. -/
def lookup (k : String) : List (String × α) → Option α
  | [] => none
  | e :: rest => if e.1 = k then some e.2 else lookup k rest

/-- Ascending entries with one more, in the place of an entry with the same key if there is one. -/
def put (k : String) (v : α) : List (String × α) → List (String × α)
  | [] => [(k, v)]
  | e :: rest =>
    if e.1 = k then (k, v) :: rest
    else if k < e.1 then (k, v) :: e :: rest
    else e :: put k v rest

/-- Every entry after an insertion is the new one or was there before. -/
theorem mem_put {k : String} {v : α} {l : List (String × α)} {e : String × α}
    (h : e ∈ put k v l) : e = (k, v) ∨ e ∈ l := by
  induction l with
  | nil => simpa [put] using h
  | cons d rest ih => grind [put]

/-- Of two texts neither of which is smaller, each is the other. -/
theorem lt_of_not_lt_of_ne {a b : String} (h : ¬ a < b) (hne : b ≠ a) : b < a := by
  rcases String.le_total a b with hle | hle
  · exact absurd (String.le_antisymm hle (String.not_lt.mp h)) (Ne.symm hne)
  · exact Classical.byContradiction fun hn => hne (String.le_antisymm hle (String.not_lt.mp hn))

/-- Insertion keeps the order. -/
theorem ascending_put (k : String) (v : α) {l : List (String × α)}
    (h : l.Pairwise fun a b => a.1 < b.1) : (put k v l).Pairwise fun a b => a.1 < b.1 := by
  induction l with
  | nil => simp [put]
  | cons d rest ih =>
    obtain ⟨hd, hrest⟩ := List.pairwise_cons.mp h
    unfold put
    split
    · next heq => exact List.pairwise_cons.mpr ⟨fun a ha => heq ▸ hd a ha, hrest⟩
    split
    · next hne hlt =>
      refine List.pairwise_cons.mpr ⟨fun a ha => ?_, h⟩
      rcases List.mem_cons.mp ha with rfl | ha
      · exact hlt
      · exact String.lt_trans hlt (hd a ha)
    · next hne hlt =>
      refine List.pairwise_cons.mpr ⟨fun a ha => ?_, ih hrest⟩
      rcases mem_put ha with rfl | ha
      · exact lt_of_not_lt_of_ne hlt hne
      · exact hd a ha

/-- The value under a key. -/
def get? (d : Dict α) (k : String) : Option α := lookup k d.entries

/-- Whether there is a value under a key. -/
def contains (d : Dict α) (k : String) : Bool := (d.get? k).isSome

/-- The map with a value under a key, in place of any value there. -/
def insert (d : Dict α) (k : String) (v : α) : Dict α :=
  ⟨put k v d.entries, ascending_put k v d.ascending⟩

/-- The map without a key. -/
def erase (d : Dict α) (k : String) : Dict α :=
  ⟨d.entries.filter fun e => e.1 ≠ k, d.ascending.filter _⟩

/-- The keys, ascending. -/
def keys (d : Dict α) : List String := d.entries.map Prod.fst

/-- The values, in ascending order of their keys. -/
def values (d : Dict α) : List α := d.entries.map Prod.snd

/-- The number of entries. -/
def size (d : Dict α) : Nat := d.entries.length

/-- Whether there is no entry. -/
def isEmpty (d : Dict α) : Bool := d.entries.isEmpty

/-- The map of a list of pairs; of pairs with one key the last counts. -/
def ofList (l : List (String × α)) : Dict α := l.foldl (fun d e => d.insert e.1 e.2) empty

/-- Look-up in entries after an insertion. -/
theorem lookup_put (k j : String) (v : α) (l : List (String × α)) :
    lookup j (put k v l) = if k = j then some v else lookup j l := by
  induction l with
  | nil => simp [put, lookup]
  | cons d rest ih => grind [put, lookup]

/-- The value just stored is found, and other keys are not affected. -/
theorem get?_insert (d : Dict α) (k j : String) (v : α) :
    (d.insert k v).get? j = if k = j then some v else d.get? j :=
  lookup_put k j v d.entries

/-- The value under a key, if any, stands in the entries. -/
theorem lookup_eq_some_iff {l : List (String × α)} (h : l.Pairwise fun a b => a.1 < b.1)
    {k : String} {v : α} : lookup k l = some v ↔ (k, v) ∈ l := by
  induction l with
  | nil => simp [lookup]
  | cons d rest ih =>
    obtain ⟨hd, hrest⟩ := List.pairwise_cons.mp h
    unfold lookup
    split
    · next heq =>
      subst heq
      constructor
      · rintro ⟨⟩
        exact List.mem_cons_self
      · intro hm
        rcases List.mem_cons.mp hm with he | hm
        · exact congrArg (fun e => some e.2) he.symm
        · exact absurd (hd _ hm) (String.lt_irrefl _)
    · next hne =>
      rw [ih hrest, List.mem_cons]
      exact ⟨Or.inr, fun hm => hm.resolve_left fun he => hne (congrArg Prod.fst he).symm⟩

/-- Look-up finds exactly the entries. -/
theorem get?_eq_some_iff {d : Dict α} {k : String} {v : α} :
    d.get? k = some v ↔ (k, v) ∈ d.entries :=
  lookup_eq_some_iff d.ascending

/-- Keys that ascend strictly do not repeat. -/
theorem nodup_of_ascending {l : List (String × α)} (h : l.Pairwise fun a b => a.1 < b.1) :
    l.Nodup :=
  h.imp fun {a b} (hlt : a.1 < b.1) (heq : a = b) =>
    String.lt_irrefl b.1 (by rw [heq] at hlt; exact hlt)

/-- Dictionaries with the same look-ups are equal. -/
theorem eq_of_get?_eq {d e : Dict α} (h : ∀ k, d.get? k = e.get? k) : d = e := by
  have hmem : ∀ x, x ∈ d.entries ↔ x ∈ e.entries := fun x => by
    rw [← get?_eq_some_iff, ← get?_eq_some_iff, h]
  have hperm : d.entries.Perm e.entries :=
    (List.perm_ext_iff_of_nodup (nodup_of_ascending d.ascending)
      (nodup_of_ascending e.ascending)).mpr hmem
  have hentries : d.entries = e.entries :=
    hperm.eq_of_pairwise
      (fun _ _ _ _ hab hba => absurd (String.lt_trans hab hba) (String.lt_irrefl _))
      d.ascending e.ascending
  cases d
  cases e
  cases hentries
  rfl

end Dict

/-- A finite set of texts. -/
abbrev Keys := Dict Unit

/-- The set with one more text. -/
def Keys.add (s : Keys) (k : String) : Keys := s.insert k ()

end HostRoster
