import HostRoster.Text.Start

/-!
# Variables

An environment is a row of texts, each the name of a variable, an equals sign and its value. The
value of a variable is what follows its name and an equals sign in the first text that starts with
them. So a name with an equals sign, which no variable has, finds the end of a value.
-/

namespace HostRoster.Environment

/-- Variables with their values, in the order of their texts. -/
abbrev Variables := List (String × String)

/-- The value of a name in the text of a variable. -/
def valueIn? (name : String) (v : String × String) : Option String :=
  (Text.after? (name.toList ++ ['=']) (v.1.toList ++ '=' :: v.2.toList)).map String.ofList

/-- The value of a variable; the empty name has none. -/
def Variables.value? (vs : Variables) (name : String) : Option String :=
  if name.isEmpty then none else vs.findSome? (valueIn? name)

/-- The first equals sign splits a text in one way. -/
theorem equals_split {n k v w : List Char} (hn : '=' ∉ n) (hk : '=' ∉ k) :
    k ++ '=' :: w = n ++ '=' :: v ↔ k = n ∧ w = v := by
  induction n generalizing k with
  | nil => cases k <;> simp_all [eq_comm]
  | cons a n ih =>
    cases k with
    | nil => simp_all
    | cons c k =>
      have := ih (fun h => hn (List.mem_cons_of_mem _ h)) (fun h => hk (List.mem_cons_of_mem _ h))
      simp [this, and_assoc]

/-- A text gives a value to its own name only, if neither name has an equals sign. -/
theorem valueIn?_eq {name : String} {v : String × String} (hn : '=' ∉ name.toList)
    (hv : '=' ∉ v.1.toList) : valueIn? name v = if name = v.1 then some v.2 else none := by
  apply Option.ext
  intro s
  simp only [valueIn?, Option.map_eq_some_iff, Text.after?_eq_some_iff, List.append_assoc,
    List.cons_append, List.nil_append, equals_split hn hv]
  constructor
  · rintro ⟨rest, ⟨hname, rfl⟩, rfl⟩
    simp [String.toList_inj.mp hname]
  · intro h
    split at h
    · next hname =>
      cases h
      exact ⟨v.2.toList, by simp [hname]⟩
    · cases h

/-- A variable is found by its name, if no name has an equals sign. -/
theorem Variables.value?_eq_lookup {vs : Variables} {name : String} (h : name ≠ "")
    (hn : '=' ∉ name.toList) (hv : ∀ v ∈ vs, '=' ∉ v.1.toList) :
    vs.value? name = vs.lookup name := by
  rw [value?, if_neg (by simpa using h)]
  induction vs with
  | nil => rfl
  | cons v vs ih =>
    rw [List.findSome?_cons, valueIn?_eq hn (hv v List.mem_cons_self), List.lookup_cons,
      ih fun u hu => hv u (List.mem_cons_of_mem _ hu)]
    by_cases e : name = v.1
    · simp [e]
    · simp [e, beq_false_of_ne e]

end HostRoster.Environment
