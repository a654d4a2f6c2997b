import Mathlib.Data.List.Forall2

/-!
# Answers that may be errors

When a sequence of steps that may fail comes to a result.
-/

namespace HostRoster.Answers

variable {ε α β : Type}

/-- Answers that are one error, or results that correspond. -/
inductive Rel (R : α → β → Prop) : Except ε α → Except ε β → Prop where
  /-- Both come to a result. -/
  | ok {a : α} {b : β} (h : R a b) : Rel R (.ok a) (.ok b)
  /-- Both fail in the same way. -/
  | error (e : ε) : Rel R (.error e) (.error e)

/-- Answers that are one result, or errors that correspond. -/
inductive Same (E : ε → ε → Prop) : Except ε α → Except ε α → Prop where
  /-- Both come to the same result. -/
  | ok (a : α) : Same E (.ok a) (.ok a)
  /-- Both fail. -/
  | error {e e' : ε} (h : E e e') : Same E (.error e) (.error e')

/-- A result may be changed on both sides. -/
theorem Same.map {E : ε → ε → Prop} {x y : Except ε α} (h : Same E x y) (f : α → β) :
    Same E (x.map f) (y.map f) := by
  cases h with
  | ok a => exact .ok (f a)
  | error he => exact .error he

theorem Same.mapError {ε' : Type} {E : ε → ε → Prop} {E' : ε' → ε' → Prop} {x y : Except ε α}
    (h : Same E x y) {g : ε → ε'} (hg : ∀ {e e'}, E e e' → E' (g e) (g e')) :
    Same E' (x.mapError g) (y.mapError g) := by
  cases h with
  | ok a => exact .ok a
  | error he => exact .error (hg he)

/-- Where one side comes to a result, so does the other. -/
theorem Same.eq_ok {E : ε → ε → Prop} {a : α} {y : Except ε α} (h : Same E (.ok a) y) :
    y = .ok a := by
  cases h with
  | ok => rfl

/-- A changed result was a result before. -/
theorem map_eq_ok_iff {x : Except ε α} {f : α → β} {b : β} :
    x.map f = .ok b ↔ ∃ a, x = .ok a ∧ f a = b := by
  cases x with
  | error e => exact ⟨fun h => (by cases h), fun ⟨_, h, _⟩ => (by cases h)⟩
  | ok a =>
    constructor
    · rintro ⟨⟩
      exact ⟨a, rfl, rfl⟩
    · rintro ⟨_, ⟨⟩, rfl⟩
      rfl

/-- Changing the result leaves errors as they are. -/
theorem map_eq_error_iff {x : Except ε α} {f : α → β} {e : ε} :
    x.map f = .error e ↔ x = .error e := by
  cases x with
  | error _ =>
    constructor
    · rintro ⟨⟩
      rfl
    · rintro ⟨⟩
      rfl
  | ok _ => exact ⟨fun h => (by cases h), fun h => (by cases h)⟩

/-- Two steps come to a result if both of them do. -/
theorem bind_eq_ok_iff {x : Except ε α} {f : α → Except ε β} {b : β} :
    x >>= f = .ok b ↔ ∃ a, x = .ok a ∧ f a = .ok b := by
  cases x with
  | error e => exact ⟨fun h => (by cases h), fun ⟨_, h, _⟩ => (by cases h)⟩
  | ok a =>
    constructor
    · exact fun h => ⟨a, rfl, h⟩
    · rintro ⟨_, ⟨⟩, h⟩
      exact h

/-- A pass over a list comes to the results for its members. -/
theorem mapM_eq_ok_iff {f : α → Except ε β} {l : List α} {m : List β} :
    l.mapM f = .ok m ↔ List.Forall₂ (fun a b => f a = .ok b) l m := by
  induction l generalizing m with
  | nil =>
    rw [List.mapM_nil, List.forall₂_nil_left_iff]
    exact ⟨fun h => (Except.ok.inj h).symm, fun h => congrArg _ h.symm⟩
  | cons a l ih =>
    rw [List.mapM_cons, List.forall₂_cons_left_iff, bind_eq_ok_iff]
    constructor
    · rintro ⟨b, ha, h⟩
      obtain ⟨m', hl, ⟨⟩⟩ := bind_eq_ok_iff.mp h
      exact ⟨b, m', ha, ih.mp hl, rfl⟩
    · rintro ⟨b, m', ha, hl, rfl⟩
      exact ⟨b, ha, bind_eq_ok_iff.mpr ⟨m', ih.mpr hl, rfl⟩⟩

/-- A pass over a list fails at the first member for which there is no result. -/
theorem mapM_eq_error_iff {f : α → Except ε β} {l : List α} {e : ε} :
    l.mapM f = .error e ↔
      ∃ before a after, l = before ++ a :: after ∧ (∀ b ∈ before, ∃ c, f b = .ok c) ∧
        f a = .error e := by
  induction l with
  | nil =>
    rw [List.mapM_nil]
    exact ⟨fun h => (by cases h), fun ⟨_, _, _, h, _⟩ => absurd h.symm (by simp)⟩
  | cons a l ih =>
    rw [List.mapM_cons]
    constructor
    · intro h
      cases ha : f a with
      | error e' =>
        rw [ha] at h
        cases h
        exact ⟨[], a, l, rfl, by simp, ha⟩
      | ok b =>
        rw [ha] at h
        obtain ⟨before, a', after, rfl, hbefore, ha'⟩ := ih.mp (map_eq_error_iff.mp h)
        exact ⟨a :: before, a', after, rfl, List.forall_mem_cons.mpr ⟨⟨b, ha⟩, hbefore⟩, ha'⟩
    · rintro ⟨before, a', after, hl, hbefore, ha'⟩
      cases before with
      | nil =>
        obtain ⟨rfl, rfl⟩ := List.cons.inj hl
        rw [ha']
        rfl
      | cons b before =>
        obtain ⟨rfl, rfl⟩ := List.cons.inj hl
        obtain ⟨⟨c, hc⟩, hbefore⟩ := List.forall_mem_cons.mp hbefore
        rw [hc]
        exact map_eq_error_iff.mpr (ih.mpr ⟨before, a', after, rfl, hbefore, ha'⟩)

end HostRoster.Answers
