import HostRoster.Store.Error

/-!
# Calls that leave no trace when they fail

What calls have done before they fail stays done. They leave no trace only because all that may fail
comes before all that changes anything: a part that only reads is followed by one that succeeds in
every state. Both kinds of calls are closed under going through a list, however long it is and
wherever in it the failure lies.
-/

namespace HostRoster.Effect

variable {ε σ α β : Type}

/-- Calls that follow one another; what was done before a failure stays done. -/
theorem run_bind (x : ExceptT ε (StateM σ) α) (f : α → ExceptT ε (StateM σ) β) (s : σ) :
    (x >>= f).run.run s =
      match x.run.run s with
      | (.ok a, s) => (f a).run.run s
      | (.error e, s) => (.error e, s) := by
  have h : (x >>= f).run.run s = (ExceptT.bindCont f (x.run.run s).1).run (x.run.run s).2 := rfl
  rw [h]
  rcases x.run.run s with ⟨e | a, s'⟩ <;> rfl

/-- Calls that only read. -/
def Reads (x : Effect σ α) : Prop := ∀ s, (x.run.run s).2 = s

/-- Calls that succeed in every state. -/
def Succeeds (x : Effect σ α) : Prop := ∀ s, ∃ a, (x.run.run s).1 = .ok a

/-- Calls that leave the state as it was if they fail. -/
def Atomic (x : Effect σ α) : Prop := ∀ s e, (x.run.run s).1 = .error e → (x.run.run s).2 = s

/-- A check answers and leaves the state alone. -/
theorem run_check (f : σ → Except StoreError Unit) (s : σ) : (check f).run.run s = (f s, s) := by
  have hget : (get : Effect σ σ).run.run s = (.ok s, s) := rfl
  rw [check, run_bind, hget]
  dsimp only
  rcases f s with e | _ <;> rfl

/-- A change of the state succeeds. -/
theorem succeeds_modify (f : σ → σ) : Succeeds (modify f : Effect σ Unit) := fun _ => ⟨(), rfl⟩

theorem succeeds_pure (a : α) : Succeeds (pure a : Effect σ α) := fun _ => ⟨a, rfl⟩

/-- A check only reads. -/
theorem reads_check (f : σ → Except StoreError Unit) : Reads (check f) :=
  fun s => by rw [run_check]

/-- Calls that only read do so one after the other. -/
theorem reads_bind {x : Effect σ α} {f : α → Effect σ β} (hx : x.Reads) (hf : ∀ a, (f a).Reads) :
    Reads (x >>= f) := by
  intro s
  have hstate := hx s
  rw [run_bind]
  rcases hrun : x.run.run s with ⟨e | a, s'⟩
  · rwa [hrun] at hstate
  · rw [hrun] at hstate
    exact (hf a s').trans hstate

/-- Calls that succeed do so one after the other. -/
theorem succeeds_bind {x : Effect σ α} {f : α → Effect σ β} (hx : x.Succeeds)
    (hf : ∀ a, (f a).Succeeds) : Succeeds (x >>= f) := by
  intro s
  obtain ⟨a, ha⟩ := hx s
  rw [run_bind]
  rcases hrun : x.run.run s with ⟨e | a', s'⟩
  · rw [hrun] at ha
    cases ha
  · exact hf a' s'

/-- Going through a list of calls that only read, some of which may fail, only reads. -/
theorem reads_forM {f : α → Effect σ PUnit} (hf : ∀ a, (f a).Reads) (l : List α) :
    Reads (l.forM f) := by
  induction l with
  | nil => exact fun _ => rfl
  | cons a rest ih => exact reads_bind (hf a) fun _ => ih

/-- Going through a list of calls that succeed succeeds. -/
theorem succeeds_forM {f : α → Effect σ PUnit} (hf : ∀ a, (f a).Succeeds) (l : List α) :
    Succeeds (l.forM f) := by
  induction l with
  | nil => exact succeeds_pure _
  | cons a rest ih => exact succeeds_bind (hf a) fun _ => ih

/-- Calls that succeed have no failure to leave a trace of. -/
theorem Succeeds.atomic {x : Effect σ α} (h : x.Succeeds) : x.Atomic := by
  intro s e he
  obtain ⟨a, ha⟩ := h s
  rw [ha] at he
  cases he

/-- What only reads may come before what leaves no trace. -/
theorem atomic_bind {x : Effect σ α} {f : α → Effect σ β} (hx : x.Reads)
    (hf : ∀ a, (f a).Atomic) : Atomic (x >>= f) := by
  intro s e he
  have hstate := hx s
  rw [run_bind] at he ⊢
  rcases hrun : x.run.run s with ⟨e' | a, s'⟩
  · rwa [hrun] at hstate
  · rw [hrun] at hstate he
    obtain rfl : s' = s := hstate
    exact hf a s' e he

-- The other way round the change stays.
example :
    (do modify (· + 1); check fun _ => .error (.backend "down") : Effect Nat Unit).run.run 0 =
      (.error (.backend "down"), 1) := rfl

/-- The result of calls and the state they leave, unless they fail. -/
def result (x : Effect σ α) (s : σ) : Except StoreError (α × σ) :=
  (x.run.run s).1.map fun a => (a, (x.run.run s).2)

/-- The state that calls leave, unless they fail. -/
def after (x : Effect σ PUnit) (s : σ) : Except StoreError σ := (x.result s).map Prod.snd

/-- Calls that leave no trace if they fail are told by their result. -/
theorem Atomic.run_eq_result {x : Effect σ α} (h : x.Atomic) (s : σ) :
    x.run.run s =
      match x.result s with
      | .ok (a, s') => (.ok a, s')
      | .error e => (.error e, s) := by
  have hs := h s
  unfold result
  rcases hrun : x.run.run s with ⟨e | a, s'⟩
  · rw [hrun] at hs
    obtain rfl : s' = s := hs e rfl
    rfl
  · rfl

/-- Without an answer they are told by the state they leave. -/
theorem Atomic.run_eq_after {x : Effect σ PUnit} (h : x.Atomic) (s : σ) :
    x.run.run s =
      match x.after s with
      | .ok s' => (.ok (), s')
      | .error e => (.error e, s) := by
  rw [h.run_eq_result, after]
  cases x.result s <;> rfl

/-- Checks go through a list up to the first one that fails. -/
theorem run_forM_check (f : α → σ → Except StoreError Unit) (l : List α) (s : σ) :
    (l.forM fun a => check (f a)).run.run s = (l.forM fun a => f a s, s) := by
  induction l with
  | nil => rfl
  | cons a rest ih =>
    have h : ((a :: rest).forM fun a => check (f a)).run.run s =
        (check (f a) >>= fun _ => rest.forM fun a => check (f a)).run.run s := rfl
    have h' : ((a :: rest).forM fun a => f a s) = f a s >>= fun _ => rest.forM fun a => f a s := rfl
    rw [h, h', run_bind, run_check]
    rcases f a s with e | _
    · rfl
    · exact ih

/-- Changes are made one after the other. -/
theorem run_forM_modify (f : σ → α → σ) (l : List α) (s : σ) :
    (l.forM fun a => modify fun s => f s a : Effect σ PUnit).run.run s = (.ok (), l.foldl f s) := by
  induction l generalizing s with
  | nil => rfl
  | cons a rest ih => exact ih (f s a)

end HostRoster.Effect
