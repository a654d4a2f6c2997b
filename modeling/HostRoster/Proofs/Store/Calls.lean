import HostRoster.Proofs.Store.Commit
import HostRoster.Store.World

/-!
# Calls of a session

What each call answers and leaves behind when no call is out of order. Calls that read leave the
unit of work alone, and calls that write lay an accepted batch over it, which is empty if they fail.
-/

namespace HostRoster

namespace Transaction

/-- The records of a call and the supply of ids that it leaves: a new consumer under the next id, or
consumers that the unit of work sees under their ids. -/
inductive Draws (t : Transaction) (ids : Supply) : List Consumer → Supply → Prop
  /-- A new consumer. -/
  | fresh (c : Consumer) (hnew : t.checkNew c = .ok ()) :
    t.Draws ids [{ c with id := some ids.next }] ids.rest
  /-- Consumers that are seen. -/
  | seen {cs : List Consumer} (hcs : ∀ c ∈ cs, ∃ i, c.id = some i ∧ t.view.contains i = true) :
    t.Draws ids cs ids

end Transaction

namespace Act

section equations

variable (t : Transaction) (u : Usage) (s : Supplies)

theorem run_owner? (key : String) :
    (owner? key).run.run ⟨t, u, s, .none⟩ = (.ok (t.owner? key), ⟨t, u, s, .none⟩) := rfl

/-- Looking up hosts counts and leaves the unit of work alone. -/
theorem run_hostConsumers (ownerKey : String) (hypervisorIds systemUuids : Keys) :
    (hostConsumers ownerKey hypervisorIds systemUuids).run.run ⟨t, u, s, .none⟩ =
      (.ok (t.hostConsumers ownerKey hypervisorIds systemUuids),
        ⟨t, { u with hostLookups := u.hostLookups + 1 }, s, .none⟩) := rfl

theorem run_guestConsumers (ownerKey : String) (guestIds : Keys) :
    (guestConsumers ownerKey guestIds).run.run ⟨t, u, s, .none⟩ =
      (.ok (t.guestConsumers ownerKey guestIds),
        ⟨t, { u with guestLookups := u.guestLookups + 1 }, s, .none⟩) := rfl

theorem run_consumersOfReporter (ownerKey reporter : String) :
    (consumersOfReporter ownerKey reporter).run.run ⟨t, u, s, .none⟩ =
      (.ok (t.consumersOfReporter ownerKey reporter), ⟨t, u, s, .none⟩) := rfl

/-- Calls in the unit of work leave the rest of the session alone. -/
theorem run_inWork {α : Type} (x : Work α) :
    (inWork x).run.run ⟨t, u, s, .none⟩ = ((x.run.run t).1, ⟨(x.run.run t).2, u, s, .none⟩) := rfl

/-- Registering takes the next id if it succeeds, and counts in any case. -/
theorem run_create (c : Consumer) :
    (create c).run.run ⟨t, u, s, .none⟩ =
      match t.create s.ids.next c with
      | .ok (c', t') =>
        (.ok c', ⟨t', { u with creates := u.creates + 1 }, { s with ids := s.ids.rest }, .none⟩)
      | .error e => (.error e, ⟨t, { u with creates := u.creates + 1 }, s, .none⟩) := by
  have h : (create c).run.run ⟨t, u, s, .none⟩ =
      (do
        let created ← inWork (Work.create s.ids.next c)
        modify fun σ => { σ with supplies := { σ.supplies with ids := σ.supplies.ids.rest } }
        return created : Act Consumer).run.run
          ⟨t, { u with creates := u.creates + 1 }, s, .none⟩ := rfl
  rw [h, Effect.run_bind, run_inWork, (Work.atomic_create _ c).run_eq_result, ← Transaction.create]
  rcases t.create s.ids.next c with e | ⟨c', t'⟩ <;> rfl

/-- A write of the unit of work counts in any case, and if it fails does nothing else. -/
theorem run_counted {x : Work Unit} (hx : x.Atomic) (f : Usage → Usage) :
    (do count f; inWork x : Act Unit).run.run ⟨t, u, s, .none⟩ =
      match x.after t with
      | .ok t' => (.ok (), ⟨t', f u, s, .none⟩)
      | .error e => (.error e, ⟨t, f u, s, .none⟩) := by
  have h : (do count f; inWork x : Act Unit).run.run ⟨t, u, s, .none⟩ =
      ((x.run.run t).1, ⟨(x.run.run t).2, f u, s, .none⟩) := rfl
  rw [h, hx.run_eq_after]
  cases x.after t <;> rfl

/-- A write of attributes that fails does nothing but count. -/
theorem run_updateAttributes (cs : List Consumer) :
    (updateAttributes cs).run.run ⟨t, u, s, .none⟩ =
      match t.updateAttributes cs with
      | .ok t' =>
        (.ok (), ⟨t', { u with attributeUpdates := u.attributeUpdates + 1 }, s, .none⟩)
      | .error e =>
        (.error e, ⟨t, { u with attributeUpdates := u.attributeUpdates + 1 }, s, .none⟩) :=
  run_counted t u s (Work.atomic_updateAttributes cs) fun u =>
    { u with attributeUpdates := u.attributeUpdates + 1 }

/-- So does a write of consumers. -/
theorem run_updateMemberships (cs : List Consumer) :
    (updateMemberships cs).run.run ⟨t, u, s, .none⟩ =
      match t.updateMemberships cs with
      | .ok t' =>
        (.ok (), ⟨t', { u with membershipUpdates := u.membershipUpdates + 1 }, s, .none⟩)
      | .error e =>
        (.error e, ⟨t, { u with membershipUpdates := u.membershipUpdates + 1 }, s, .none⟩) :=
  run_counted t u s (Work.atomic_updateMemberships cs) fun u =>
    { u with membershipUpdates := u.membershipUpdates + 1 }

/-- Registering fails and leaves the unit of work alone, or writes the consumer under the next id.
-/
theorem create_cases (c : Consumer) :
    let counted := { u with creates := u.creates + 1 }
    let d := { c with id := some s.ids.next }
    (∃ e, t.create s.ids.next c = .error e ∧
        (create c).run.run ⟨t, u, s, .none⟩ = (.error e, ⟨t, counted, s, .none⟩)) ∨
      (t.create s.ids.next c = .ok (d, t.written [d]) ∧ t.Accepts [d] ∧
        (create c).run.run ⟨t, u, s, .none⟩ =
          (.ok d, ⟨t.written [d], counted, { s with ids := s.ids.rest }, .none⟩)) := by
  intro counted d
  rw [run_create]
  rcases h : t.create s.ids.next c with e | ⟨c', t'⟩
  · exact Or.inl ⟨e, rfl, rfl⟩
  · obtain ⟨_, _, rfl, rfl⟩ := Transaction.create_eq_ok_iff.mp h
    exact Or.inr ⟨rfl, (Transaction.accepts_of_create h).1, rfl⟩

end equations

theorem accepts_nil (t : Transaction) : t.Accepts [] := ⟨fun _ hc => by simp at hc, rfl⟩

/-- Calls that lay accepted records over the unit of work, and leave it alone if they fail. -/
def Stages {α : Type} (act : Act α) (records : Transaction → α → List Consumer) : Prop :=
  ∀ t u s,
    (∃ a σ, act.run.run ⟨t, u, s, .none⟩ = (.ok a, σ) ∧ t.Accepts (records t a) ∧
      t.Draws s.ids (records t a) σ.supplies.ids ∧ σ.work = t.written (records t a)) ∨
    ∃ e σ, act.run.run ⟨t, u, s, .none⟩ = (.error e, σ) ∧ σ.supplies.ids = s.ids ∧ σ.work = t

/-- Registering stages the consumer under its new id. -/
theorem stages_create (c : Consumer) : (create c).Stages fun _ d => [d] := by
  intro t u s
  rcases create_cases t u s c with ⟨e, _, hrun⟩ | ⟨hcreate, haccepts, hrun⟩
  · exact Or.inr ⟨e, _, hrun, rfl, rfl⟩
  · obtain ⟨hnew, _⟩ := Transaction.create_eq_ok_iff.mp hcreate
    exact Or.inl ⟨_, _, hrun, haccepts, .fresh c hnew, rfl⟩

/-- Writing attributes stages consumers with the guests of the view. -/
theorem stages_updateAttributes (cs : List Consumer) :
    (updateAttributes cs).Stages fun t _ => cs.map (Transaction.keepingGuests t.view) := by
  intro t u s
  rw [run_updateAttributes]
  cases h : t.updateAttributes cs with
  | error e => exact Or.inr ⟨e, _, rfl, rfl, rfl⟩
  | ok t' =>
    obtain ⟨haccepts, ht⟩ := Transaction.accepts_of_updateAttributes h
    obtain ⟨hcheck, _⟩ := Transaction.updateAttributes_eq_ok_iff.mp h
    obtain ⟨_, hknown, _⟩ := Transaction.checkBulk_eq_ok_iff.mp hcheck
    refine Or.inl ⟨(), _, rfl, haccepts, .seen fun c hc => ?_, ht⟩
    obtain ⟨d, hd, rfl⟩ := List.mem_map.mp hc
    rw [Transaction.keepingGuests_id]
    exact hknown d hd

/-- Writing consumers stages them as they are. -/
theorem stages_updateMemberships (cs : List Consumer) :
    (updateMemberships cs).Stages fun _ _ => cs := by
  intro t u s
  rw [run_updateMemberships]
  cases h : t.updateMemberships cs with
  | error e => exact Or.inr ⟨e, _, rfl, rfl, rfl⟩
  | ok t' =>
    obtain ⟨haccepts, ht⟩ := Transaction.accepts_of_updateMemberships h
    obtain ⟨hcheck, _⟩ := Transaction.updateMemberships_eq_ok_iff.mp h
    obtain ⟨_, hknown, _⟩ := Transaction.checkBulk_eq_ok_iff.mp hcheck
    exact Or.inl ⟨(), _, rfl, haccepts, .seen hknown, ht⟩

end Act

end HostRoster
