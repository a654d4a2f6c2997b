import HostRoster.Proofs.Run.Atomicity
import HostRoster.Proofs.Run.Lockstep
import HostRoster.Proofs.Store.Filing

/-!
# Filing in runs

Whatever goes wrong in a run and whoever comes in between, owners stay under their keys and
consumers under their ids: all that a run ever publishes is a view of the store with consumers laid
over it.
-/

namespace HostRoster

open Session

namespace Store

variable {α : Type} {s : Store} {t : Transaction} (hs : s.registry.Filed) (ht : FiledById t.view)
include hs

include ht in
/-- A commit leaves the store filed, whether or not it succeeds. -/
theorem filed_commit : (s.commit t).2.registry.Filed := by
  cases hc : t.committed s.registry with
  | error e =>
    rw [commit_of_error hc]
    exact hs
  | ok r =>
    rw [commit_of_ok hc]
    obtain ⟨_, rfl⟩ := Transaction.committed_eq_ok_iff.mp hc
    refine ⟨?_, filedById_published ht hs.consumers⟩
    rw [Transaction.published_owners]
    exact hs.owners

include ht in
theorem filed_settle (outages : Outages) (a : α) : (s.settle outages t a).2.registry.Filed := by
  unfold settle
  cases outages .commit with
  | some message => exact hs
  | none =>
    have hcommit := filed_commit hs ht
    rcases hc : s.commit t with ⟨e | _, s'⟩ <;> rwa [hc] at hcommit

include ht in
/-- The end of a run keeps the store filed if its unit of work was. -/
theorem filed_concludeIn {attempt : RunM α} (h : KeepsStep t t attempt.run) (outages : Outages) :
    (s.concludeIn outages t attempt).2.registry.Filed := by
  obtain ⟨ds, hds⟩ := KeepsStep.lays (σ := ⟨t, s.usage, s.supplies, outages⟩) h
  unfold concludeIn
  rcases hrun : attempt.run.run ⟨t, s.usage, s.supplies, outages⟩ with ⟨e | a, τ⟩
  · rw [registry_abandon]
    exact hs
  · rw [hrun] at hds
    refine filed_settle (s := τ.leave s) hs ?_ outages a
    rw [hds]
    exact filedById_overwritten ht ds

/-- So does a competitor. -/
theorem filed_compete (competitor : Option Consumer) :
    (s.compete competitor).2.registry.Filed := by
  cases competitor with
  | none => exact hs
  | some c =>
    obtain ⟨ds, hds⟩ :=
      KeepsStep.lays (σ := .start s .none) (Act.keepsStep_create (.refl _) c)
    change (s.registerAlone c).2.registry.Filed
    unfold registerAlone
    rcases hrun : (Act.create c).run (.start s .none) with ⟨e | c', τ⟩
    · exact hs
    · have hwork : τ.work = s.start.written ds := (congrArg (·.2.work) hrun).symm.trans hds
      have hview : FiledById τ.work.view := hwork ▸ filedById_overwritten hs.consumers ds
      have hleft : (τ.leave s).registry.Filed := hs
      exact filed_commit hleft hview

/-- So does a whole run whose attempt only lays consumers over its view. -/
theorem filed_execute {attempt : Authorizer → Timestamp → RunM α}
    (h : ∀ authorizer now, KeepsStep s.start s.start (attempt authorizer now).run)
    (c : Circumstances) : (s.execute c attempt).2.registry.Filed := by
  unfold execute
  cases c.outages .start with
  | some message => exact hs
  | none =>
    have hcompete := filed_compete hs c.competitor
    rcases hc : s.compete c.competitor with ⟨e | _, s'⟩
    · rw [hc] at hcompete
      exact hcompete
    · rw [hc] at hcompete
      exact filed_concludeIn (s := s') hcompete hs.consumers (h _ _) c.outages

/-- A run keeps the store filed, whatever its circumstances are. -/
theorem filed_runFor (c : Circumstances) (e : Errand) : (s.runFor c e).2.registry.Filed := by
  cases e with
  | reconcile r => exact filed_execute hs (fun _ _ => r.keepsStep_attempt (.refl _) _ _) c
  | heartbeat h => exact filed_execute hs (fun _ _ => h.keepsStep_attempt (.refl _) _ _) c

end Store

end HostRoster
