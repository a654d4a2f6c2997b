import HostRoster.Store.Session

/-!
# Worlds

A store with the units of work that are open on it, each under a name. Their calls may come in any
order; a unit of work is gone once it is committed, rolled back or dropped.
-/

namespace HostRoster

/-- A store and the open units of work. -/
structure World where
  /-- The store. -/
  store : Store
  /-- The open units of work. -/
  works : Dict Transaction

namespace World

/-- A store without open units of work. -/
def ofStore (s : Store) : World := ⟨s, .empty⟩

/-- Opens a unit of work. -/
def start (w : World) (name : String) : World :=
  { w with works := w.works.insert name w.store.start }

/-- Makes calls in an open unit of work. -/
def act {α : Type} (w : World) (name : String) (t : Transaction) (act : StateM Session α) :
    α × World :=
  let (result, session) := act.run ⟨t, w.store.usage, w.store.supplies, .none⟩
  (result, ⟨session.leave w.store, w.works.insert name session.work⟩)

/-- Drops a unit of work. -/
def drop (w : World) (name : String) : World := { w with works := w.works.erase name }

/-- Commits a unit of work, which is gone even if this fails. -/
def commit (w : World) (name : String) (t : Transaction) : Except StoreError Unit × World :=
  let (answer, s) := w.store.commit t
  (answer, { w.drop name with store := s })

/-- Rolls back a unit of work. -/
def rollback (w : World) (name : String) : World :=
  { w.drop name with store := w.store.rollback }

end World

end HostRoster
