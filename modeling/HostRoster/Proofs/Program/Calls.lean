import HostRoster.Program.Basic
import HostRoster.Proofs.Program.Disk

/-!
# Calls of the program

A call of the program makes a plan from the variables and the command line, and only then touches
files. It writes none but the temporary file and the state file, and the state file only by its very
last operation. So a call that does not come to a result has left the state file alone, and one that
does has put there what its task has made of the store that it found there.
-/

namespace HostRoster.Program

open HostRoster.Command HostRoster.Json

/-- What a call is to do, and with which settings; nothing if it ends before it looks at the state
file. -/
def plan {m : Type → Type} [Monad m] [Machine m] (arguments : List String) :
    m (Option (Settings × Line)) := do
  match ← readVariables with
  | none => return none
  | some known =>
    match ← readSettings known with
    | .error _ => return none
    | .ok settings => return (Line.parse arguments).toOption.map fun line => (settings, line)

/-- The path of the state file of a call. -/
def stateFile (settings : Settings) (line : Line) : String :=
  line.statePath.getD settings.statePath

/-- What becomes of a call that has a plan. -/
def follow {m : Type → Type} [Monad m] [Machine m] (moment : Moment) (settings : Settings)
    (line : Line) : m Ending := do
  match ← Snapshot.load (stateFile settings line) with
  | .error e => return .failed ["loading " ++ stateFile settings line, e.message]
  | .ok snapshot =>
    perform (stateFile settings line) settings.maxReportHosts moment.now
      (.ofSnapshot snapshot moment.supplies) line.task

/-- Whether a call has done its task. -/
def Ending.isDone : Ending → Bool
  | .done _ => true
  | _ => false

/-- A call that ends with another number than zero has not done its task. -/
theorem Ending.isDone_of_code {ending : Ending} (h : ending.code ≠ 0) : ending.isDone = false := by
  cases ending with
  | done v => exact absurd rfl h
  | failed causes => rfl
  | usage e => rfl
  | stopped => rfl

variable {d d' : Disk} {arguments : List String} {moment : Moment}

/-- A call follows its plan, or has none and ends without having done anything. -/
theorem run_cases (d : Disk) (arguments : List String) (moment : Moment) :
    (∃ settings line d₁, d.run (plan arguments) = (some (settings, line), d₁) ∧
      d.run (run arguments moment) = d₁.run (follow moment settings line)) ∨
    ∃ ending d₁, d.run (plan arguments) = (none, d₁) ∧
      d.run (run arguments moment) = (ending, d₁) ∧ ending.isDone = false := by
  unfold run plan
  rw [Disk.run_bind, Disk.run_bind]
  rcases d.run readVariables with ⟨_ | known, d₂⟩
  · exact Or.inr ⟨_, d₂, rfl, rfl, rfl⟩
  · dsimp only
    rw [Disk.run_bind, Disk.run_bind]
    rcases d₂.run (readSettings known) with ⟨e | settings, d₃⟩
    · exact Or.inr ⟨_, d₃, rfl, rfl, rfl⟩
    · dsimp only [runWith]
      cases Line.parse arguments with
      | error e => exact Or.inr ⟨_, d₃, rfl, rfl, rfl⟩
      | ok line => exact Or.inl ⟨settings, line, d₃, rfl, rfl⟩

section keeping

open Disk Environment

theorem keepsFiles_environmentIn (directory : List String) :
    KeepsFiles (environmentIn directory) := by
  refine keepsFiles_bind (keepsFiles_read _) fun answer => ?_
  cases answer <;> exact keepsFiles_pure _

/-- Looking for an environment file leaves the files alone. -/
theorem keepsFiles_findEnvironment (directory : List String) :
    KeepsFiles (findEnvironment directory) := by
  induction directory with
  | nil => exact keepsFiles_bind (keepsFiles_environmentIn []) fun _ => keepsFiles_pure _
  | cons name above ih =>
    refine keepsFiles_bind (keepsFiles_environmentIn (name :: above)) fun found => ?_
    cases found with
    | some content => exact keepsFiles_pure _
    | none => exact ih

theorem keepsFiles_valueOf (known : Variables) (name : String) :
    KeepsFiles (valueOf known name) := by
  refine keepsFiles_bind (keepsFiles_lookUp name) fun answer => ?_
  cases answer <;> exact keepsFiles_pure _

theorem keepsFiles_expandPiece (known : Variables) (p : Piece) :
    KeepsFiles (expandPiece known p) := by
  cases p with
  | char c => exact keepsFiles_pure _
  | reference name =>
    exact keepsFiles_bind (keepsFiles_valueOf known name) fun _ => keepsFiles_pure _

theorem keepsFiles_expand (known : Variables) (assignments : List Assignment) :
    KeepsFiles (expand known assignments) := by
  induction assignments generalizing known with
  | nil => exact keepsFiles_pure _
  | cons a rest ih =>
    refine keepsFiles_bind (keepsFiles_mapM (keepsFiles_expandPiece known) a.value) fun value => ?_
    refine keepsFiles_bind (keepsFiles_valueOf known a.name) fun held => ?_
    cases held with
    | some v => exact ih known
    | none =>
      dsimp only
      split
      · exact keepsFiles_pure _
      · exact ih _

/-- All in all, reading variables leaves the files alone. -/
theorem keepsFiles_readVariables : KeepsFiles readVariables := by
  refine keepsFiles_bind keepsFiles_workingDirectory fun directory => ?_
  refine keepsFiles_bind (keepsFiles_findEnvironment _) fun found => ?_
  cases found with
  | some content => exact keepsFiles_expand [] _
  | none => exact keepsFiles_pure _

theorem keepsFiles_readSettings (known : Variables) : KeepsFiles (readSettings known) :=
  keepsFiles_bind (keepsFiles_valueOf known _) fun _ =>
    keepsFiles_bind (keepsFiles_valueOf known _) fun _ =>
      keepsFiles_bind (keepsFiles_valueOf known _) fun _ => keepsFiles_pure _

/-- Finding out what to do leaves the files alone. -/
theorem keepsFiles_plan (arguments : List String) : KeepsFiles (plan arguments) := by
  refine keepsFiles_bind keepsFiles_readVariables fun known => ?_
  cases known with
  | none => exact keepsFiles_pure _
  | some known =>
    refine keepsFiles_bind (keepsFiles_readSettings known) fun settings => ?_
    cases settings <;> exact keepsFiles_pure _

theorem keepsFiles_readReport (path : String) : KeepsFiles (readReport path) := by
  refine keepsFiles_bind (keepsFiles_read path) fun answer => ?_
  cases answer with
  | error e => exact keepsFiles_pure _
  | ok content =>
    dsimp only
    split <;> exact keepsFiles_pure _

end keeping

/-- A report that was read is the text of its file. -/
theorem text_of_readReport {path text : String} (h : (d.run (readReport path)).1 = .ok text) :
    (d.files.get? path).bind Text.ofUtf8? = some text := by
  unfold readReport at h
  rw [Disk.run_bind] at h
  cases hread : (d.run (Machine.read path)).1 with
  | error e =>
    rw [hread] at h
    cases h
  | ok content =>
    rw [hread] at h
    rw [Disk.get?_of_read hread, Option.bind_some]
    cases htext : Text.ofUtf8? content with
    | none =>
      simp only [htext] at h
      cases h
    | some t =>
      simp only [htext] at h
      exact congrArg some (Except.ok.inj h)

/-- What a task makes of a store, with the report that lies on a disk; nothing without one. -/
def afterTask (d : Disk) (maxHosts : Nat) (now : Timestamp) (s : Store) : Task → Store
  | .heartbeat h => (heartbeat h now s).2
  | .update p =>
    match (d.files.get? p.reportPath).bind Text.ofUtf8? with
    | some data => (update p data maxHosts now s).2
    | none => s

/-- What a task makes of a store depends on the files only. -/
theorem afterTask_congr {d₁ : Disk} (h : d₁.files = d.files) (maxHosts : Nat) (now : Timestamp)
    (s : Store) (task : Task) :
    afterTask d₁ maxHosts now s task = afterTask d maxHosts now s task := by
  cases task with
  | heartbeat h => rfl
  | update p => rw [afterTask, afterTask, h]

/-- Whether a part of a call ends without a result and spares the state file, or has done its task
and put one of some stores there. -/
def Leaves (d : Disk) (path : String) (made : Store → Prop) (x : StateM Disk Ending) : Prop :=
  (∃ ending d', d.run x = (ending, d') ∧ ending.isDone = false ∧ Disk.Spares path d d') ∨
    ∃ v d' s, d.run x = (.done v, d') ∧ made s ∧ d'.files.get? path = some s.snapshot.content

/-- Operations before that leave the files alone do not matter. -/
theorem Leaves.after {d₁ : Disk} {path : String} {made : Store → Prop}
    {x y : StateM Disk Ending} (h : Leaves d₁ path made y) (hfiles : d₁.files = d.files)
    (hrun : d.run x = d₁.run y) : Leaves d path made x := by
  unfold Leaves
  rw [hrun]
  rcases h with ⟨ending, d', hy, hdone, hspares⟩ | h
  · exact Or.inl ⟨ending, d', hy, hdone, hspares.after hfiles⟩
  · exact Or.inr h

/-- The stores that may be put there may be told less exactly. -/
theorem Leaves.mono {path : String} {made made' : Store → Prop} {x : StateM Disk Ending}
    (h : Leaves d path made x) (hmade : ∀ s, made s → made' s) : Leaves d path made' x :=
  h.imp_right fun ⟨v, d', s, hrun, hs, hcontent⟩ => ⟨v, d', s, hrun, hmade s hs, hcontent⟩

/-- The end of a call puts the store there, unless its task has failed. -/
theorem leaves_finish (d : Disk) (path : String) (result : Except JobError Value) (s : Store) :
    Leaves d path (· = s) (finish path result s) := by
  cases result with
  | error e => exact Or.inl ⟨_, d, rfl, rfl, Disk.spares_of_files rfl path⟩
  | ok v =>
    unfold finish Leaves
    rw [Disk.run_bind]
    rcases d.save_cases path s.snapshot with ⟨e, d', hsave, hspares⟩ | ⟨d', hsave, hcontent⟩
    · rw [hsave]
      exact Or.inl ⟨_, d', rfl, rfl, hspares⟩
    · rw [hsave]
      exact Or.inr ⟨v, d', s, rfl, rfl, hcontent⟩

/-- A task ends so that the state file has what the task has made of the store. -/
theorem leaves_perform (d : Disk) (path : String) (maxHosts : Nat) (now : Timestamp) (s : Store)
    (task : Task) :
    Leaves d path (· = afterTask d maxHosts now s task) (perform path maxHosts now s task) := by
  cases task with
  | heartbeat h => exact leaves_finish d path _ _
  | update p =>
    have hkeeps := keepsFiles_readReport p.reportPath d
    cases hread : (d.run (readReport p.reportPath)).1 with
    | error e =>
      refine Or.inl ⟨.failed ["reading " ++ p.reportPath, e.message], _, ?_, rfl,
        Disk.spares_of_files hkeeps path⟩
      rw [perform, Disk.run_bind, hread]
      rfl
    | ok data =>
      have hafter : afterTask d maxHosts now s (.update p) = (update p data maxHosts now s).2 := by
        rw [afterTask, text_of_readReport hread]
      rw [hafter]
      refine (leaves_finish _ path (update p data maxHosts now s).1 _).after hkeeps ?_
      rw [perform, Disk.run_bind, hread]

/-- What a call with a plan may put in the state file: what its task makes of the store that is
there. -/
def Made (d : Disk) (moment : Moment) (settings : Settings) (line : Line) (s : Store) : Prop :=
  ∃ snapshot, d.stored (stateFile settings line) = .ok snapshot ∧
    s = afterTask d settings.maxReportHosts moment.now (.ofSnapshot snapshot moment.supplies)
      line.task

/-- A call that knows what to do leaves the state file alone or brings it to what its task makes of
it. -/
theorem leaves_follow (d : Disk) (moment : Moment) (settings : Settings) (line : Line) :
    Leaves d (stateFile settings line) (Made d moment settings line)
      (follow moment settings line) := by
  have hkeeps := Disk.keepsFiles_load (stateFile settings line) d
  cases hload : (d.run (Snapshot.load (stateFile settings line))).1 with
  | error e =>
    refine Or.inl ⟨.failed ["loading " ++ stateFile settings line, e.message], _, ?_, rfl,
      Disk.spares_of_files hkeeps _⟩
    rw [follow, Disk.run_bind, hload]
    rfl
  | ok snapshot =>
    have hperform := leaves_perform (d.run (Snapshot.load (stateFile settings line))).2
      (stateFile settings line) settings.maxReportHosts moment.now
      (.ofSnapshot snapshot moment.supplies) line.task
    refine (hperform.mono fun s hs => ?_).after hkeeps ?_
    · exact ⟨snapshot, Disk.stored_of_load hload, hs.trans (afterTask_congr hkeeps _ _ _ _)⟩
    · rw [follow, Disk.run_bind, hload]

/-- The path of the state file of a call, if it gets as far as that. -/
def statePath? (d : Disk) (arguments : List String) : Option String :=
  (d.run (plan arguments)).1.map fun p => stateFile p.1 p.2

/-- A call that has not done its task has left all files alone but the temporary one. -/
theorem run_spares {ending : Ending} (h : d.run (run arguments moment) = (ending, d'))
    (hdone : ending.isDone = false) :
    (∀ path, statePath? d arguments = some path → Disk.Spares path d d') ∧
      (statePath? d arguments = none → d'.files = d.files) := by
  have hkeeps := keepsFiles_plan arguments d
  unfold statePath?
  rcases run_cases d arguments moment with ⟨settings, line, d₁, hplan, hrun⟩ |
    ⟨ending', d₁, hplan, hrun, _⟩
  · rw [hplan] at hkeeps ⊢
    rw [hrun] at h
    refine ⟨fun path hpath => ?_, fun hnone => by cases hnone⟩
    cases hpath
    rcases leaves_follow d₁ moment settings line with ⟨ending', d₂, hfollow, _, hspares⟩ |
      ⟨v, d₂, s, hfollow, _⟩
    · obtain ⟨_, rfl⟩ := Prod.mk.inj (hfollow.symm.trans h)
      exact hspares.after hkeeps
    · obtain ⟨rfl, _⟩ := Prod.mk.inj (hfollow.symm.trans h)
      cases hdone
  · rw [hplan] at hkeeps ⊢
    obtain ⟨_, rfl⟩ := Prod.mk.inj (hrun.symm.trans h)
    exact ⟨fun path hpath => (by cases hpath), fun _ => hkeeps⟩

/-- So it has left alone what is its state file, if it has one. -/
theorem stateFile_of_not_done {ending : Ending} {path : String}
    (h : d.run (run arguments moment) = (ending, d')) (hdone : ending.isDone = false)
    (hpath : ∀ p, statePath? d arguments = some p → p = path) :
    d'.files.get? path = d.files.get? path := by
  obtain ⟨hspares, hnone⟩ := run_spares h hdone
  cases hp : statePath? d arguments with
  | none => rw [hnone hp]
  | some p =>
    obtain rfl := hpath p hp
    exact (hspares p hp).stateFile

/-- A call that has done its task had a plan and has put in the state file what its task makes of
the store that was there. -/
theorem run_done {v : Value} (h : d.run (run arguments moment) = (.done v, d')) :
    ∃ settings line s, (d.run (plan arguments)).1 = some (settings, line) ∧
      Made d moment settings line s ∧
      d'.files.get? (stateFile settings line) = some s.snapshot.content := by
  have hkeeps := keepsFiles_plan arguments d
  rcases run_cases d arguments moment with ⟨settings, line, d₁, hplan, hrun⟩ |
    ⟨ending, d₁, hplan, hrun, hdone⟩
  · rw [hplan] at hkeeps
    rw [hrun] at h
    rcases leaves_follow d₁ moment settings line with ⟨ending, d₂, hfollow, hdone, _⟩ |
      ⟨v', d₂, s, hfollow, ⟨snapshot, hstored, hs⟩, hcontent⟩
    · obtain ⟨rfl, _⟩ := Prod.mk.inj (hfollow.symm.trans h)
      cases hdone
    · obtain ⟨_, rfl⟩ := Prod.mk.inj (hfollow.symm.trans h)
      have hsame : d₁.stored (stateFile settings line) = d.stored (stateFile settings line) :=
        Disk.stored_congr (by rw [hkeeps])
      rw [afterTask_congr hkeeps] at hs
      exact ⟨settings, line, s, by rw [hplan], ⟨snapshot, hsame ▸ hstored, hs⟩, hcontent⟩
  · obtain ⟨rfl, _⟩ := Prod.mk.inj (hrun.symm.trans h)
    cases hdone

end HostRoster.Program
