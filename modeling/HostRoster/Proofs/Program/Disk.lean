import HostRoster.Proofs.File.Path
import HostRoster.Proofs.Program.StateFile

/-!
# Disks

A machine on which any operation on files may fail, and then does nothing. Its files are the
contents of paths, which no operation mixes up, and only paths that may be those of files take a
content. What is not said to be there is not found; what is there is never missed, though it may
fail to be read. What is proved of the program is proved for these machines, since they leave open
which operation fails, and not for the machine in memory, which has directories but no failures.
-/

namespace HostRoster

/-- A machine whose files are contents of paths. -/
structure Disk where
  /-- The variables. -/
  environment : Environment.Variables
  /-- The names from the root to the working directory. -/
  workingDirectory : List String
  /-- The contents of the files, by the texts of their paths. -/
  files : Dict ByteArray
  /-- What goes wrong with operations on files, by the number of those before. -/
  errors : Nat → Option FileError
  /-- The number of operations on files so far. -/
  operations : Nat

namespace Disk

/-- What goes wrong with the next operation on files. -/
def error? (d : Disk) : Option FileError := d.errors d.operations

/-- The machine after an operation on files that has changed nothing. -/
def next (d : Disk) : Disk := { d with operations := d.operations + 1 }

/-- Reads a file. -/
def read (path : String) (d : Disk) : Except FileError ByteArray × Disk :=
  match d.files.get? path, d.error?.filter (· ≠ .notFound) with
  | none, e => (.error (e.getD .notFound), d.next)
  | some _, some e => (.error e, d.next)
  | some content, none => (.ok content, d.next)

/-- Changes the files, unless something goes wrong. -/
def change (d : Disk) (f : Dict ByteArray → Except FileError (Dict ByteArray)) :
    Except FileError Unit × Disk :=
  match d.error? with
  | some e => (.error e, d.next)
  | none =>
    match f d.files with
    | .error e => (.error e, d.next)
    | .ok files => (.ok (), { d.next with files := files })

/-- The files after one was written. -/
def written (path : String) (content : ByteArray) (files : Dict ByteArray) :
    Except FileError (Dict ByteArray) :=
  if (Path.ofText path).namesFile then .ok (files.insert path content) else .error .isDirectory

/-- The files after one was moved. -/
def renamed (source target : String) (files : Dict ByteArray) :
    Except FileError (Dict ByteArray) :=
  match files.get? source with
  | some content => written target content (files.erase source)
  | none => .error .notFound

instance : Machine (StateM Disk) where
  lookUp name := fun d => (d.environment.value? name, d)
  workingDirectory := fun d => (d.workingDirectory, d)
  read path := read path
  makeDirectories _ := fun d => d.change .ok
  write path content := fun d => d.change (written path content)
  rename source target := fun d => d.change (renamed source target)

/-- What a program comes to, and the machine after it. -/
def run {α : Type} (d : Disk) (x : StateM Disk α) : α × Disk := x d

/-- Programs that follow one another run on what the first one leaves. -/
theorem run_bind {α β : Type} (d : Disk) (x : StateM Disk α) (f : α → StateM Disk β) :
    d.run (x >>= f) = (d.run x).2.run (f (d.run x).1) := rfl

/-- Writing changes the files as one operation. -/
theorem run_write (d : Disk) (path : String) (content : ByteArray) :
    d.run (Machine.write path content) = d.change (written path content) := rfl

theorem run_rename (d : Disk) (source target : String) :
    d.run (Machine.rename source target) = d.change (renamed source target) := rfl

/-- Whether a program leaves the files as they are. -/
def KeepsFiles {α : Type} (x : StateM Disk α) : Prop := ∀ d : Disk, (d.run x).2.files = d.files

section keeping

variable {α β : Type}

theorem keepsFiles_pure (a : α) : KeepsFiles (pure a) := fun _ => rfl

/-- Programs that leave the files alone do so one after the other. -/
theorem keepsFiles_bind {x : StateM Disk α} {f : α → StateM Disk β} (hx : KeepsFiles x)
    (hf : ∀ a, KeepsFiles (f a)) : KeepsFiles (x >>= f) := by
  intro d
  rw [run_bind, hf, hx]

/-- They do so for every member of a list. -/
theorem keepsFiles_mapM {f : α → StateM Disk β} (hf : ∀ a, KeepsFiles (f a)) (l : List α) :
    KeepsFiles (l.mapM f) := by
  induction l with
  | nil => exact keepsFiles_pure _
  | cons a rest ih =>
    rw [List.mapM_cons]
    exact keepsFiles_bind (hf a) fun _ => keepsFiles_bind ih fun _ => keepsFiles_pure _

theorem keepsFiles_lookUp (name : String) :
    KeepsFiles (Machine.lookUp name : StateM Disk (Option String)) := fun _ => rfl

theorem keepsFiles_workingDirectory :
    KeepsFiles (Machine.workingDirectory : StateM Disk (List String)) := fun _ => rfl

/-- Reading leaves the files alone, whether or not it fails. -/
theorem keepsFiles_read (path : String) :
    KeepsFiles (Machine.read path : StateM Disk (Except FileError ByteArray)) := by
  intro d
  change (read path d).2.files = d.files
  unfold read
  split <;> rfl

end keeping

variable {d d' : Disk} {path : String}

/-- What was read is there. -/
theorem get?_of_read {content : ByteArray}
    (h : (d.run (Machine.read path)).1 = .ok content) :
    d.files.get? path = some content := by
  change (read path d).1 = .ok content at h
  unfold read at h
  split at h
  · cases h
  · cases h
  · next hc _ =>
    rw [hc]
    exact congrArg some (Except.ok.inj h)

/-- What was not found is not there. -/
theorem get?_of_notFound
    (h : (d.run (Machine.read path)).1 = .error .notFound) :
    d.files.get? path = none := by
  change (read path d).1 = .error .notFound at h
  unfold read at h
  split at h
  · next hnone => exact hnone
  · next he =>
    cases h
    simp [Option.filter_eq_some_iff] at he
  · cases h

/-- A change of the files fails and leaves them alone, or happens as a whole. -/
theorem change_cases (d : Disk) (f : Dict ByteArray → Except FileError (Dict ByteArray)) :
    (∃ e d', d.change f = (.error e, d') ∧ d'.files = d.files) ∨
      ∃ d', d.change f = (.ok (), d') ∧ f d.files = .ok d'.files := by
  unfold change
  cases d.error? with
  | some e => exact Or.inl ⟨e, d.next, rfl, rfl⟩
  | none =>
    cases f d.files with
    | error e => exact Or.inl ⟨e, d.next, rfl, rfl⟩
    | ok files => exact Or.inr ⟨{ d.next with files := files }, rfl, rfl⟩

theorem keepsFiles_makeDirectories (p : Path) :
    KeepsFiles (Machine.makeDirectories p : StateM Disk (Except FileError Unit)) := by
  intro d
  change (d.change .ok).2.files = d.files
  rcases d.change_cases .ok with ⟨e, d', h, hfiles⟩ | ⟨d', h, hfiles⟩
  · rw [h, hfiles]
  · rw [h, Except.ok.inj hfiles]

/-- A file is written unless its path is that of a directory. -/
theorem written_eq_ok_iff {content : ByteArray} {files files' : Dict ByteArray} :
    written path content files = .ok files' ↔
      (Path.ofText path).namesFile = true ∧ files' = files.insert path content := by
  unfold written
  split
  · next h => simp [h, eq_comm]
  · next h => simp [h]

/-- What was moved is found in its new place. -/
theorem get?_of_renamed {source target : String} {content : ByteArray}
    {files files' : Dict ByteArray} (h : renamed source target files = .ok files')
    (hsource : files.get? source = some content) : files'.get? target = some content := by
  rw [renamed, hsource] at h
  obtain ⟨_, rfl⟩ := written_eq_ok_iff.mp h
  exact Dict.get?_insert_self _ _ _

/-- Loading a state file leaves the files alone. -/
theorem keepsFiles_load (path : String) : KeepsFiles (Snapshot.load path) := by
  refine keepsFiles_bind (keepsFiles_read path) fun answer => ?_
  split <;> exact keepsFiles_pure _

/-- What is loaded from a state file if nothing goes wrong. -/
def stored (d : Disk) (path : String) : Except StateError Snapshot :=
  (({ d with errors := fun _ => none } : Disk).run (Snapshot.load path)).1

/-- What is stored under a path is the content there, or nothing at all. -/
theorem stored_eq (d : Disk) (path : String) :
    d.stored path =
      match d.files.get? path with
      | some content => (Snapshot.ofContent content).mapError .content
      | none => .ok .empty := by
  have hread : (({ d with errors := fun _ => none } : Disk).run (Machine.read path)).1 =
      (d.files.get? path).elim (.error .notFound) .ok := by
    change (read path _).1 = _
    unfold read
    cases d.files.get? path <;> rfl
  unfold stored Snapshot.load
  rw [run_bind, hread]
  cases d.files.get? path <;> rfl

/-- It depends on the state file alone. -/
theorem stored_congr (h : d'.files.get? path = d.files.get? path) :
    d'.stored path = d.stored path := by
  rw [stored_eq, stored_eq, h]

/-- A snapshot whose content the state file has is loaded from it. -/
theorem stored_of_content {s : Snapshot} (h : d.files.get? path = some s.content) :
    d.stored path = .ok s := by
  rw [stored_eq, h]
  dsimp only
  rw [Snapshot.ofContent_content]
  rfl

/-- What is loaded although something may go wrong is no other. -/
theorem stored_of_load {s : Snapshot} (h : (d.run (Snapshot.load path)).1 = .ok s) :
    d.stored path = .ok s := by
  rw [stored_eq]
  unfold Snapshot.load at h
  rw [run_bind] at h
  cases hread : (d.run (Machine.read path)).1 with
  | ok content =>
    rw [hread] at h
    rw [get?_of_read hread]
    exact h
  | error e =>
    rw [hread] at h
    by_cases he : e = .notFound
    · subst he
      rw [get?_of_notFound hread]
      exact h
    · split at h
      · next hok => cases hok
      · next hnotFound => exact absurd (Except.error.inj hnotFound) he
      · cases h

/-- The state file is as it was, and so are all other files but the temporary one. -/
structure Spares (path : String) (d d' : Disk) : Prop where
  /-- The state file is as it was. -/
  stateFile : d'.files.get? path = d.files.get? path
  /-- All other files but the temporary one are as they were. -/
  others : ∀ p, p ≠ Snapshot.temporaryPath path → d'.files.get? p = d.files.get? p

/-- Making the directory of a state file leaves the files alone. -/
theorem keepsFiles_makeParent (path : String) : KeepsFiles (Snapshot.makeParent path) := by
  unfold Snapshot.makeParent
  cases (Path.ofText path).parent? with
  | none => exact keepsFiles_pure _
  | some parent => exact keepsFiles_makeDirectories parent

/-- What leaves the files alone spares all of them. -/
theorem spares_of_files (h : d'.files = d.files) (path : String) : Spares path d d' :=
  ⟨by rw [h], fun p _ => by rw [h]⟩

/-- Operations before that leave the files alone do not matter. -/
theorem Spares.after {d₁ : Disk} (h : Spares path d₁ d') (hfiles : d₁.files = d.files) :
    Spares path d d' :=
  ⟨by rw [h.stateFile, hfiles], fun p hp => by rw [h.others p hp, hfiles]⟩

/-- The temporary file is never the state file. -/
theorem temporaryPath_ne (h : (Path.ofText path).namesFile = true) :
    Snapshot.temporaryPath path ≠ path := by
  have hne := Path.text_withExtension_ne h
  rw [Path.text_ofText] at hne
  exact hne

/-- Writing the temporary file spares the state file. -/
theorem spares_of_written {content : ByteArray}
    (hnames : (Path.ofText (Snapshot.temporaryPath path)).namesFile = true)
    (h : d'.files = d.files.insert (Snapshot.temporaryPath path) content) : Spares path d d' := by
  have hne : Snapshot.temporaryPath path ≠ path := fun he =>
    temporaryPath_ne (he ▸ hnames) he
  refine ⟨?_, fun p hp => ?_⟩
  · rw [h, Dict.get?_insert_of_ne _ _ hne]
  · rw [h, Dict.get?_insert_of_ne _ _ hp.symm]

/-- Saving fails and spares the state file, or puts the content of a snapshot there. -/
theorem save_cases (d : Disk) (path : String) (s : Snapshot) :
    (∃ e d', d.run (Snapshot.save path s) = (.error e, d') ∧ Spares path d d') ∨
      ∃ d', d.run (Snapshot.save path s) = (.ok (), d') ∧
        d'.files.get? path = some s.content := by
  have hparent := keepsFiles_makeParent path d
  unfold Snapshot.save
  rw [run_bind]
  rcases hmake : d.run (Snapshot.makeParent path) with ⟨e | _, d₁⟩
  · rw [hmake] at hparent
    exact Or.inl ⟨_, d₁, rfl, spares_of_files hparent path⟩
  rw [hmake] at hparent
  dsimp only at hparent ⊢
  rw [run_bind]
  rw [run_write]
  rcases d₁.change_cases (written (Snapshot.temporaryPath path) s.content) with
    ⟨e, d₂, hwrite, hfiles⟩ | ⟨d₂, hwrite, hfiles⟩
  · rw [hwrite]
    exact Or.inl ⟨_, d₂, rfl, spares_of_files (hfiles.trans hparent) path⟩
  rw [hwrite]
  dsimp only
  obtain ⟨hnames, hfiles⟩ := written_eq_ok_iff.mp hfiles
  rw [hparent] at hfiles
  rw [run_bind, run_rename]
  rcases d₂.change_cases (renamed (Snapshot.temporaryPath path) path) with
    ⟨e, d₃, hrename, hfiles'⟩ | ⟨d₃, hrename, hfiles'⟩
  · rw [hrename]
    exact Or.inl ⟨_, d₃, rfl, spares_of_written hnames (hfiles'.trans hfiles)⟩
  · rw [hrename]
    rw [hfiles] at hfiles'
    exact Or.inr ⟨d₃, rfl, get?_of_renamed hfiles' (Dict.get?_insert_self _ _ _)⟩

end Disk

end HostRoster
