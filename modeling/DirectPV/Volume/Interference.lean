import DirectPV.Volume.Race

/-! What the label goroutines of `update` (`pkg/node/uevent.go`) do to the drive accounting of
    `remove` (`pkg/volume/volume.go`): nothing. A goroutine writes only the labels of a volume and
    its version, and of a volume `remove` reads only its name, its deletion timestamp and its
    status (`DirectCSIVolume.shape`); the drive it never writes.

    So over every interleaving of the goroutines with the volume controller, the drive object and
    where each execution of `remove` stands are those of the run of the controller's actions alone
    (`raceWorld_run_drive`), and the accounting of `remove` holds while the goroutines run: the
    free and allocated capacity of the drive credit each released volume once
    (`raceWorld_run_capacity`). -/

namespace DirectPV

/-- What `remove` reads of a volume. -/
def DirectCSIVolume.shape (volume : DirectCSIVolume) : String × Option Nat × DirectCSIVolumeStatus :=
  (volume.name, volume.deletionTimestamp, volume.status)

/-- What the drive writes of an execution of `remove` depend on: the shape of its volume, its copy
    of the drive and its next call. -/
def Execution.shape (e : Execution) :
    (String × Option Nat × DirectCSIVolumeStatus) × DirectCSIDrive × Pc :=
  (e.volume.shape, e.drive, e.pc)

/-- The volume controller's actions of a run, in order. -/
def releaseActions : List RaceAction → List ReleaseAction
  | [] => []
  | .release a :: actions => a :: releaseActions actions
  | .label _ _ :: actions => releaseActions actions

@[simp] theorem raced_shape (drivePathLabelKey driveName purge : String) (volume : DirectCSIVolume)
    (l r : Nat) : (raced drivePathLabelKey driveName purge volume l r).shape = volume.shape := rfl

/-! ### One call -/

/-- A call of a label goroutine leaves the drive. -/
@[simp] theorem LabelGoroutine.step_drive (drivePathLabelKey driveName : String) (store : Store)
    (g : LabelGoroutine) (ok : Bool) :
    (g.step drivePathLabelKey driveName store ok).1.drive = store.drive := by
  unfold LabelGoroutine.step
  repeat' split
  all_goals first | rfl | exact Store.updateVolume_drive ‹_›

/-- Two executions of the same shape, against stores of the same drive, write the same drive and
    stay of the same shape: a call reads nothing else. -/
theorem Execution.step_shape (env : Env) {store store' : Store} {e e' : Execution} (ok : Bool)
    (hdrive : store.drive = store'.drive) (hshape : e.shape = e'.shape) :
    (e.step env store ok).1.drive = (e'.step env store' ok).1.drive ∧
      (e.step env store ok).2.shape = (e'.step env store' ok).2.shape := by
  obtain ⟨⟨name, _, _, _, dt, status⟩, drive, pc, _⟩ := e
  obtain ⟨⟨name', _, _, _, dt', status'⟩, drive', pc', _⟩ := e'
  simp only [Execution.shape, DirectCSIVolume.shape, Prod.mk.injEq] at hshape
  obtain ⟨⟨rfl, rfl, rfl⟩, rfl, rfl⟩ := hshape
  cases pc
  case updateDrive =>
    -- the drive is written from the copy, against the stored version
    simp only [Execution.step, Store.updateDrive, hdrive]
    split_ifs <;> first | exact ⟨rfl, rfl⟩ | exact ⟨hdrive, rfl⟩
  all_goals refine ⟨(Execution.step_drive env store ok (by simp)).trans
    (hdrive.trans (Execution.step_drive env store' ok (by simp)).symm), ?_⟩
  case start | removeAll | getDrive =>
    simp only [Execution.step, DirectCSIVolume.isPublished, hdrive]
    split_ifs <;> rfl
  case updateVolume =>
    simp only [Execution.step]
    split <;> split <;> rfl
  case done => rfl

/-! ### Every run -/

/-- A world of the interleaving beside the world of the volume controller alone: the same drive,
    and executions of `remove` of the same shapes. -/
structure Shadows (w w' : RaceWorld) : Prop where
  drive : w.store.drive = w'.store.drive
  executions : w.executions.map Execution.shape = w'.executions.map Execution.shape

section
variable {env : Env} {drivePathLabelKey driveName : String} {initial : Store}

/-- A call of a label goroutine leaves the controller's side. -/
theorem Shadows.label {w w' : RaceWorld} (h : Shadows w w') (i : Nat) (ok : Bool) :
    Shadows (w.step env drivePathLabelKey driveName (.label i ok)) w' := by
  refine ⟨?_, h.executions⟩
  simp only [RaceWorld.step, LabelWorld.step]
  split
  · exact h.drive
  · split
    · rw [LabelGoroutine.step_drive]
      exact h.drive
    · exact h.drive

/-- An action of the volume controller, taken on both sides, keeps them beside each other: the
    volumes of both are versions of the initial ones, of the same shapes. -/
theorem Shadows.release {w w' : RaceWorld} (h : Shadows w w')
    (hw : RaceInv env drivePathLabelKey driveName initial w)
    (hw' : RaceInv env drivePathLabelKey driveName initial w') (a : ReleaseAction) :
    Shadows (w.step env drivePathLabelKey driveName (.release a))
      (w'.step env drivePathLabelKey driveName (.release a)) := by
  cases a with
  | remove name =>
    simp only [RaceWorld.step, World.step]
    have hv := hw.volumes name
    have hv' := hw'.volumes name
    cases hi : initial.volumes name with
    | none =>
      rw [hi, Option.map_none'] at hv hv'
      rw [hv, hv']
      exact h
    | some v =>
      rw [hi, Option.map_some'] at hv hv'
      rw [hv, hv']
      refine ⟨h.drive, ?_⟩
      simp only [List.map_append, List.map_singleton, h.executions, Execution.shape, raced_shape,
        h.drive]
  | step i ok =>
    simp only [RaceWorld.step, World.step]
    have hi := congrArg (·[i]?) h.executions
    simp only [List.getElem?_map] at hi
    cases he : w.executions[i]? <;> cases he' : w'.executions[i]? <;> rw [he, he'] at hi
    case none.none => exact h
    case none.some | some.none => cases hi
    case some.some e e' =>
      obtain ⟨hdrive, hshape⟩ := Execution.step_shape env ok h.drive (Option.some.inj hi)
      exact ⟨hdrive, by rw [List.map_set, List.map_set, h.executions, hshape]⟩

/-- Over every run, the interleaving beside the run of its controller's actions alone. -/
theorem Shadows.run (hnames : ∀ n v, initial.volumes n = some v → v.name = n)
    (actions : List RaceAction) : ∀ {w w' : RaceWorld}, Shadows w w' →
      RaceInv env drivePathLabelKey driveName initial w →
      RaceInv env drivePathLabelKey driveName initial w' →
      Shadows (w.run env drivePathLabelKey driveName actions)
        (w'.run env drivePathLabelKey driveName ((releaseActions actions).map .release)) := by
  induction actions with
  | nil => exact fun h _ _ => h
  | cons a actions ih =>
    intro w w' h hw hw'
    cases a with
    | release a => exact ih (h.release hw hw' a) (hw.release hnames a) (hw'.release hnames a)
    | label i ok => exact ih (h.label i ok) (hw.label hnames i ok) hw'

end

/-- Without goroutines, the interleaving is the controller's run. -/
theorem RaceWorld.run_release (env : Env) (drivePathLabelKey driveName : String)
    (actions : List ReleaseAction) : ∀ (store : Store) (executions : List Execution),
    RaceWorld.run env drivePathLabelKey driveName ⟨store, executions, []⟩ (actions.map .release) =
      let w := World.run env ⟨store, executions⟩ actions
      ⟨w.store, w.executions, []⟩ := by
  induction actions with
  | nil => exact fun _ _ => rfl
  | cons a actions ih => exact fun store executions => ih _ _

/-- The controller alone, from its start. -/
theorem raceInv_alone (env : Env) (drivePathLabelKey driveName : String) (store : Store) :
    RaceInv env drivePathLabelKey driveName store ⟨store, [], []⟩ :=
  ⟨fun n => by cases store.volumes n <;> rfl, fun _ h => absurd h (List.not_mem_nil _),
    fun _ h => absurd h (List.not_mem_nil _), fun _ h => absurd h (List.not_mem_nil _)⟩

/-- The goroutines that `update` starts beside the controller alone, from their start. -/
theorem raceWorld_run_shadows (env : Env) (drivePathLabelKey : String) (drive : DirectCSIDrive)
    (store : Store) (hnames : ∀ n v, store.volumes n = some v → v.name = n)
    (actions : List RaceAction) :
    let w := World.run env ⟨store, []⟩ (releaseActions actions)
    Shadows (RaceWorld.run env drivePathLabelKey (env.sanitizeDrivePath drive.status.path)
      ⟨store, [], labelGoroutines env drive⟩ actions) ⟨w.store, w.executions, []⟩ := by
  intro w
  rw [← RaceWorld.run_release env drivePathLabelKey (env.sanitizeDrivePath drive.status.path)]
  exact Shadows.run hnames actions ⟨rfl, rfl⟩ (raceInv_start _ _ _ drive store)
    (raceInv_alone _ _ _ store)

/-- Whatever the label goroutines do, the drive and every execution of `remove` end as the volume
    controller's actions leave them when run alone. -/
theorem raceWorld_run_drive (env : Env) (drivePathLabelKey : String) (drive : DirectCSIDrive)
    (store : Store) (hnames : ∀ n v, store.volumes n = some v → v.name = n)
    (actions : List RaceAction) :
    let w := RaceWorld.run env drivePathLabelKey (env.sanitizeDrivePath drive.status.path)
      ⟨store, [], labelGoroutines env drive⟩ actions
    let w' := World.run env ⟨store, []⟩ (releaseActions actions)
    w.store.drive = w'.store.drive ∧
      w.executions.map Execution.shape = w'.executions.map Execution.shape :=
  let h := raceWorld_run_shadows env drivePathLabelKey drive store hnames actions
  ⟨h.drive, h.executions⟩

/-- The goroutine reads and writes the volume while an execution of `remove` runs on its older
    copy, which then fails to write it. -/
theorem raceWorld_run_drive_label_during_remove :
    let volume : DirectCSIVolume :=
      { name := "v", labels := some [], deletionTimestamp := some 1,
        finalizers := ["purge-protection"], status := { drive := "d" } }
    let drive : DirectCSIDrive :=
      { name := "d", finalizers := ["drive/v"], status := { driveStatus := .inUse } }
    let store : Store := { drive := drive, volumes := GoMap.empty.insert volume.name volume }
    let actions : List RaceAction :=
      [.release (.remove "v"), .release (.step 0 true), .label 0 true, .release (.step 0 true),
        .label 0 true, .release (.step 0 true), .release (.step 0 true), .release (.step 0 true)]
    let w := RaceWorld.run sampleEnv "path" (sampleEnv.sanitizeDrivePath drive.status.path)
      ⟨store, [], labelGoroutines sampleEnv drive⟩ actions
    let w' := World.run sampleEnv ⟨store, []⟩ (releaseActions actions)
    (∀ n v, store.volumes n = some v → v.name = n) ∧
      w.store.drive = w'.store.drive ∧
      w.executions.map Execution.shape = w'.executions.map Execution.shape :=
  ⟨insert_name_eq _, raceWorld_run_drive sampleEnv "path" _ _ (insert_name_eq _) _⟩

/-- The volumes `initialWorld` stores are stored under their names. -/
theorem initialWorld_names (initial : DirectCSIDrive) (volumes : List DirectCSIVolume) :
    ∀ n v, (initialWorld initial volumes).store.volumes n = some v → v.name = n :=
  fun n v h => by
    have h' : volumes.find? (·.name = n) = some v := h
    simpa using List.find?_some h'

/-- While the label goroutines run, the drive's free and allocated capacity still credit each
    volume whose finalizer is off the drive once, as when the volume controller runs alone. -/
theorem raceWorld_run_capacity (env : Env) (drivePathLabelKey : String) (initial : DirectCSIDrive)
    (volumes : List DirectCSIVolume) (hnames : (volumes.map (·.name)).Nodup)
    (hheld : ∀ v ∈ volumes, driveFinalizer env v.name ∈ initial.finalizers)
    (hcapacity : initial.status.allocatedCapacity =
      initial.status.totalCapacity - initial.status.freeCapacity)
    (actions : List RaceAction) :
    let drive := (RaceWorld.run env drivePathLabelKey (env.sanitizeDrivePath initial.status.path)
      ⟨(initialWorld initial volumes).store, [], labelGoroutines env initial⟩ actions).store.drive
    drive.status.freeCapacity =
        initial.status.freeCapacity + releasedCapacity env volumes drive.finalizers ∧
      drive.status.allocatedCapacity =
        initial.status.allocatedCapacity - releasedCapacity env volumes drive.finalizers := by
  intro drive
  have hdrive : drive = (World.run env (initialWorld initial volumes) (releaseActions actions)).store.drive :=
    (raceWorld_run_shadows env drivePathLabelKey initial _ (initialWorld_names initial volumes)
      actions).drive
  have hs := (World.run_inv hnames (initialWorld_inv hnames hheld hcapacity)
    (releaseActions actions)).store
  rw [hdrive]
  refine ⟨hs.freeCapacity, ?_⟩
  rw [hs.allocatedCapacity, hs.totalCapacity, hs.freeCapacity, hcapacity, sub_add_eq_sub_sub]

/-- One volume of 40 on a drive of 100, labelled while `remove` releases it. -/
theorem raceWorld_run_capacity_one_volume :
    let volume : DirectCSIVolume :=
      { name := "v1", labels := some [], deletionTimestamp := some 1,
        finalizers := ["purge-protection"], status := { drive := "d", totalCapacity := 40 } }
    let initial : DirectCSIDrive :=
      { name := "d", finalizers := ["drive/v1"],
        status :=
          { driveStatus := .inUse, totalCapacity := 100, allocatedCapacity := 40,
            freeCapacity := 60 } }
    let actions : List RaceAction :=
      [.label 0 true, .release (.remove "v1"), .label 0 true, .release (.step 0 true),
        .release (.step 0 true), .release (.step 0 true), .release (.step 0 true),
        .release (.step 0 true)]
    (([volume].map (·.name)).Nodup ∧
      (∀ v ∈ [volume], driveFinalizer sampleEnv v.name ∈ initial.finalizers) ∧
      initial.status.allocatedCapacity =
        initial.status.totalCapacity - initial.status.freeCapacity) ∧
    let drive := (RaceWorld.run sampleEnv "path" (sampleEnv.sanitizeDrivePath initial.status.path)
      ⟨(initialWorld initial [volume]).store, [], labelGoroutines sampleEnv initial⟩ actions).store.drive
    drive.status.freeCapacity =
        initial.status.freeCapacity + releasedCapacity sampleEnv [volume] drive.finalizers ∧
      drive.status.allocatedCapacity =
        initial.status.allocatedCapacity - releasedCapacity sampleEnv [volume] drive.finalizers :=
  ⟨⟨by decide, by decide, by decide⟩,
    raceWorld_run_capacity sampleEnv "path" _ _ (by decide) (by decide) (by decide) _⟩

/-- In that run the volume is released: its finalizer is off the drive and its 40 are free. -/
example :
    let volume : DirectCSIVolume :=
      { name := "v1", labels := some [], deletionTimestamp := some 1,
        finalizers := ["purge-protection"], status := { drive := "d", totalCapacity := 40 } }
    let initial : DirectCSIDrive :=
      { name := "d", finalizers := ["drive/v1"],
        status :=
          { driveStatus := .inUse, totalCapacity := 100, allocatedCapacity := 40,
            freeCapacity := 60 } }
    let drive := (RaceWorld.run sampleEnv "path" "" ⟨(initialWorld initial [volume]).store, [],
      labelGoroutines sampleEnv initial⟩
      [.label 0 true, .release (.remove "v1"), .label 0 true, .release (.step 0 true),
        .release (.step 0 true), .release (.step 0 true), .release (.step 0 true),
        .release (.step 0 true)]).store.drive
    drive.finalizers = [] ∧ drive.status.freeCapacity = 100 ∧
      drive.status.allocatedCapacity = 0 := by
  dsimp only
  decide

end DirectPV
