import DirectPV.Types

/-! `syncVolumeLabels` (`src/unnamed/part_001`): after a drive's path changed, the drive-path label
    of the volumes the drive holds.

    For each finalizer of the drive with prefix `DirectCSIDriveFinalizerPrefix`, the loop reads the
    volume the finalizer names, sets its label `DrivePathLabelKey` to
    `SanitizeDrivePath(drive.Status.Path)` and writes it back, retrying on a conflict. The volume
    store answers `Get` and `Update` from its objects and fails them for the names it fails them
    for, on every attempt; `VolumeStore.labelError` is the error one label update then ends with.

    When every named volume's update goes through, the loop sets the label on exactly those volumes
    (`syncVolumeLabelsLoop_of_labelError`). It returns at the first update that fails, though, and
    leaves every volume after it as it is; and it assigns into the labels of a volume without
    allocating them, so a volume with no labels is a panic (`syncVolumeLabels_stops_at_first_failure`). -/

namespace DirectPV

/-- The volume objects of the API server as `syncVolumeLabels` sees them: the objects by name, and
    the error with which a `Get` or an `Update` of a name fails, if it does. -/
structure VolumeStore where
  volumes : GoMap String DirectCSIVolume
  getError : String → Option GoError
  updateError : String → Option GoError
  name_eq : ∀ name volume, volumes name = some volume → volume.name = name

/-- The store with `volume` written under its name. -/
def VolumeStore.write (store : VolumeStore) (volume : DirectCSIVolume) : VolumeStore where
  volumes := store.volumes.insert volume.name volume
  getError := store.getError
  updateError := store.updateError
  name_eq name v h := by
    rw [GoMap.insert_apply] at h
    split_ifs at h with hn
    · cases h
      exact hn.symm
    · exact store.name_eq name v h

/-- `volumeInterface.Get(ctx, volumeName, ...)`. -/
def VolumeStore.get (store : VolumeStore) (volumeName : String) : Except GoError DirectCSIVolume :=
  match store.getError volumeName, store.volumes volumeName with
  | some err, _ => .error err
  | none, some volume => .ok volume
  | none, none => .error (.notFound volumeName)

/-- `volumeInterface.Update(ctx, volume, ...)`: the object of that name is replaced. -/
def VolumeStore.update (store : VolumeStore) (volume : DirectCSIVolume) :
    Except GoError VolumeStore :=
  match store.updateError volume.name, store.volumes volume.name with
  | some err, _ => .error err
  | none, some _ => .ok (store.write volume)
  | none, none => .error (.notFound volume.name)

/-- The closure `updateLabels(volumeName, driveName)`: read the volume, set its label
    `DrivePathLabelKey`, write it back. `volume.Labels[key] = driveName` assigns into a map that a
    volume with no labels does not have. -/
def updateVolumeLabel (drivePathLabelKey volumeName driveName : String) (store : VolumeStore) :
    Except GoError VolumeStore := do
  let volume ← store.get volumeName
  match volume.labels with
  | none => throw (.panic "assignment to entry in nil map")
  | some labels => store.update { volume with labels := some (setLabel labels drivePathLabelKey driveName) }

/-- `retry.RetryOnConflict` of client-go: `fn` runs again after a conflict, at most `steps` times in
    all, and the last conflict is returned when they run out. -/
def retryOnConflict (fn : VolumeStore → Except GoError VolumeStore) :
    Nat → VolumeStore → Except GoError VolumeStore
  | 0, store => .ok store
  | 1, store => fn store
  | steps + 2, store =>
    match fn store with
    | .error (.conflict _) => retryOnConflict fn (steps + 1) store
    | r => r

/-- `retry.DefaultRetry.Steps`. -/
def defaultRetrySteps : Nat := 5

/-- The loop of `syncVolumeLabels` over the finalizers left. -/
def syncVolumeLabelsLoop (env : Env) (drivePathLabelKey driveName : String) :
    List String → VolumeStore → VolumeStore × Option GoError
  | [], store => (store, none)
  | finalizer :: finalizers, store =>
    if !hasPrefix finalizer env.driveFinalizerPrefix then
      syncVolumeLabelsLoop env drivePathLabelKey driveName finalizers store
    else
      let volumeName := trimPrefix finalizer env.driveFinalizerPrefix
      match retryOnConflict (updateVolumeLabel drivePathLabelKey volumeName driveName)
          defaultRetrySteps store with
      | .error err => (store, some err)
      | .ok store' => syncVolumeLabelsLoop env drivePathLabelKey driveName finalizers store'

/-- `syncVolumeLabels`: the volume store after the loop, and the error it returns. -/
def syncVolumeLabels (env : Env) (drivePathLabelKey : String) (drive : DirectCSIDrive)
    (store : VolumeStore) : VolumeStore × Option GoError :=
  syncVolumeLabelsLoop env drivePathLabelKey (env.sanitizeDrivePath drive.status.path)
    drive.finalizers store

/-- A store of the listed objects, found by name. -/
def VolumeStore.ofList (volumes : List DirectCSIVolume)
    (getError updateError : String → Option GoError) : VolumeStore where
  volumes name := volumes.find? (·.name = name)
  getError := getError
  updateError := updateError
  name_eq name volume h := by simpa using List.find?_some h

/-! ### One label update -/

/-- The error the label update of a name ends with, if it does: the `Get` error, a missing object,
    the panic on a volume without labels, or the `Update` error. -/
def VolumeStore.labelError (store : VolumeStore) (name : String) : Option GoError :=
  match store.getError name, store.volumes name with
  | some err, _ => some err
  | none, none => some (.notFound name)
  | none, some volume =>
    match volume.labels with
    | none => some (.panic "assignment to entry in nil map")
    | some _ => store.updateError name

/-- A volume with its drive-path label set. -/
def setDrivePathLabel (drivePathLabelKey driveName : String) (volume : DirectCSIVolume) :
    DirectCSIVolume :=
  { volume with labels := volume.labels.map (setLabel · drivePathLabelKey driveName) }

/-- The store with the drive-path label set on the object of that name. -/
def VolumeStore.labelled (store : VolumeStore) (drivePathLabelKey driveName name : String) :
    VolumeStore :=
  match store.volumes name with
  | some volume => store.write (setDrivePathLabel drivePathLabelKey driveName volume)
  | none => store

/-- Setting a label twice is setting it once. -/
theorem setLabel_setLabel (labels : List (String × String)) (key value : String) :
    setLabel (setLabel labels key value) key value = setLabel labels key value := by
  simp [setLabel, List.filter_filter]

theorem setDrivePathLabel_idem (drivePathLabelKey driveName : String) (volume : DirectCSIVolume) :
    setDrivePathLabel drivePathLabelKey driveName (setDrivePathLabel drivePathLabelKey driveName volume) =
      setDrivePathLabel drivePathLabelKey driveName volume := by
  cases h : volume.labels <;> simp [setDrivePathLabel, h, setLabel_setLabel]

theorem map_setDrivePathLabel_idem (drivePathLabelKey driveName : String)
    (volume : Option DirectCSIVolume) :
    (volume.map (setDrivePathLabel drivePathLabelKey driveName)).map
        (setDrivePathLabel drivePathLabelKey driveName) =
      volume.map (setDrivePathLabel drivePathLabelKey driveName) := by
  cases volume <;> simp only [Option.map_none', Option.map_some', setDrivePathLabel_idem]

/-- The label update of a name: it fails with `labelError`, or sets the label on that object. -/
theorem updateVolumeLabel_eq (drivePathLabelKey name driveName : String) (store : VolumeStore) :
    updateVolumeLabel drivePathLabelKey name driveName store =
      match store.labelError name with
      | some err => .error err
      | none => .ok (store.labelled drivePathLabelKey driveName name) := by
  unfold updateVolumeLabel VolumeStore.labelError VolumeStore.labelled VolumeStore.get
  cases hg : store.getError name with
  | some err => rfl
  | none =>
    cases hv : store.volumes name with
    | none => rfl
    | some volume =>
      simp only [bind, Except.bind]
      cases hl : volume.labels with
      | none => rfl
      | some labels =>
        simp only [VolumeStore.update, store.name_eq name volume hv, hv, setDrivePathLabel, hl,
          Option.map_some']
        cases store.updateError name <;> rfl

/-- A failed attempt leaves the store as it is, so it fails again: retrying changes nothing. -/
theorem retryOnConflict_eq (fn : VolumeStore → Except GoError VolumeStore) :
    ∀ steps store, 0 < steps → retryOnConflict fn steps store = fn store
  | 1, _, _ => rfl
  | steps + 2, store, _ => by
    rw [retryOnConflict]
    split
    · rename_i h
      rw [retryOnConflict_eq fn (steps + 1) store (Nat.succ_pos _), h]
    · rfl

@[simp] theorem setDrivePathLabel_name (drivePathLabelKey driveName : String)
    (volume : DirectCSIVolume) :
    (setDrivePathLabel drivePathLabelKey driveName volume).name = volume.name := rfl

@[simp] theorem VolumeStore.labelled_getError (store : VolumeStore)
    (drivePathLabelKey driveName name : String) :
    (store.labelled drivePathLabelKey driveName name).getError = store.getError := by
  unfold VolumeStore.labelled; split <;> rfl

@[simp] theorem VolumeStore.labelled_updateError (store : VolumeStore)
    (drivePathLabelKey driveName name : String) :
    (store.labelled drivePathLabelKey driveName name).updateError = store.updateError := by
  unfold VolumeStore.labelled; split <;> rfl

/-- The objects after a label update: only that name's, which gets the label. -/
theorem VolumeStore.labelled_volumes (store : VolumeStore) (drivePathLabelKey driveName name : String)
    (n : String) :
    (store.labelled drivePathLabelKey driveName name).volumes n =
      if n = name then (store.volumes n).map (setDrivePathLabel drivePathLabelKey driveName)
      else store.volumes n := by
  unfold VolumeStore.labelled
  cases hv : store.volumes name with
  | none => split_ifs with h <;> simp [h, hv]
  | some volume =>
    obtain rfl := store.name_eq name volume hv
    simp only [VolumeStore.write, GoMap.insert_apply, setDrivePathLabel_name]
    split_ifs with h
    · simp [h, hv]
    · rfl

/-- A label update that goes through leaves every name's update as it was. -/
theorem VolumeStore.labelError_labelled {store : VolumeStore}
    {drivePathLabelKey driveName name : String} (h : store.labelError name = none) (n : String) :
    (store.labelled drivePathLabelKey driveName name).labelError n = store.labelError n := by
  unfold VolumeStore.labelError at h ⊢
  rw [VolumeStore.labelled_getError, VolumeStore.labelled_updateError,
    VolumeStore.labelled_volumes]
  split_ifs with hn
  · subst hn
    cases hg : store.getError n with
    | some err => simp [hg] at h
    | none =>
      cases hv : store.volumes n with
      | none => simp [hg, hv] at h
      | some volume =>
        cases hl : volume.labels with
        | none => simp [hg, hv, hl] at h
        | some labels => simp [hv, hl, setDrivePathLabel]
  · rfl

/-! ### The loop -/

/-- The names of the volumes that the finalizers with the drive-finalizer prefix name, in order. -/
def volumeNames (env : Env) (finalizers : List String) : List String :=
  finalizers.filterMap fun f =>
    if hasPrefix f env.driveFinalizerPrefix then some (trimPrefix f env.driveFinalizerPrefix)
    else none

section
variable (env : Env) (drivePathLabelKey driveName : String)

/-- One finalizer: skipped without the prefix; else the label update of the volume it names, and
    the loop ends when that fails. -/
theorem syncVolumeLabelsLoop_cons (finalizer : String) (finalizers : List String)
    (store : VolumeStore) :
    syncVolumeLabelsLoop env drivePathLabelKey driveName (finalizer :: finalizers) store =
      if hasPrefix finalizer env.driveFinalizerPrefix then
        match store.labelError (trimPrefix finalizer env.driveFinalizerPrefix) with
        | some err => (store, some err)
        | none => syncVolumeLabelsLoop env drivePathLabelKey driveName finalizers
            (store.labelled drivePathLabelKey driveName (trimPrefix finalizer env.driveFinalizerPrefix))
      else syncVolumeLabelsLoop env drivePathLabelKey driveName finalizers store := by
  rw [syncVolumeLabelsLoop]
  dsimp only
  rw [retryOnConflict_eq _ _ _ (by decide), updateVolumeLabel_eq]
  cases hasPrefix finalizer env.driveFinalizerPrefix
  · rfl
  · cases store.labelError (trimPrefix finalizer env.driveFinalizerPrefix) <;> rfl

/-- The loop over two lists of finalizers goes on over the second from where the first ends,
    unless the first returned an error. -/
theorem syncVolumeLabelsLoop_append (pre post : List String) : ∀ store,
    syncVolumeLabelsLoop env drivePathLabelKey driveName (pre ++ post) store =
      match syncVolumeLabelsLoop env drivePathLabelKey driveName pre store with
      | (store', none) => syncVolumeLabelsLoop env drivePathLabelKey driveName post store'
      | r => r := by
  induction pre with
  | nil => intro store; rfl
  | cons finalizer pre ih =>
    intro store
    rw [List.cons_append, syncVolumeLabelsLoop_cons, syncVolumeLabelsLoop_cons]
    by_cases hf : hasPrefix finalizer env.driveFinalizerPrefix
    · rw [if_pos hf, if_pos hf]
      cases store.labelError (trimPrefix finalizer env.driveFinalizerPrefix) with
      | some err => rfl
      | none => exact ih _
    · rw [if_neg hf, if_neg hf]
      exact ih store

/-- When every named volume's label update goes through, the loop returns no error, sets the
    label on exactly the named volumes, and leaves every name's update as it was. -/
theorem syncVolumeLabelsLoop_of_labelError (finalizers : List String) : ∀ store : VolumeStore,
    (∀ name ∈ volumeNames env finalizers, store.labelError name = none) →
    (syncVolumeLabelsLoop env drivePathLabelKey driveName finalizers store).2 = none ∧
    (∀ n, (syncVolumeLabelsLoop env drivePathLabelKey driveName finalizers store).1.volumes n =
      if n ∈ volumeNames env finalizers then
        (store.volumes n).map (setDrivePathLabel drivePathLabelKey driveName)
      else store.volumes n) ∧
    ∀ n, (syncVolumeLabelsLoop env drivePathLabelKey driveName finalizers store).1.labelError n =
      store.labelError n := by
  induction finalizers with
  | nil => intro store _; simp [syncVolumeLabelsLoop, volumeNames]
  | cons finalizer finalizers ih =>
    intro store hok
    rw [syncVolumeLabelsLoop_cons]
    by_cases hf : hasPrefix finalizer env.driveFinalizerPrefix
    · have hnames : volumeNames env (finalizer :: finalizers) =
          trimPrefix finalizer env.driveFinalizerPrefix :: volumeNames env finalizers := by
        simp [volumeNames, hf]
      rw [hnames] at hok ⊢
      have hname := hok _ (List.mem_cons_self _ _)
      rw [if_pos hf, hname]
      obtain ⟨herr, hvolumes, hlabelError⟩ := ih (store.labelled drivePathLabelKey driveName
          (trimPrefix finalizer env.driveFinalizerPrefix)) fun name hn => by
        rw [VolumeStore.labelError_labelled hname]
        exact hok name (List.mem_cons_of_mem _ hn)
      refine ⟨herr, fun n => ?_, fun n => by rw [hlabelError, VolumeStore.labelError_labelled hname]⟩
      rw [hvolumes, VolumeStore.labelled_volumes]
      by_cases hn : n = trimPrefix finalizer env.driveFinalizerPrefix
      · rw [if_pos hn, if_pos (List.mem_cons.2 (.inl hn))]
        split_ifs
        · exact map_setDrivePathLabel_idem _ _ _
        · rfl
      · rw [if_neg hn]
        simp only [List.mem_cons, hn, false_or]
    · have hnames : volumeNames env (finalizer :: finalizers) = volumeNames env finalizers := by
        simp [volumeNames, hf]
      rw [if_neg hf, hnames]
      rw [hnames] at hok
      exact ih store hok

end

/-- `syncVolumeLabels` stops at the first named volume whose label update fails, a volume with no
    labels included: it returns that error, and only the volumes named before it get the label. -/
theorem syncVolumeLabels_stops_at_first_failure (env : Env) (drivePathLabelKey : String)
    (drive : DirectCSIDrive) (store : VolumeStore) (pre post : List String) (finalizer : String)
    (err : GoError) (hfinalizers : drive.finalizers = pre ++ finalizer :: post)
    (hpre : ∀ name ∈ volumeNames env pre, store.labelError name = none)
    (hnamed : hasPrefix finalizer env.driveFinalizerPrefix = true)
    (hfail : store.labelError (trimPrefix finalizer env.driveFinalizerPrefix) = some err) :
    (syncVolumeLabels env drivePathLabelKey drive store).2 = some err ∧
      ∀ name ∉ volumeNames env pre,
        (syncVolumeLabels env drivePathLabelKey drive store).1.volumes name = store.volumes name := by
  obtain ⟨herr, hvolumes, hlabelError⟩ := syncVolumeLabelsLoop_of_labelError env drivePathLabelKey
    (env.sanitizeDrivePath drive.status.path) pre store hpre
  rw [syncVolumeLabels, hfinalizers, syncVolumeLabelsLoop_append]
  revert herr hvolumes hlabelError
  cases syncVolumeLabelsLoop env drivePathLabelKey (env.sanitizeDrivePath drive.status.path) pre store
  rintro rfl hvolumes hlabelError
  dsimp only
  rw [syncVolumeLabelsLoop_cons, if_pos hnamed, hlabelError, hfail]
  exact ⟨rfl, fun name hname => (hvolumes name).trans (if_neg hname)⟩

/-- Two volumes, the first without labels: the loop panics on it and never labels the second. -/
theorem syncVolumeLabels_stops_on_unlabelled_volume :
    let store := VolumeStore.ofList [{ name := "v1", status := {} },
      { name := "v2", labels := some [], status := {} }] (fun _ => none) (fun _ => none)
    let drive : DirectCSIDrive :=
      { finalizers := ["drive/v1", "drive/v2"], status := { driveStatus := .inUse } }
    drive.finalizers = [] ++ "drive/v1" :: ["drive/v2"] ∧
      (∀ name ∈ volumeNames sampleEnv [], store.labelError name = none) ∧
      hasPrefix "drive/v1" sampleEnv.driveFinalizerPrefix = true ∧
      store.labelError (trimPrefix "drive/v1" sampleEnv.driveFinalizerPrefix) =
        some (.panic "assignment to entry in nil map") ∧
      (syncVolumeLabels sampleEnv "path" drive store).2 =
        some (.panic "assignment to entry in nil map") ∧
      ∀ name ∉ volumeNames sampleEnv [],
        (syncVolumeLabels sampleEnv "path" drive store).1.volumes name = store.volumes name :=
  let store := VolumeStore.ofList [{ name := "v1", status := {} },
    { name := "v2", labels := some [], status := {} }] (fun _ => none) (fun _ => none)
  have hpanic : store.labelError (trimPrefix "drive/v1" sampleEnv.driveFinalizerPrefix) =
      some (.panic "assignment to entry in nil map") := by decide
  ⟨rfl, fun _ h => absurd h (List.not_mem_nil _), by decide, hpanic,
    syncVolumeLabels_stops_at_first_failure sampleEnv "path"
      { finalizers := ["drive/v1", "drive/v2"], status := { driveStatus := .inUse } } store [] ["drive/v2"]
      "drive/v1" _ rfl (fun _ h => absurd h (List.not_mem_nil _)) (by decide) hpanic⟩

end DirectPV
