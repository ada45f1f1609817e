import DirectPV.Node.Labels
import DirectPV.Volume.Release

/-! `getLabels` and `SyncVolumes` of package `volume`: at start-up, the labels of every volume of
    the node.

    `SyncVolumes` lists the volumes and skips those of other nodes. For each of its own it reads
    the volume again, replaces its labels by `getLabels` of what it read and writes it back,
    retrying on a conflict; a volume that fails is logged and the loop goes on. The volume store
    is `VolumeStore`, which fails `Get` and `Update` for the same names on every attempt; the
    drives are what `Get` answers for each name, since the loop writes none.

    The loop relabels exactly the listed volumes of the node whose `Get` and `Update` go through,
    each from its stored object, and leaves every other volume as it is (`syncVolumes_volumes`).
    A second run over the volumes the first one listed changes nothing (`syncVolumes_twice`). -/

namespace DirectPV

/-- What `getLabels` uses of package `utils` and is not in the sources. -/
structure LabelEnv where
  /-- `utils.NodeLabel`. -/
  nodeLabel : String
  /-- `utils.ReservedDrivePathLabel`. -/
  reservedDrivePathLabel : String
  /-- `utils.DriveLabel`. -/
  driveLabel : String
  /-- `utils.CreatedByLabel`. -/
  createdByLabel : String
  /-- `utils.SanitizeLabelV`. -/
  sanitizeLabelV : String → String

/-- A `LabelEnv` to run `SyncVolumes` on: short keys, and `SanitizeLabelV` the identity. -/
def sampleLabelEnv : LabelEnv where
  nodeLabel := "node"
  reservedDrivePathLabel := "path"
  driveLabel := "drive"
  createdByLabel := "created-by"
  sanitizeLabelV value := value

/-- `labels[k] = v` for each assignment in turn. -/
def setLabels (labels assignments : List (String × String)) : List (String × String) :=
  assignments.foldl (fun labels a => setLabel labels a.1 a.2) labels

/-- `driveName, drivePath` of `getLabels`: the name and path of the drive the volume names, when
    it can be read and holds the volume's finalizer, and empty strings otherwise. The loop over
    the finalizers stops at the first that is the volume's, and sets the same pair whichever it
    is. -/
def labelDrive (env : Env) (getDrive : String → Except GoError DirectCSIDrive)
    (volume : DirectCSIVolume) : String × String :=
  match getDrive volume.status.drive with
  | .ok drive =>
    if driveFinalizer env volume.name ∈ drive.finalizers then (drive.name, drive.status.path)
    else ("", "")
  | .error _ => ("", "")

/-- The four assignments of `getLabels`, in the source's order. -/
def labelAssignments (env : Env) (labelEnv : LabelEnv)
    (getDrive : String → Except GoError DirectCSIDrive) (volume : DirectCSIVolume) :
    List (String × String) :=
  let (driveName, drivePath) := labelDrive env getDrive volume
  [(labelEnv.nodeLabel, volume.status.nodeName),
    (labelEnv.reservedDrivePathLabel, filepathBase drivePath),
    (labelEnv.driveLabel, labelEnv.sanitizeLabelV driveName),
    (labelEnv.createdByLabel, "directcsi-controller")]

/-- `getLabels`: the volume's labels, allocated when `nil`, with the four assignments made. -/
def getLabels (env : Env) (labelEnv : LabelEnv) (getDrive : String → Except GoError DirectCSIDrive)
    (volume : DirectCSIVolume) : List (String × String) :=
  setLabels (volume.labels.getD []) (labelAssignments env labelEnv getDrive volume)

/-- The closure `updateLabels(&volume)` of `SyncVolumes`: read the volume again by name, set its
    labels to `getLabels` of what was read, write it back. -/
def syncVolumes.updateLabels (env : Env) (labelEnv : LabelEnv)
    (getDrive : String → Except GoError DirectCSIDrive) (volumeName : String) (store : VolumeStore) :
    Except GoError VolumeStore := do
  let volume ← store.get volumeName
  store.update { volume with labels := some (getLabels env labelEnv getDrive volume) }

/-- The loop of `SyncVolumes` over the listed volumes: a volume of another node is skipped, and a
    volume whose relabelling fails is logged and left. -/
def syncVolumesLoop (env : Env) (labelEnv : LabelEnv)
    (getDrive : String → Except GoError DirectCSIDrive) (nodeID : String) :
    List DirectCSIVolume → VolumeStore → VolumeStore
  | [], store => store
  | volume :: volumes, store =>
    if volume.status.nodeName ≠ nodeID then
      syncVolumesLoop env labelEnv getDrive nodeID volumes store
    else
      match retryOnConflict (syncVolumes.updateLabels env labelEnv getDrive volume.name)
          defaultRetrySteps store with
      | .error _ => syncVolumesLoop env labelEnv getDrive nodeID volumes store
      | .ok store' => syncVolumesLoop env labelEnv getDrive nodeID volumes store'

/-- `SyncVolumes`: `volumeList` is what `List` returned; when it failed, nothing is written. -/
def syncVolumes (env : Env) (labelEnv : LabelEnv) (getDrive : String → Except GoError DirectCSIDrive)
    (nodeID : String) (volumeList : Except GoError (List DirectCSIVolume)) (store : VolumeStore) :
    VolumeStore :=
  match volumeList with
  | .error _ => store
  | .ok volumes => syncVolumesLoop env labelEnv getDrive nodeID volumes store

/-! ### Setting labels twice -/

theorem setLabels_cons (labels : List (String × String)) (a : String × String)
    (assignments : List (String × String)) :
    setLabels labels (a :: assignments) = setLabels (setLabel labels a.1 a.2) assignments := rfl

/-- The assigned labels first, then the labels of other keys as they were. -/
theorem setLabels_eq (assignments : List (String × String)) : ∀ labels : List (String × String),
    setLabels labels assignments =
      setLabels [] assignments ++ labels.filter (·.1 ∉ assignments.map (·.1)) := by
  induction assignments with
  | nil => intro labels; simp [setLabels]
  | cons a as ih =>
    intro labels
    rw [setLabels_cons, ih, setLabels_cons, ih (setLabel [] a.1 a.2), List.append_assoc]
    congr 1
    simp only [setLabel, List.filter_cons, List.filter_nil, List.filter_filter, List.map_cons,
      List.mem_cons, not_or]
    split <;> simp [Bool.and_comm]

theorem mem_setLabels {p : String × String} (assignments : List (String × String)) :
    ∀ labels, p ∈ setLabels labels assignments → p ∈ labels ∨ p.1 ∈ assignments.map (·.1) := by
  induction assignments with
  | nil => intro labels h; exact .inl h
  | cons a as ih =>
    intro labels h
    rcases ih _ h with h | h
    · rcases List.mem_cons.1 h with rfl | h
      · exact .inr (List.mem_cons_self _ _)
      · exact .inl (List.mem_of_mem_filter h)
    · exact .inr (List.mem_cons_of_mem _ h)

/-- Making the same assignments twice is making them once. -/
theorem setLabels_setLabels (labels assignments : List (String × String)) :
    setLabels (setLabels labels assignments) assignments = setLabels labels assignments := by
  have hassigned : (setLabels [] assignments).filter (·.1 ∉ assignments.map (·.1)) = [] :=
    List.filter_eq_nil_iff.2 fun p hp => by
      simpa using (mem_setLabels assignments [] hp).resolve_left (List.not_mem_nil _)
  rw [setLabels_eq assignments (setLabels labels assignments), setLabels_eq assignments labels,
    List.filter_append, hassigned, List.filter_filter]
  simp

/-! ### One volume -/

section
variable (env : Env) (labelEnv : LabelEnv) (getDrive : String → Except GoError DirectCSIDrive)

/-- A volume with its labels set to `getLabels`. -/
def relabelVolume (volume : DirectCSIVolume) : DirectCSIVolume :=
  { volume with labels := some (getLabels env labelEnv getDrive volume) }

/-- The error the relabelling of a name ends with, if it does: the `Get` error, a missing object,
    or the `Update` error. Unlike `labelError`, there is no panic: `getLabels` allocates. -/
def VolumeStore.syncError (store : VolumeStore) (name : String) : Option GoError :=
  match store.getError name, store.volumes name with
  | some err, _ => some err
  | none, none => some (.notFound name)
  | none, some _ => store.updateError name

/-- The store with the object of that name relabelled. -/
def VolumeStore.relabelled (store : VolumeStore) (name : String) : VolumeStore :=
  match store.volumes name with
  | some volume => store.write (relabelVolume env labelEnv getDrive volume)
  | none => store

@[simp] theorem relabelVolume_name (volume : DirectCSIVolume) :
    (relabelVolume env labelEnv getDrive volume).name = volume.name := rfl

/-- `getLabels` reads the volume's labels, name and status, and relabelling changes only the
    labels, to the ones it computes. -/
theorem getLabels_relabelVolume (volume : DirectCSIVolume) :
    getLabels env labelEnv getDrive (relabelVolume env labelEnv getDrive volume) =
      getLabels env labelEnv getDrive volume :=
  setLabels_setLabels _ _

theorem relabelVolume_relabelVolume (volume : DirectCSIVolume) :
    relabelVolume env labelEnv getDrive (relabelVolume env labelEnv getDrive volume) =
      relabelVolume env labelEnv getDrive volume := by
  rw [relabelVolume, getLabels_relabelVolume]
  rfl

theorem map_relabelVolume_relabelVolume (volume : Option DirectCSIVolume) :
    (volume.map (relabelVolume env labelEnv getDrive)).map (relabelVolume env labelEnv getDrive) =
      volume.map (relabelVolume env labelEnv getDrive) := by
  cases volume <;> simp only [Option.map_none', Option.map_some', relabelVolume_relabelVolume]

/-- The relabelling of a name fails with `syncError`, or relabels that object. -/
theorem syncVolumes.updateLabels_eq (name : String) (store : VolumeStore) :
    syncVolumes.updateLabels env labelEnv getDrive name store =
      match store.syncError name with
      | some err => .error err
      | none => .ok (store.relabelled env labelEnv getDrive name) := by
  unfold syncVolumes.updateLabels VolumeStore.syncError VolumeStore.relabelled VolumeStore.get
  cases store.getError name with
  | some err => rfl
  | none =>
    cases hv : store.volumes name with
    | none => rfl
    | some volume =>
      obtain rfl := store.name_eq _ volume hv
      simp only [bind, Except.bind, VolumeStore.update, hv]
      cases store.updateError volume.name <;> rfl

@[simp] theorem VolumeStore.relabelled_getError (store : VolumeStore) (name : String) :
    (store.relabelled env labelEnv getDrive name).getError = store.getError := by
  unfold VolumeStore.relabelled; split <;> rfl

@[simp] theorem VolumeStore.relabelled_updateError (store : VolumeStore) (name : String) :
    (store.relabelled env labelEnv getDrive name).updateError = store.updateError := by
  unfold VolumeStore.relabelled; split <;> rfl

/-- The objects after a relabelling: only that name's, which is relabelled. -/
theorem VolumeStore.relabelled_volumes (store : VolumeStore) (name n : String) :
    (store.relabelled env labelEnv getDrive name).volumes n =
      if n = name then (store.volumes n).map (relabelVolume env labelEnv getDrive)
      else store.volumes n := by
  unfold VolumeStore.relabelled
  cases hv : store.volumes name with
  | none => split_ifs with h <;> simp [h, hv]
  | some volume =>
    obtain rfl := store.name_eq name volume hv
    simp only [VolumeStore.write, GoMap.insert_apply, relabelVolume_name]
    split_ifs with h
    · simp [h, hv]
    · rfl

/-- A relabelling leaves every name's error as it was. -/
theorem VolumeStore.syncError_relabelled (store : VolumeStore) (name n : String) :
    (store.relabelled env labelEnv getDrive name).syncError n = store.syncError n := by
  unfold VolumeStore.syncError
  rw [VolumeStore.relabelled_getError, VolumeStore.relabelled_updateError,
    VolumeStore.relabelled_volumes]
  split_ifs
  · cases store.getError n <;> cases store.volumes n <;> rfl
  · rfl

end

/-! ### The loop -/

/-- The names of the listed volumes of the node, in order. -/
def nodeVolumeNames (nodeID : String) (volumes : List DirectCSIVolume) : List String :=
  (volumes.filter (·.status.nodeName = nodeID)).map (·.name)

theorem mem_nodeVolumeNames_cons {nodeID n : String} {volume : DirectCSIVolume}
    {volumes : List DirectCSIVolume} :
    n ∈ nodeVolumeNames nodeID (volume :: volumes) ↔
      (volume.status.nodeName = nodeID ∧ volume.name = n) ∨ n ∈ nodeVolumeNames nodeID volumes := by
  by_cases h : volume.status.nodeName = nodeID <;>
    simp [nodeVolumeNames, List.filter_cons, h, @eq_comm _ n]

section
variable (env : Env) (labelEnv : LabelEnv) (getDrive : String → Except GoError DirectCSIDrive)
  (nodeID : String)

/-- One listed volume: the store is relabelled at its name when it is the node's and its
    relabelling goes through, and left as it is otherwise; either way the loop goes on. -/
theorem syncVolumesLoop_cons (volume : DirectCSIVolume) (volumes : List DirectCSIVolume)
    (store : VolumeStore) :
    syncVolumesLoop env labelEnv getDrive nodeID (volume :: volumes) store =
      syncVolumesLoop env labelEnv getDrive nodeID volumes
        (if volume.status.nodeName = nodeID ∧ store.syncError volume.name = none then
          store.relabelled env labelEnv getDrive volume.name
        else store) := by
  rw [syncVolumesLoop]
  by_cases hn : volume.status.nodeName = nodeID
  · rw [if_neg (not_not.2 hn), retryOnConflict_eq _ _ _ (by decide), syncVolumes.updateLabels_eq]
    cases store.syncError volume.name <;> simp [hn]
  · simp [hn]

/-- The loop leaves every name's error as it was. -/
theorem syncVolumesLoop_syncError (volumes : List DirectCSIVolume) :
    ∀ store n, (syncVolumesLoop env labelEnv getDrive nodeID volumes store).syncError n =
      store.syncError n := by
  induction volumes with
  | nil => intro store n; rfl
  | cons volume volumes ih =>
    intro store n
    rw [syncVolumesLoop_cons, ih]
    split_ifs
    · exact VolumeStore.syncError_relabelled env labelEnv getDrive store _ n
    · rfl

/-- The objects after the loop: the listed volumes of the node without an error are relabelled,
    from their stored objects, and every other object is as it was. -/
theorem syncVolumesLoop_volumes (volumes : List DirectCSIVolume) :
    ∀ store n, (syncVolumesLoop env labelEnv getDrive nodeID volumes store).volumes n =
      if n ∈ nodeVolumeNames nodeID volumes ∧ store.syncError n = none then
        (store.volumes n).map (relabelVolume env labelEnv getDrive)
      else store.volumes n := by
  induction volumes with
  | nil => intro store n; simp [syncVolumesLoop, nodeVolumeNames]
  | cons volume volumes ih =>
    intro store n
    rw [syncVolumesLoop_cons, ih]
    by_cases hc : volume.status.nodeName = nodeID ∧ store.syncError volume.name = none
    · simp only [if_pos hc, VolumeStore.syncError_relabelled, VolumeStore.relabelled_volumes,
        mem_nodeVolumeNames_cons]
      by_cases hn : n = volume.name
      · subst hn
        simp only [hc, and_self, true_or, if_true, map_relabelVolume_relabelVolume, ite_self]
      · simp only [hn, if_false, Ne.symm hn, and_false, false_or]
    · simp only [if_neg hc, mem_nodeVolumeNames_cons]
      by_cases hn : volume.name = n
      · subst hn
        by_cases hnode : volume.status.nodeName = nodeID
        · have herr : store.syncError volume.name ≠ none := fun h => hc ⟨hnode, h⟩
          simp only [herr, and_false]
        · simp only [hnode, false_and, false_or]
      · simp only [hn, and_false, false_or]

end

/-- `SyncVolumes` relabels exactly the listed volumes of the node whose `Get` and `Update` go
    through, each from its stored object; every other volume is left as it is. -/
theorem syncVolumes_volumes (env : Env) (labelEnv : LabelEnv)
    (getDrive : String → Except GoError DirectCSIDrive) (nodeID : String)
    (volumes : List DirectCSIVolume) (store : VolumeStore) (n : String) :
    (syncVolumes env labelEnv getDrive nodeID (.ok volumes) store).volumes n =
      if n ∈ nodeVolumeNames nodeID volumes ∧ store.syncError n = none then
        (store.volumes n).map (relabelVolume env labelEnv getDrive)
      else store.volumes n :=
  syncVolumesLoop_volumes env labelEnv getDrive nodeID volumes store n

/-- A volume without labels, on a drive that cannot be read, gets the four labels, its drive path
    being `"."`. -/
example :
    ((syncVolumes sampleEnv sampleLabelEnv (fun name => .error (.notFound name)) "node-1"
        (.ok [{ name := "v1", status := { drive := "d1", nodeName := "node-1" } }])
        (VolumeStore.ofList [{ name := "v1", status := { drive := "d1", nodeName := "node-1" } }]
          (fun _ => none) (fun _ => none))).volumes "v1").map (·.labels) =
      some (some [("created-by", "directcsi-controller"), ("drive", ""), ("path", "."),
        ("node", "node-1")]) := by
  decide

/-- A second `SyncVolumes`, over volumes that the first one listed for the node, writes nothing
    new: relabelling a relabelled volume gives it the labels it has, and what failed fails again. -/
theorem syncVolumes_twice (env : Env) (labelEnv : LabelEnv)
    (getDrive : String → Except GoError DirectCSIDrive) (nodeID : String)
    (volumes volumes' : List DirectCSIVolume)
    (hlisted : ∀ n ∈ nodeVolumeNames nodeID volumes', n ∈ nodeVolumeNames nodeID volumes)
    (store : VolumeStore) (n : String) :
    let store' := syncVolumes env labelEnv getDrive nodeID (.ok volumes) store
    (syncVolumes env labelEnv getDrive nodeID (.ok volumes') store').volumes n = store'.volumes n := by
  intro store'
  have herror : store'.syncError n = store.syncError n :=
    syncVolumesLoop_syncError env labelEnv getDrive nodeID volumes store n
  have hstore' : store'.volumes n =
      if n ∈ nodeVolumeNames nodeID volumes ∧ store.syncError n = none then
        (store.volumes n).map (relabelVolume env labelEnv getDrive)
      else store.volumes n :=
    syncVolumesLoop_volumes env labelEnv getDrive nodeID volumes store n
  show (syncVolumesLoop env labelEnv getDrive nodeID volumes' store').volumes n = _
  rw [syncVolumesLoop_volumes]
  by_cases h : n ∈ nodeVolumeNames nodeID volumes' ∧ store.syncError n = none
  · rw [if_pos (herror ▸ h), hstore', if_pos ⟨hlisted n h.1, h.2⟩, map_relabelVolume_relabelVolume]
  · rw [if_neg (herror ▸ h)]

/-- Two runs over the same list of two volumes of the node. -/
theorem syncVolumes_twice_on_two_volumes :
    let volumes : List DirectCSIVolume :=
      [{ name := "v1", status := { drive := "d1", nodeName := "node-1" } },
        { name := "v2", labels := some [("path", "old")], status := { nodeName := "node-1" } }]
    let store := VolumeStore.ofList volumes (fun _ => none) (fun _ => none)
    let getDrive : String → Except GoError DirectCSIDrive := fun name => .error (.notFound name)
    (∀ n ∈ nodeVolumeNames "node-1" volumes, n ∈ nodeVolumeNames "node-1" volumes) ∧
      let store' := syncVolumes sampleEnv sampleLabelEnv getDrive "node-1" (.ok volumes) store
      (syncVolumes sampleEnv sampleLabelEnv getDrive "node-1" (.ok volumes) store').volumes "v2" =
        store'.volumes "v2" :=
  ⟨fun _ h => h, syncVolumes_twice sampleEnv sampleLabelEnv _ "node-1" _ _ (fun _ h => h) _ "v2"⟩

end DirectPV
