import DirectPV.Uevent.Match

/-! `driveEventHandler.update` of package `node` (`pkg/node/uevent.go`): the reconciliation of a
    matched drive with a fresh device snapshot.

    The method compares the drive's status with the device field by field, overwriting what
    differs and raising `updated`; then it syncs the mount point by the drive's status, and takes
    the status the device calls for unless the drive is in use. It writes the drive when `updated`
    is set, and relabels the drive's volumes when the path changed.

    Each field comparison is `syncField` over a `StatusField`, a lens that carries its own laws;
    `syncField_eq` turns a step into an unconditional write plus a flag, so the whole field
    phase is one record update and no proof splits on the twenty-five comparisons. -/

namespace DirectPV

/-- `isDirectCSIMount`: no mount point at all, or one under `/var/lib/direct-csi/`. -/
def isDirectCSIMount (mountPoints : List String) : Bool :=
  mountPoints.length = 0 ∨ mountPoints.any fun mountPoint => "/var/lib/direct-csi/".isPrefixOf mountPoint

/-- Modelled from the spec: `client.NewDriveStatus` is not in the sources. §4.5: `Available`
    unless the device is below the minimum supported size, read-only, already partitioned,
    swap-active, part of another device, or mounted outside the managed mount root; then
    `Unavailable`. -/
def newDriveStatus (env : Env) (device : Device) : DriveStatus :=
  if device.size < env.minSupportedDeviceSize ∨ device.readOnly ∨ device.partitioned ∨
      device.swapOn ∨ device.master ≠ "" ∨ !isDirectCSIMount device.mountPoints then .unavailable
  else .available

theorem newDriveStatus_isActive (env : Env) (device : Device) :
    (newDriveStatus env device).isActive = false := by
  unfold newDriveStatus; split <;> rfl

/-! ### Status fields -/

/-- A field of `DirectCSIDriveStatus` that `update` compares with the device and overwrites. -/
structure StatusField (α : Type) where
  get : DirectCSIDriveStatus → α
  set : DirectCSIDriveStatus → α → DirectCSIDriveStatus
  get_set : ∀ s v, get (set s v) = v
  set_get : ∀ s, set s (get s) = s

/-- `Status.Filesystem`. -/
@[reducible] def filesystemField : StatusField String :=
  ⟨(·.filesystem), fun s v => { s with filesystem := v }, fun _ _ => rfl, fun _ => rfl⟩
/-- `Status.LogicalBlockSize`. -/
@[reducible] def logicalBlockSizeField : StatusField (BitVec 64) :=
  ⟨(·.logicalBlockSize), fun s v => { s with logicalBlockSize := v }, fun _ _ => rfl, fun _ => rfl⟩
/-- `Status.ModelNumber`. -/
@[reducible] def modelNumberField : StatusField String :=
  ⟨(·.modelNumber), fun s v => { s with modelNumber := v }, fun _ _ => rfl, fun _ => rfl⟩
/-- `Status.PartitionNum`. -/
@[reducible] def partitionNumField : StatusField Int :=
  ⟨(·.partitionNum), fun s v => { s with partitionNum := v }, fun _ _ => rfl, fun _ => rfl⟩
/-- `Status.PhysicalBlockSize`. -/
@[reducible] def physicalBlockSizeField : StatusField (BitVec 64) :=
  ⟨(·.physicalBlockSize), fun s v => { s with physicalBlockSize := v }, fun _ _ => rfl,
    fun _ => rfl⟩
/-- `Status.RootPartition`. -/
@[reducible] def rootPartitionField : StatusField String :=
  ⟨(·.rootPartition), fun s v => { s with rootPartition := v }, fun _ _ => rfl, fun _ => rfl⟩
/-- `Status.SerialNumber`. -/
@[reducible] def serialNumberField : StatusField String :=
  ⟨(·.serialNumber), fun s v => { s with serialNumber := v }, fun _ _ => rfl, fun _ => rfl⟩
/-- `Status.FilesystemUUID`. -/
@[reducible] def filesystemUUIDField : StatusField String :=
  ⟨(·.filesystemUUID), fun s v => { s with filesystemUUID := v }, fun _ _ => rfl, fun _ => rfl⟩
/-- `Status.PartitionUUID`. -/
@[reducible] def partitionUUIDField : StatusField String :=
  ⟨(·.partitionUUID), fun s v => { s with partitionUUID := v }, fun _ _ => rfl, fun _ => rfl⟩
/-- `Status.MajorNumber`. -/
@[reducible] def majorNumberField : StatusField (BitVec 32) :=
  ⟨(·.majorNumber), fun s v => { s with majorNumber := v }, fun _ _ => rfl, fun _ => rfl⟩
/-- `Status.MinorNumber`. -/
@[reducible] def minorNumberField : StatusField (BitVec 32) :=
  ⟨(·.minorNumber), fun s v => { s with minorNumber := v }, fun _ _ => rfl, fun _ => rfl⟩
/-- `Status.UeventSerial`. -/
@[reducible] def ueventSerialField : StatusField String :=
  ⟨(·.ueventSerial), fun s v => { s with ueventSerial := v }, fun _ _ => rfl, fun _ => rfl⟩
/-- `Status.UeventFSUUID`. -/
@[reducible] def ueventFSUUIDField : StatusField String :=
  ⟨(·.ueventFSUUID), fun s v => { s with ueventFSUUID := v }, fun _ _ => rfl, fun _ => rfl⟩
/-- `Status.WWID`. -/
@[reducible] def wwidField : StatusField String :=
  ⟨(·.wwid), fun s v => { s with wwid := v }, fun _ _ => rfl, fun _ => rfl⟩
/-- `Status.Vendor`. -/
@[reducible] def vendorField : StatusField String :=
  ⟨(·.vendor), fun s v => { s with vendor := v }, fun _ _ => rfl, fun _ => rfl⟩
/-- `Status.DMName`. -/
@[reducible] def dmNameField : StatusField String :=
  ⟨(·.dmName), fun s v => { s with dmName := v }, fun _ _ => rfl, fun _ => rfl⟩
/-- `Status.DMUUID`. -/
@[reducible] def dmUUIDField : StatusField String :=
  ⟨(·.dmUUID), fun s v => { s with dmUUID := v }, fun _ _ => rfl, fun _ => rfl⟩
/-- `Status.MDUUID`. -/
@[reducible] def mdUUIDField : StatusField String :=
  ⟨(·.mdUUID), fun s v => { s with mdUUID := v }, fun _ _ => rfl, fun _ => rfl⟩
/-- `Status.PartTableUUID`. -/
@[reducible] def partTableUUIDField : StatusField String :=
  ⟨(·.partTableUUID), fun s v => { s with partTableUUID := v }, fun _ _ => rfl, fun _ => rfl⟩
/-- `Status.PartTableType`. -/
@[reducible] def partTableTypeField : StatusField String :=
  ⟨(·.partTableType), fun s v => { s with partTableType := v }, fun _ _ => rfl, fun _ => rfl⟩
/-- `Status.Virtual`. -/
@[reducible] def virtualField : StatusField Bool :=
  ⟨(·.virtual), fun s v => { s with virtual := v }, fun _ _ => rfl, fun _ => rfl⟩
/-- `Status.ReadOnly`. -/
@[reducible] def readOnlyField : StatusField Bool :=
  ⟨(·.readOnly), fun s v => { s with readOnly := v }, fun _ _ => rfl, fun _ => rfl⟩
/-- `Status.Partitioned`. -/
@[reducible] def partitionedField : StatusField Bool :=
  ⟨(·.partitioned), fun s v => { s with partitioned := v }, fun _ _ => rfl, fun _ => rfl⟩
/-- `Status.SwapOn`. -/
@[reducible] def swapOnField : StatusField Bool :=
  ⟨(·.swapOn), fun s v => { s with swapOn := v }, fun _ _ => rfl, fun _ => rfl⟩
/-- `Status.Master`. -/
@[reducible] def masterField : StatusField String :=
  ⟨(·.master), fun s v => { s with master := v }, fun _ _ => rfl, fun _ => rfl⟩

/-! ### `update` -/

/-- The locals of `update`: the drive being edited and its three flags. -/
structure UpdateState where
  drive : DirectCSIDrive
  updated : Bool
  nameChanged : Bool
  fsUUIDChanged : Bool

/-- `drive.Status = status`. -/
def UpdateState.setStatus (st : UpdateState) (status : DirectCSIDriveStatus) : UpdateState :=
  { st with drive := { st.drive with status := status } }

/-- `if !same(drive.Status.X, value) { drive.Status.X = value; updated = true }`; plain fields
    compare with `==`. -/
def syncField {α : Type} (same : α → α → Bool) (field : StatusField α) (value : α)
    (st : UpdateState) : UpdateState :=
  if !same (field.get st.drive.status) value then
    { st.setStatus (field.set st.drive.status value) with updated := true }
  else st

/-- The same for the two filesystem UUIDs, which also raise `fsUUIDChanged`. -/
def syncFSUUIDField (field : StatusField String) (value : String) (st : UpdateState) :
    UpdateState :=
  if field.get st.drive.status ≠ value then
    { st.setStatus (field.set st.drive.status value) with updated := true, fsUUIDChanged := true }
  else st

/-- `AllocatedCapacity` capped at a new total: `if allocated > total { allocated = total }`. -/
def cappedAllocation (total allocated : BitVec 64) : BitVec 64 :=
  if total.slt allocated then total else allocated

/-- The capacity block: a new size overwrites `TotalCapacity`, caps `AllocatedCapacity` at it
    and recomputes `FreeCapacity`. -/
def syncCapacity (device : Device) (st : UpdateState) : UpdateState :=
  let s := st.drive.status
  if s.totalCapacity ≠ device.size then
    let allocated := cappedAllocation device.size s.allocatedCapacity
    let status := { s with
      totalCapacity := device.size
      allocatedCapacity := allocated
      freeCapacity := device.size - allocated }
    { st.setStatus status with updated := true }
  else st

/-- The path block: a new path, the drive label that follows it, and `nameChanged`. -/
def syncPath (env : Env) (device : Device) (st : UpdateState) : UpdateState :=
  if st.drive.status.path ≠ "/dev/" ++ device.name then
    let labels := setLabel (st.drive.labels.getD []) env.driveLabelKey
      (env.sanitizeDrivePath device.name)
    let drive := { st.drive with
      status := { st.drive.status with path := "/dev/" ++ device.name }
      labels := some labels }
    { st with drive := drive, nameChanged := true, updated := true }
  else st

/-- The field-by-field comparisons of `update`, in the source's order. -/
def updateFields (env : Env) (device : Device) (st : UpdateState) : UpdateState :=
  st |> syncField env.fsTypeEqual filesystemField device.fsType
    |> syncCapacity device
    |> syncField (· == ·) logicalBlockSizeField device.logicalBlockSize
    |> syncField (· == ·) modelNumberField device.model
    |> syncField (· == ·) partitionNumField device.partition
    |> syncPath env device
    |> syncField (· == ·) physicalBlockSizeField device.physicalBlockSize
    |> syncField (· == ·) rootPartitionField device.name
    |> syncField (· == ·) serialNumberField device.serial
    |> syncFSUUIDField filesystemUUIDField device.fsUUID
    |> syncField (· == ·) partitionUUIDField device.partUUID
    |> syncField (· == ·) majorNumberField (BitVec.ofInt 32 device.major)
    |> syncField (· == ·) minorNumberField (BitVec.ofInt 32 device.minor)
    |> syncField (· == ·) ueventSerialField device.ueventSerial
    |> syncFSUUIDField ueventFSUUIDField device.ueventFSUUID
    |> syncField (· == ·) wwidField device.wwid
    |> syncField (· == ·) vendorField device.vendor
    |> syncField (· == ·) dmNameField device.dmName
    |> syncField (· == ·) dmUUIDField device.dmUUID
    |> syncField (· == ·) mdUUIDField device.mdUUID
    |> syncField (· == ·) partTableUUIDField device.ptUUID
    |> syncField ptTypeEqual partTableTypeField device.ptType
    |> syncField (· == ·) virtualField device.virtual
    |> syncField (· == ·) readOnlyField device.readOnly
    |> syncField (· == ·) partitionedField device.partitioned
    |> syncField (· == ·) swapOnField device.swapOn
    |> syncField (· == ·) masterField device.master

/-- The mount point and its options, recorded together. -/
def UpdateState.setMount (st : UpdateState) (device : Device) : UpdateState :=
  let status := { st.drive.status with
    mountpoint := device.firstMountPoint
    mountOptions := device.firstMountOptions }
  { st.setStatus status with updated := true }

/-- The mount `switch`: an active drive takes a new mount point only under the managed root
    keyed by its filesystem UUID, and not at all when a filesystem UUID changed; an available or
    unavailable drive always follows the device. -/
def syncMount (env : Env) (device : Device) (st : UpdateState) : UpdateState :=
  if st.drive.status.driveStatus.isActive then
    if st.fsUUIDChanged then st
    else if device.firstMountPoint ≠ "" ∧ st.drive.status.mountpoint ≠ device.firstMountPoint then
      if device.firstMountPoint ≠ env.filepathJoin env.mountRoot st.drive.status.filesystemUUID
      then st
      else st.setMount device
    else st
  else if st.drive.status.mountpoint ≠ device.firstMountPoint then st.setMount device
  else st

/-- The status block: the status the device calls for, except on an active drive. -/
def syncDriveStatus (env : Env) (device : Device) (st : UpdateState) : UpdateState :=
  let driveStatus := newDriveStatus env device
  if driveStatus ≠ st.drive.status.driveStatus then
    if st.drive.status.driveStatus.isActive then st
    else { st.setStatus { st.drive.status with driveStatus := driveStatus } with updated := true }
  else st

/-- `update` up to the store call: the drive it has edited, and whether it calls `Update` with it
    (`updated`) and relabels the drive's volumes after that (`nameChanged`). -/
def update (env : Env) (device : Device) (drive : DirectCSIDrive) : UpdateState :=
  { drive, updated := false, nameChanged := false, fsUUIDChanged := false }
    |> updateFields env device |> syncMount env device |> syncDriveStatus env device

/-! ### Each step as one assignment -/

/-- A field compared by `same` keeps a value `same` accepts and otherwise takes the device's; only
    the flag depends on the comparison. -/
theorem syncField_eq {α : Type} (same : α → α → Bool) (field : StatusField α) (value : α)
    (st : UpdateState) :
    syncField same field value st =
      { st.setStatus (field.set st.drive.status
          (if same (field.get st.drive.status) value then field.get st.drive.status else value)) with
        updated := st.updated || !same (field.get st.drive.status) value } := by
  unfold syncField
  by_cases h : same (field.get st.drive.status) value <;>
    simp [h, field.set_get, UpdateState.setStatus]

theorem syncFSUUIDField_eq (field : StatusField String) (value : String) (st : UpdateState) :
    syncFSUUIDField field value st =
      { st.setStatus (field.set st.drive.status value) with
        updated := st.updated || decide (field.get st.drive.status ≠ value)
        fsUUIDChanged := st.fsUUIDChanged || decide (field.get st.drive.status ≠ value) } := by
  unfold syncFSUUIDField
  by_cases h : field.get st.drive.status = value
  · subst h; simp [field.set_get, UpdateState.setStatus]
  · simp [h]

theorem syncCapacity_eq (device : Device) (st : UpdateState) :
    syncCapacity device st =
      let s := st.drive.status
      let resized := decide (s.totalCapacity ≠ device.size)
      { st.setStatus { s with
          totalCapacity := device.size
          allocatedCapacity :=
            if resized then cappedAllocation device.size s.allocatedCapacity else s.allocatedCapacity
          freeCapacity := if resized then device.size - cappedAllocation device.size s.allocatedCapacity
            else s.freeCapacity } with
        updated := st.updated || resized } := by
  unfold syncCapacity
  by_cases h : st.drive.status.totalCapacity = device.size
  · simp [h, UpdateState.setStatus]; rw [← h]
  · simp [h, UpdateState.setStatus]

theorem syncPath_eq (env : Env) (device : Device) (st : UpdateState) :
    syncPath env device st =
      let renamed := decide (st.drive.status.path ≠ "/dev/" ++ device.name)
      { st with
        drive := { st.drive with
          status := { st.drive.status with path := "/dev/" ++ device.name }
          labels := if renamed then some (setLabel (st.drive.labels.getD []) env.driveLabelKey
            (env.sanitizeDrivePath device.name)) else st.drive.labels }
        nameChanged := st.nameChanged || renamed
        updated := st.updated || renamed } := by
  unfold syncPath
  by_cases h : st.drive.status.path = "/dev/" ++ device.name
  · simp [h]; rw [← h]
  · simp [h]

/-- The field phase as one assignment: every compared field takes the device's value, except an
    accepted filesystem or partition table type, and the capacities move only on a resize. -/
theorem updateFields_drive (env : Env) (device : Device) (st : UpdateState) :
    (updateFields env device st).drive =
      let s := st.drive.status
      let resized := decide (s.totalCapacity ≠ device.size)
      { st.drive with
        status := { s with
          filesystem := if env.fsTypeEqual s.filesystem device.fsType then s.filesystem
            else device.fsType
          totalCapacity := device.size
          allocatedCapacity :=
            if resized then cappedAllocation device.size s.allocatedCapacity else s.allocatedCapacity
          freeCapacity := if resized then device.size - cappedAllocation device.size s.allocatedCapacity
            else s.freeCapacity
          logicalBlockSize := device.logicalBlockSize
          modelNumber := device.model
          partitionNum := device.partition
          path := "/dev/" ++ device.name
          physicalBlockSize := device.physicalBlockSize
          rootPartition := device.name
          serialNumber := device.serial
          filesystemUUID := device.fsUUID
          partitionUUID := device.partUUID
          majorNumber := BitVec.ofInt 32 device.major
          minorNumber := BitVec.ofInt 32 device.minor
          ueventSerial := device.ueventSerial
          ueventFSUUID := device.ueventFSUUID
          wwid := device.wwid
          vendor := device.vendor
          dmName := device.dmName
          dmUUID := device.dmUUID
          mdUUID := device.mdUUID
          partTableUUID := device.ptUUID
          partTableType := if ptTypeEqual s.partTableType device.ptType then s.partTableType
            else device.ptType
          virtual := device.virtual
          readOnly := device.readOnly
          partitioned := device.partitioned
          swapOn := device.swapOn
          master := device.master }
        labels := if s.path ≠ "/dev/" ++ device.name then
          some (setLabel (st.drive.labels.getD []) env.driveLabelKey (env.sanitizeDrivePath device.name))
          else st.drive.labels } := by
  simp only [updateFields, syncField_eq, UpdateState.setStatus, syncCapacity_eq, syncPath_eq,
    syncFSUUIDField_eq, beq_iff_eq, decide_eq_true_eq, DirectCSIDrive.mk.injEq,
    DirectCSIDriveStatus.mk.injEq, ite_eq_right_iff, imp_self, and_self]

theorem updateFields_fsUUIDChanged (env : Env) (device : Device) (st : UpdateState) :
    (updateFields env device st).fsUUIDChanged =
      (st.fsUUIDChanged || decide (st.drive.status.filesystemUUID ≠ device.fsUUID) ||
        decide (st.drive.status.ueventFSUUID ≠ device.ueventFSUUID)) := by
  simp only [updateFields, syncField_eq, UpdateState.setStatus, syncCapacity_eq, syncPath_eq,
    syncFSUUIDField_eq, Bool.or_assoc]

/-! ### The field phase settles in one pass -/

/-- A status on which the field phase finds nothing to change. -/
@[mk_iff]
structure Synced (env : Env) (device : Device) (s : DirectCSIDriveStatus) : Prop where
  filesystem : env.fsTypeEqual s.filesystem device.fsType = true
  totalCapacity : s.totalCapacity = device.size
  logicalBlockSize : s.logicalBlockSize = device.logicalBlockSize
  modelNumber : s.modelNumber = device.model
  partitionNum : s.partitionNum = device.partition
  path : s.path = "/dev/" ++ device.name
  physicalBlockSize : s.physicalBlockSize = device.physicalBlockSize
  rootPartition : s.rootPartition = device.name
  serialNumber : s.serialNumber = device.serial
  filesystemUUID : s.filesystemUUID = device.fsUUID
  partitionUUID : s.partitionUUID = device.partUUID
  majorNumber : s.majorNumber = BitVec.ofInt 32 device.major
  minorNumber : s.minorNumber = BitVec.ofInt 32 device.minor
  ueventSerial : s.ueventSerial = device.ueventSerial
  ueventFSUUID : s.ueventFSUUID = device.ueventFSUUID
  wwid : s.wwid = device.wwid
  vendor : s.vendor = device.vendor
  dmName : s.dmName = device.dmName
  dmUUID : s.dmUUID = device.dmUUID
  mdUUID : s.mdUUID = device.mdUUID
  partTableUUID : s.partTableUUID = device.ptUUID
  partTableType : ptTypeEqual s.partTableType device.ptType = true
  virtual : s.virtual = device.virtual
  readOnly : s.readOnly = device.readOnly
  partitioned : s.partitioned = device.partitioned
  swapOn : s.swapOn = device.swapOn
  master : s.master = device.master

/-- The mount point, its options and the drive status are not compared by the field phase. -/
theorem Synced.withMount {env : Env} {device : Device} {s : DirectCSIDriveStatus}
    (h : Synced env device s) (mountpoint : String) (mountOptions : List String)
    (driveStatus : DriveStatus) :
    Synced env device { s with mountpoint, mountOptions, driveStatus } := by
  cases h; constructor <;> assumption

theorem updateFields_of_synced (env : Env) (device : Device) (st : UpdateState)
    (h : Synced env device st.drive.status) : updateFields env device st = st := by
  obtain ⟨h1, h2, h3, h4, h5, h6, h7, h8, h9, h10, h11, h12, h13, h14, h15, h16, h17, h18, h19,
    h20, h21, h22, h23, h24, h25, h26, h27⟩ := h
  simp [updateFields, syncField, syncFSUUIDField, syncCapacity, syncPath, *]

/-- With a reflexive `FSTypeEqual`, one field phase leaves a status it accepts. -/
theorem synced_updateFields (env : Env) (hrefl : ∀ t, env.fsTypeEqual t t = true)
    (device : Device) (st : UpdateState) :
    Synced env device (updateFields env device st).drive.status := by
  rw [updateFields_drive]
  constructor <;> dsimp only <;> (try split) <;> simp_all

/-- The field phase raises `updated` exactly on a status it finds out of sync. -/
theorem updateFields_updated (env : Env) (device : Device) (st : UpdateState) :
    (updateFields env device st).updated = true ↔
      st.updated = true ∨ ¬Synced env device st.drive.status := by
  simp only [synced_iff, not_and_or, Bool.not_eq_true]
  simp only [updateFields, syncField_eq, UpdateState.setStatus, syncCapacity_eq, syncPath_eq,
    syncFSUUIDField_eq, Bool.or_assoc, Bool.or_eq_true, Bool.not_eq_true', beq_eq_false_iff_ne,
    decide_eq_true_eq]

/-! ### The mount and status phases -/

/-- The active branch of the mount `switch` with no filesystem UUID changed: it records the first
    mount point when that is new, non-empty and the managed mount path of the filesystem UUID. -/
def takesMount (env : Env) (device : Device) (s : DirectCSIDriveStatus) : Prop :=
  device.firstMountPoint ≠ "" ∧ s.mountpoint ≠ device.firstMountPoint ∧
    device.firstMountPoint = env.filepathJoin env.mountRoot s.filesystemUUID

instance (env : Env) (device : Device) (s : DirectCSIDriveStatus) :
    Decidable (takesMount env device s) :=
  inferInstanceAs (Decidable (_ ∧ _ ∧ _))

@[simp] theorem UpdateState.setMount_drive_status (st : UpdateState) (device : Device) :
    (st.setMount device).drive.status =
      { st.drive.status with
        mountpoint := device.firstMountPoint
        mountOptions := device.firstMountOptions } := rfl

@[simp] theorem UpdateState.setMount_fsUUIDChanged (st : UpdateState) (device : Device) :
    (st.setMount device).fsUUIDChanged = st.fsUUIDChanged := rfl

@[simp] theorem UpdateState.setMount_updated (st : UpdateState) (device : Device) :
    (st.setMount device).updated = true := rfl

theorem syncMount_of_isActive (env : Env) (device : Device) (st : UpdateState)
    (h : st.drive.status.driveStatus.isActive = true) :
    syncMount env device st =
      if st.fsUUIDChanged = false ∧ takesMount env device st.drive.status then st.setMount device
      else st := by
  unfold syncMount takesMount
  rw [if_pos h]
  by_cases hc : st.fsUUIDChanged
  · simp [hc]
  · by_cases hm : device.firstMountPoint ≠ "" ∧ st.drive.status.mountpoint ≠ device.firstMountPoint <;>
      by_cases hj : device.firstMountPoint = env.filepathJoin env.mountRoot st.drive.status.filesystemUUID <;>
      simp [hc, hm, hj]

theorem syncMount_of_not_isActive (env : Env) (device : Device) (st : UpdateState)
    (h : st.drive.status.driveStatus.isActive = false) :
    syncMount env device st =
      if st.drive.status.mountpoint ≠ device.firstMountPoint then st.setMount device else st := by
  simp [syncMount, h]

/-- An active drive keeps its status: the status block changes nothing. -/
theorem syncDriveStatus_of_isActive (env : Env) (device : Device) (st : UpdateState)
    (h : st.drive.status.driveStatus.isActive = true) : syncDriveStatus env device st = st := by
  simp [syncDriveStatus, h]

/-- An inactive drive takes the status the device calls for. -/
theorem syncDriveStatus_of_not_isActive (env : Env) (device : Device) (st : UpdateState)
    (h : st.drive.status.driveStatus.isActive = false) :
    syncDriveStatus env device st =
      { st.setStatus { st.drive.status with driveStatus := newDriveStatus env device } with
        updated := st.updated || decide (newDriveStatus env device ≠ st.drive.status.driveStatus) } := by
  unfold syncDriveStatus
  simp only [h, Bool.false_eq_true, if_false]
  split_ifs with hs
  · simp [hs]
  · cases st; simp_all [UpdateState.setStatus]

/-- On an active drive the two phases at most record the first mount point. -/
theorem syncDriveStatus_syncMount_of_isActive (env : Env) (device : Device) (st : UpdateState)
    (h : st.drive.status.driveStatus.isActive = true) :
    syncDriveStatus env device (syncMount env device st) =
      if st.fsUUIDChanged = false ∧ takesMount env device st.drive.status then st.setMount device
      else st := by
  rw [syncMount_of_isActive _ _ _ h]
  split <;> exact syncDriveStatus_of_isActive _ _ _ h

/-- On an inactive drive they record the first mount point and the status the device calls for. -/
theorem syncDriveStatus_syncMount_of_not_isActive (env : Env) (device : Device) (st : UpdateState)
    (h : st.drive.status.driveStatus.isActive = false) :
    syncDriveStatus env device (syncMount env device st) =
      { st with
        drive := { st.drive with
          status := { st.drive.status with
            mountpoint := device.firstMountPoint
            mountOptions := if st.drive.status.mountpoint ≠ device.firstMountPoint then
              device.firstMountOptions else st.drive.status.mountOptions
            driveStatus := newDriveStatus env device } }
        updated := st.updated || decide (st.drive.status.mountpoint ≠ device.firstMountPoint) ||
          decide (newDriveStatus env device ≠ st.drive.status.driveStatus) } := by
  rw [syncMount_of_not_isActive _ _ _ h]
  by_cases hm : st.drive.status.mountpoint = device.firstMountPoint
  · rw [if_neg (not_not.2 hm), syncDriveStatus_of_not_isActive _ _ _ h]
    simp [← hm, UpdateState.setStatus]
  · rw [if_pos hm, syncDriveStatus_of_not_isActive _ _ (st.setMount device) h]
    simp [hm, UpdateState.setStatus, UpdateState.setMount]

/-- The mount and status phases touch only the mount point, its options, the drive status and
    `updated`, which they never lower. -/
theorem syncDriveStatus_syncMount_frame (env : Env) (device : Device) (st : UpdateState) :
    ∃ mountpoint mountOptions driveStatus written,
      syncDriveStatus env device (syncMount env device st) =
        { st with
          drive := { st.drive with
            status := { st.drive.status with mountpoint, mountOptions, driveStatus } }
          updated := st.updated || written } := by
  cases ha : st.drive.status.driveStatus.isActive
  · exact ⟨_, _, _, _, by rw [syncDriveStatus_syncMount_of_not_isActive _ _ _ ha, Bool.or_assoc]⟩
  · rw [syncDriveStatus_syncMount_of_isActive _ _ _ ha]
    split
    · exact ⟨device.firstMountPoint, device.firstMountOptions, st.drive.status.driveStatus, true,
        by simp [UpdateState.setMount, UpdateState.setStatus]⟩
    · exact ⟨st.drive.status.mountpoint, st.drive.status.mountOptions, st.drive.status.driveStatus,
        false, by rw [Bool.or_false]⟩

theorem synced_syncDriveStatus_syncMount {env : Env} {device : Device} {st : UpdateState}
    (h : Synced env device st.drive.status) :
    Synced env device (syncDriveStatus env device (syncMount env device st)).drive.status := by
  obtain ⟨mountpoint, mountOptions, driveStatus, _, hf⟩ := syncDriveStatus_syncMount_frame env device st
  rw [hf]
  exact h.withMount mountpoint mountOptions driveStatus

/-- The field phase leaves the mount point, its options and the drive status alone. -/
theorem updateFields_mount (env : Env) (device : Device) (st : UpdateState) :
    let s := (updateFields env device st).drive.status
    s.mountpoint = st.drive.status.mountpoint ∧ s.mountOptions = st.drive.status.mountOptions ∧
      s.driveStatus = st.drive.status.driveStatus := by
  rw [updateFields_drive]; exact ⟨rfl, rfl, rfl⟩

/-- With a reflexive `FSTypeEqual`, one run of `update` leaves a synced status. -/
theorem synced_update (env : Env) (hrefl : ∀ t, env.fsTypeEqual t t = true) (device : Device)
    (drive : DirectCSIDrive) : Synced env device (update env device drive).drive.status :=
  synced_syncDriveStatus_syncMount (synced_updateFields env hrefl device _)

/-! ### Replaying an event -/

/-- A drive on which `update` finds nothing to do. -/
structure Settled (env : Env) (device : Device) (drive : DirectCSIDrive) : Prop where
  synced : Synced env device drive.status
  active : drive.status.driveStatus.isActive = true → ¬takesMount env device drive.status
  inactive : drive.status.driveStatus.isActive = false →
    drive.status.mountpoint = device.firstMountPoint ∧
      drive.status.driveStatus = newDriveStatus env device

/-- `update` on a synced drive: what is left are the mount and status phases. -/
theorem update_of_synced {env : Env} {device : Device} {drive : DirectCSIDrive}
    (h : Synced env device drive.status) :
    update env device drive =
      syncDriveStatus env device (syncMount env device ⟨drive, false, false, false⟩) := by
  unfold update
  rw [updateFields_of_synced env device ⟨drive, false, false, false⟩ h]

/-- `update` leaves a settled drive as it is and issues no `Update`. -/
theorem update_of_settled {env : Env} {device : Device} {drive : DirectCSIDrive}
    (h : Settled env device drive) : update env device drive = ⟨drive, false, false, false⟩ := by
  rw [update_of_synced h.synced]
  cases ha : drive.status.driveStatus.isActive
  · obtain ⟨hm, hs⟩ := h.inactive ha
    rw [syncDriveStatus_syncMount_of_not_isActive _ _ _ ha]
    simp [← hm, ← hs]
  · rw [syncDriveStatus_syncMount_of_isActive _ _ _ ha, if_neg (by simp [h.active ha])]

/-- One run of `update` settles a synced drive. -/
theorem settled_update_of_synced {env : Env} {device : Device} {drive : DirectCSIDrive}
    (h : Synced env device drive.status) : Settled env device (update env device drive).drive := by
  rw [update_of_synced h]
  cases ha : drive.status.driveStatus.isActive
  · rw [syncDriveStatus_syncMount_of_not_isActive _ _ _ ha]
    exact ⟨h.withMount _ _ _, by simp [newDriveStatus_isActive], fun _ => ⟨rfl, rfl⟩⟩
  · rw [syncDriveStatus_syncMount_of_isActive _ _ _ ha]
    split_ifs with ht
    · exact ⟨h.withMount _ _ _, fun _ hm => hm.2.1 rfl, by simp [ha]⟩
    · exact ⟨h, fun _ hm => ht ⟨rfl, hm⟩, by simp [ha]⟩

/-- Whether `update` writes a synced drive: an active one when it takes the first mount point,
    an inactive one when its mount point or its status is not the device's. -/
theorem update_updated_of_synced {env : Env} {device : Device} {drive : DirectCSIDrive}
    (h : Synced env device drive.status) :
    (update env device drive).updated =
      if drive.status.driveStatus.isActive then decide (takesMount env device drive.status)
      else decide (drive.status.mountpoint ≠ device.firstMountPoint) ||
        decide (newDriveStatus env device ≠ drive.status.driveStatus) := by
  rw [update_of_synced h]
  cases ha : drive.status.driveStatus.isActive
  · rw [syncDriveStatus_syncMount_of_not_isActive _ _ _ ha]; simp
  · rw [syncDriveStatus_syncMount_of_isActive _ _ _ ha]; split_ifs <;> simp_all

/-- The second run of `update` writes exactly when the first skipped an active drive's mount point
    on a changed filesystem UUID, and the device is mounted at the managed path of the new UUID. -/
theorem update_second_run_updated_iff (env : Env) (hrefl : ∀ t, env.fsTypeEqual t t = true)
    (device : Device) (drive : DirectCSIDrive) :
    (update env device (update env device drive).drive).updated = true ↔
      drive.status.driveStatus.isActive = true ∧
      (drive.status.filesystemUUID ≠ device.fsUUID ∨
        drive.status.ueventFSUUID ≠ device.ueventFSUUID) ∧
      device.firstMountPoint ≠ "" ∧ drive.status.mountpoint ≠ device.firstMountPoint ∧
      device.firstMountPoint = env.filepathJoin env.mountRoot device.fsUUID := by
  rw [update_updated_of_synced (synced_update env hrefl device drive)]
  have hs := synced_updateFields env hrefl device ⟨drive, false, false, false⟩
  obtain ⟨hmp, -, hds⟩ := updateFields_mount env device ⟨drive, false, false, false⟩
  have hc := updateFields_fsUUIDChanged env device ⟨drive, false, false, false⟩
  unfold update
  generalize updateFields env device ⟨drive, false, false, false⟩ = st at hs hmp hds hc
  simp only [Bool.false_or] at hc hmp hds
  cases ha : drive.status.driveStatus.isActive
  · rw [← hds] at ha
    rw [syncDriveStatus_syncMount_of_not_isActive _ _ _ ha]
    simp [newDriveStatus_isActive]
  · rw [← hds] at ha
    rw [syncDriveStatus_syncMount_of_isActive _ _ _ ha]
    by_cases ht : st.fsUUIDChanged = false ∧ takesMount env device st.drive.status
    · rw [if_pos ht]
      simp_all [takesMount]
    · rw [if_neg ht]
      simp only [ha, if_true, decide_eq_true_iff, true_and]
      unfold takesMount at ht ⊢
      rw [hmp, hs.filesystemUUID] at ht ⊢
      constructor
      · intro hm
        refine ⟨?_, hm⟩
        by_contra hsame
        exact ht ⟨by simpa [hc] using hsame, hm⟩
      · exact fun h => h.2

/-- Replaying a device event: the third run of `update` finds nothing to do, and the second one
    writes exactly in the case of `update_second_run_updated_iff`. -/
theorem update_settles_by_third_run (env : Env) (hrefl : ∀ t, env.fsTypeEqual t t = true)
    (device : Device) (drive : DirectCSIDrive) :
    let d1 := (update env device drive).drive
    let d2 := (update env device d1).drive
    update env device d2 = ⟨d2, false, false, false⟩ ∧
      ((update env device d1).updated = true ↔
        drive.status.driveStatus.isActive = true ∧
        (drive.status.filesystemUUID ≠ device.fsUUID ∨
          drive.status.ueventFSUUID ≠ device.ueventFSUUID) ∧
        device.firstMountPoint ≠ "" ∧ drive.status.mountpoint ≠ device.firstMountPoint ∧
        device.firstMountPoint = env.filepathJoin env.mountRoot device.fsUUID) :=
  ⟨update_of_settled (settled_update_of_synced (synced_update env hrefl device drive)),
    update_second_run_updated_iff env hrefl device drive⟩

/-- The replayed event of an in-use drive whose filesystem UUID changed, on a device mounted at
    the managed path of the new UUID: the second run writes, the third writes nothing. -/
theorem update_settles_by_third_run_on_replay :
    (∀ t, sampleEnv.fsTypeEqual t t = true) ∧
      let device : Device := { fsUUID := "u2", firstMountPoint := "/var/lib/direct-csi/mnt/u2" }
      let drive : DirectCSIDrive := { status := { driveStatus := .inUse, filesystemUUID := "u1" } }
      let d1 := (update sampleEnv device drive).drive
      let d2 := (update sampleEnv device d1).drive
      (update sampleEnv device d2 = ⟨d2, false, false, false⟩ ∧
        ((update sampleEnv device d1).updated = true ↔
          drive.status.driveStatus.isActive = true ∧
          (drive.status.filesystemUUID ≠ device.fsUUID ∨
            drive.status.ueventFSUUID ≠ device.ueventFSUUID) ∧
          device.firstMountPoint ≠ "" ∧ drive.status.mountpoint ≠ device.firstMountPoint ∧
          device.firstMountPoint = sampleEnv.filepathJoin sampleEnv.mountRoot device.fsUUID)) ∧
        (update sampleEnv device d1).updated = true :=
  let h := update_settles_by_third_run sampleEnv sampleEnv_fsTypeEqual_refl
    { fsUUID := "u2", firstMountPoint := "/var/lib/direct-csi/mnt/u2" }
    { status := { driveStatus := .inUse, filesystemUUID := "u1" } }
  ⟨sampleEnv_fsTypeEqual_refl, h, h.2.2 ⟨rfl, .inl (by decide), by decide, by decide, rfl⟩⟩

/-- An in-use drive whose filesystem UUID changed, on a device mounted at the managed path of the
    new UUID: the first run skips the mount point and the replay writes it. -/
theorem update_replay_writes_again :
    ¬∀ env : Env, (∀ t, env.fsTypeEqual t t = true) → ∀ device drive,
      (update env device (update env device drive).drive).updated = false := by
  intro h
  have hw := (update_second_run_updated_iff sampleEnv sampleEnv_fsTypeEqual_refl
    { fsUUID := "u2", firstMountPoint := "/var/lib/direct-csi/mnt/u2" }
    { status := { driveStatus := .inUse, filesystemUUID := "u1" } }).2
    ⟨rfl, .inl (by decide), by decide, by decide, rfl⟩
  rw [h sampleEnv sampleEnv_fsTypeEqual_refl] at hw
  exact Bool.false_ne_true hw

/-! ### Hardware identity and allocation -/

/-- `update` writes every drive whose status is out of sync with the device. -/
theorem update_updated_of_not_synced {env : Env} {device : Device} {drive : DirectCSIDrive}
    (h : ¬Synced env device drive.status) : (update env device drive).updated = true := by
  obtain ⟨_, _, _, _, hf⟩ := syncDriveStatus_syncMount_frame env device
    (updateFields env device ⟨drive, false, false, false⟩)
  unfold update
  rw [hf]
  simp [(updateFields_updated env device ⟨drive, false, false, false⟩).2 (.inr h)]

/-- `update` gives the drive the device's hardware identity, whatever the drive recorded. -/
theorem update_identity (env : Env) (device : Device) (drive : DirectCSIDrive) :
    let s := (update env device drive).drive.status
    s.modelNumber = device.model ∧ s.serialNumber = device.serial ∧
      s.ueventSerial = device.ueventSerial ∧ s.wwid = device.wwid ∧ s.vendor = device.vendor := by
  obtain ⟨_, _, _, _, hf⟩ := syncDriveStatus_syncMount_frame env device
    (updateFields env device ⟨drive, false, false, false⟩)
  unfold update
  rw [hf]
  simp [updateFields_drive]

/-- `update` moves the capacities only on a resize: the total becomes the size, the allocation is
    capped at it, and the free capacity is what is left. -/
theorem update_capacity (env : Env) (device : Device) (drive : DirectCSIDrive) :
    let s := drive.status
    let s' := (update env device drive).drive.status
    s'.totalCapacity = device.size ∧
      s'.allocatedCapacity = (if s.totalCapacity ≠ device.size then
        cappedAllocation device.size s.allocatedCapacity else s.allocatedCapacity) ∧
      s'.freeCapacity = (if s.totalCapacity ≠ device.size then
        device.size - cappedAllocation device.size s.allocatedCapacity else s.freeCapacity) := by
  obtain ⟨_, _, _, _, hf⟩ := syncDriveStatus_syncMount_frame env device
    (updateFields env device ⟨drive, false, false, false⟩)
  unfold update
  rw [hf]
  simp [updateFields_drive]

/-- `update` leaves the drive's name, version and finalizers alone. -/
theorem update_metadata (env : Env) (device : Device) (drive : DirectCSIDrive) :
    let d := (update env device drive).drive
    d.name = drive.name ∧ d.resourceVersion = drive.resourceVersion ∧
      d.finalizers = drive.finalizers := by
  obtain ⟨_, _, _, _, hf⟩ := syncDriveStatus_syncMount_frame env device
    (updateFields env device ⟨drive, false, false, false⟩)
  unfold update
  rw [hf]
  simp [updateFields_drive]

/-- A drive that recorded model `M1`, reconciled with a device reporting model `M2`: `update`
    writes the drive with the model overwritten. -/
theorem update_overwrites_model_number (env : Env) :
    let drive : DirectCSIDrive := { status := { driveStatus := .ready, modelNumber := "M1" } }
    let device : Device := { model := "M2" }
    (update env device drive).updated = true ∧
      (update env device drive).drive.status.modelNumber = "M2" :=
  ⟨update_updated_of_not_synced fun h => absurd h.modelNumber (by decide),
    (update_identity env _ _).1⟩

end DirectPV
