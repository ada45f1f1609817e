import DirectPV.Node.Update

/-! `syncDrive` of package `node`: the other reconciliation of a drive with a device snapshot.

    `syncDriveStates` overwrites the drive's properties with the device's, fills the hardware
    identity only where the drive recorded none, recomputes the drive status from the device
    alone, and syncs the capacities; `checkDirectCSIDriveStatus` then compares the result with
    the drive it started from.

    The status is set to `Available` or `Unavailable` before the capacity block tests it for
    `InUse`, so that branch is dead: every drive leaves with the device's `Size - FreeCapacity`
    allocated (`syncDriveStates_capacity`). An active drive whose uevent filesystem UUID and mount
    point the device repeats passes the check (`syncDrive_error_eq_none_iff`), so `syncDrive`
    hands it back no longer active and with its allocation reset. -/

namespace DirectPV

/-- The fields of `driveEventHandler` that `syncDriveStates` reads. -/
structure DriveEventHandler where
  nodeID : String
  topology : List (String × String)

/-- `syncDriveStates`. -/
def syncDriveStates (d : DriveEventHandler) (env : Env) (device : Device)
    (drive : DirectCSIDrive) : DirectCSIDrive :=
  let s := drive.status
  let driveStatus : DriveStatus :=
    if device.size < env.minSupportedDeviceSize ∨ device.readOnly ∨ device.partitioned ∨
        device.swapOn ∨ device.master ≠ "" ∨ !isDirectCSIMount device.mountPoints then .unavailable
    else .available
  let totalCapacity := device.size
  let allocatedCapacity :=
    if driveStatus = .inUse then s.allocatedCapacity else device.size - device.freeCapacity
  let status := { s with
    filesystem := device.fsType
    logicalBlockSize := device.logicalBlockSize
    mountOptions := device.firstMountOptions
    mountpoint := device.firstMountPoint
    nodeName := d.nodeID
    partitionNum := device.partition
    physicalBlockSize := device.physicalBlockSize
    rootPartition := device.name
    filesystemUUID := device.fsUUID
    partitionUUID := device.partUUID
    majorNumber := BitVec.ofInt 32 device.major
    minorNumber := BitVec.ofInt 32 device.minor
    topology := d.topology
    ueventFSUUID := device.ueventFSUUID
    dmName := device.dmName
    dmUUID := device.dmUUID
    mdUUID := device.mdUUID
    partTableUUID := device.ptUUID
    partTableType := device.ptType
    virtual := device.virtual
    readOnly := device.readOnly
    partitioned := device.partitioned
    swapOn := device.swapOn
    master := device.master
    modelNumber := if s.modelNumber = "" then device.model else s.modelNumber
    serialNumber := if s.serialNumber = "" then device.serial else s.serialNumber
    ueventSerial := if s.ueventSerial = "" then device.ueventSerial else s.ueventSerial
    wwid := if s.wwid = "" then device.wwid else s.wwid
    vendor := if s.vendor = "" then device.vendor else s.vendor
    driveStatus
    path := device.devPath
    totalCapacity
    allocatedCapacity
    freeCapacity := totalCapacity - allocatedCapacity }
  { drive with
    labels := env.updateLabels drive.labels env.driveLabelKey
      (env.newLabelValue (env.sanitizeDrivePath device.name))
    status }

/-- `errInvalidDrive` of `checkDirectCSIDriveStatus`. -/
def errInvalidDrive (fieldName expected found : String) : GoError :=
  .text ("[DRIVE INVALID] " ++ fieldName ++ " mismatch. Expected " ++ expected ++ " found " ++ found)

/-- `checkDirectCSIDriveStatus`; `none` is a `nil` error. -/
def checkDirectCSIDriveStatus (oldDrive updatedDrive : DirectCSIDrive) : Option GoError :=
  if oldDrive.status.driveStatus.isActive then
    if oldDrive.status.ueventFSUUID ≠ updatedDrive.status.ueventFSUUID then
      some (errInvalidDrive "FSUUID" oldDrive.status.ueventFSUUID updatedDrive.status.ueventFSUUID)
    else if oldDrive.status.mountpoint ≠ updatedDrive.status.mountpoint then
      some (errInvalidDrive "Mountpoint" oldDrive.status.mountpoint updatedDrive.status.mountpoint)
    else if updatedDrive.status.driveStatus = .unavailable then none
    else none
  else none

/-- `syncDrive`: the synced drive and the check's error. -/
def syncDrive (d : DriveEventHandler) (env : Env) (device : Device) (drive : DirectCSIDrive) :
    DirectCSIDrive × Option GoError :=
  let updatedDrive := syncDriveStates d env device drive
  (updatedDrive, checkDirectCSIDriveStatus drive updatedDrive)

/-! ### What `syncDriveStates` leaves -/

theorem newDriveStatus_ne_inUse (env : Env) (device : Device) : newDriveStatus env device ≠ .inUse := by
  unfold newDriveStatus; split <;> decide

/-- The status is the one the device calls for, never an active one. -/
theorem syncDriveStates_driveStatus (d : DriveEventHandler) (env : Env) (device : Device)
    (drive : DirectCSIDrive) :
    (syncDriveStates d env device drive).status.driveStatus = newDriveStatus env device := rfl

/-- The `InUse` branch is dead: the total is the size, the allocation the device's used space,
    and the free capacity their difference. -/
theorem syncDriveStates_capacity (d : DriveEventHandler) (env : Env) (device : Device)
    (drive : DirectCSIDrive) :
    let s := (syncDriveStates d env device drive).status
    s.totalCapacity = device.size ∧ s.allocatedCapacity = device.size - device.freeCapacity ∧
      s.freeCapacity = s.totalCapacity - s.allocatedCapacity := by
  exact ⟨rfl, if_neg (newDriveStatus_ne_inUse env device), rfl⟩

/-- `syncDrive` reports no error unless an active drive's uevent filesystem UUID or mount point
    is not the device's. -/
theorem syncDrive_error_eq_none_iff (d : DriveEventHandler) (env : Env) (device : Device)
    (drive : DirectCSIDrive) :
    (syncDrive d env device drive).2 = none ↔
      (drive.status.driveStatus.isActive = true →
        drive.status.ueventFSUUID = device.ueventFSUUID ∧
          drive.status.mountpoint = device.firstMountPoint) := by
  have hu : (syncDriveStates d env device drive).status.ueventFSUUID = device.ueventFSUUID := rfl
  have hm : (syncDriveStates d env device drive).status.mountpoint = device.firstMountPoint := rfl
  simp only [syncDrive, checkDirectCSIDriveStatus, hu, hm]
  split_ifs <;> simp_all

/-- An in-use drive of 100 bytes with 50 allocated, on a device that repeats its uevent UUID and
    mount point: `syncDrive` returns it without error, no longer in use and with nothing allocated. -/
theorem syncDrive_resets_in_use_drive (d : DriveEventHandler) (env : Env) :
    let device : Device :=
      { size := 100, freeCapacity := 100, ueventFSUUID := "u",
        firstMountPoint := "/var/lib/direct-csi/mnt/u",
        mountPoints := ["/var/lib/direct-csi/mnt/u"] }
    let drive : DirectCSIDrive :=
      { status :=
          { driveStatus := .inUse, totalCapacity := 100, allocatedCapacity := 50,
            freeCapacity := 50, ueventFSUUID := "u", mountpoint := "/var/lib/direct-csi/mnt/u" } }
    (syncDrive d env device drive).2 = none ∧
      (syncDrive d env device drive).1.status.driveStatus ≠ .inUse ∧
      (syncDrive d env device drive).1.status.allocatedCapacity = 0 ∧
      (syncDrive d env device drive).1.status.freeCapacity = 100 := by
  intro device drive
  obtain ⟨hT, hA, hF⟩ := syncDriveStates_capacity d env device drive
  have h0 : device.size - device.freeCapacity = 0 := by decide
  exact ⟨(syncDrive_error_eq_none_iff d env device drive).2 fun _ => ⟨rfl, rfl⟩,
    (syncDriveStates_driveStatus d env device drive).trans_ne (newDriveStatus_ne_inUse env device),
    hA.trans h0, hF.trans (by rw [hT, hA, h0]; decide)⟩

end DirectPV
