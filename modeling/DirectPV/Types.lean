import DirectPV.Go

/-! The records the node handlers work on: the device snapshot `sys.Device` built from a uevent,
    the `DirectCSIDrive` and `DirectCSIVolume` objects of the cluster store, and `Env`, the
    constants and helpers of other packages that the handlers call and that are not in the
    sources. Every result of the development holds for any `Env`.

    Only the fields that a modelled function reads or writes are kept. -/

namespace DirectPV

/-- The device snapshot `sys.Device`; fields default to Go's zero values. -/
structure Device where
  name : String := ""
  major : Int := 0
  minor : Int := 0
  partition : Int := 0
  size : BitVec 64 := 0
  freeCapacity : BitVec 64 := 0
  logicalBlockSize : BitVec 64 := 0
  physicalBlockSize : BitVec 64 := 0
  fsType : String := ""
  fsUUID : String := ""
  ueventFSUUID : String := ""
  ptUUID : String := ""
  ptType : String := ""
  partUUID : String := ""
  dmName : String := ""
  dmUUID : String := ""
  mdUUID : String := ""
  serial : String := ""
  ueventSerial : String := ""
  wwid : String := ""
  vendor : String := ""
  model : String := ""
  firstMountPoint : String := ""
  firstMountOptions : List String := []
  mountPoints : List String := []
  readOnly : Bool := false
  partitioned : Bool := false
  swapOn : Bool := false
  virtual : Bool := false
  master : String := ""
  deriving DecidableEq, Repr

/-- Modelled from the spec: `sys.Device.DevPath` is not in the sources; the device node
    `/dev/<name>`. -/
def Device.devPath (device : Device) : String := "/dev/" ++ device.name

/-- `directcsi.DriveStatus`, a string in Go: the five values the code names. An empty or unknown
    status is not represented. -/
inductive DriveStatus where
  | available
  | unavailable
  | inUse
  | ready
  | terminating
  deriving DecidableEq, Repr

/-- The statuses under which a drive holds volumes: `InUse`, `Ready`, `Terminating`. -/
def DriveStatus.isActive : DriveStatus → Bool
  | .inUse | .ready | .terminating => true
  | .available | .unavailable => false

/-- `DirectCSIDriveStatus`. -/
structure DirectCSIDriveStatus where
  path : String := ""
  rootPartition : String := ""
  partitionNum : Int := 0
  filesystem : String := ""
  totalCapacity : BitVec 64 := 0
  allocatedCapacity : BitVec 64 := 0
  freeCapacity : BitVec 64 := 0
  logicalBlockSize : BitVec 64 := 0
  physicalBlockSize : BitVec 64 := 0
  modelNumber : String := ""
  serialNumber : String := ""
  ueventSerial : String := ""
  wwid : String := ""
  vendor : String := ""
  filesystemUUID : String := ""
  ueventFSUUID : String := ""
  partitionUUID : String := ""
  majorNumber : BitVec 32 := 0
  minorNumber : BitVec 32 := 0
  dmName : String := ""
  dmUUID : String := ""
  mdUUID : String := ""
  partTableUUID : String := ""
  partTableType : String := ""
  virtual : Bool := false
  readOnly : Bool := false
  partitioned : Bool := false
  swapOn : Bool := false
  master : String := ""
  driveStatus : DriveStatus
  mountpoint : String := ""
  mountOptions : List String := []
  nodeName : String := ""
  topology : List (String × String) := []
  deriving DecidableEq, Repr

/-- A string map of object metadata; `none` is a `nil` map. -/
abbrev Labels := Option (List (String × String))

/-- `labels[key] = value` on a map that is known to be allocated. -/
def setLabel (labels : List (String × String)) (key value : String) : List (String × String) :=
  (key, value) :: labels.filter (·.1 ≠ key)

/-- `DirectCSIDrive`: metadata and status. -/
structure DirectCSIDrive where
  name : String := ""
  resourceVersion : Nat := 0
  finalizers : List String := []
  labels : Labels := none
  status : DirectCSIDriveStatus
  deriving DecidableEq, Repr

/-- A condition of `DirectCSIVolumeStatus.Conditions`. -/
structure Condition where
  type : String := ""
  status : String := ""
  deriving DecidableEq, Repr

/-- `DirectCSIVolumeStatus`. -/
structure DirectCSIVolumeStatus where
  drive : String := ""
  nodeName : String := ""
  hostPath : String := ""
  totalCapacity : BitVec 64 := 0
  conditions : List Condition := []
  deriving DecidableEq, Repr

/-- `DirectCSIVolume`: metadata and status; `deletionTimestamp = none` is a zero timestamp. -/
structure DirectCSIVolume where
  name : String := ""
  resourceVersion : Nat := 0
  finalizers : List String := []
  labels : Labels := none
  deletionTimestamp : Option Nat := none
  status : DirectCSIVolumeStatus
  deriving DecidableEq, Repr

/-- `DirectCSIVolumeConditionPublished`. -/
def conditionPublished : String := "Published"

/-- `metav1.ConditionTrue`. -/
def conditionTrue : String := "True"

/-- Whether a `Published` condition of the volume has status `True`. -/
def DirectCSIVolume.isPublished (volume : DirectCSIVolume) : Bool :=
  volume.status.conditions.any fun c => c.type = conditionPublished ∧ c.status = conditionTrue

/-- What the handlers use of packages `sys`, `utils` and the API types and is not in the sources. -/
structure Env where
  /-- `sys.FSTypeEqual`. -/
  fsTypeEqual : String → String → Bool
  /-- `sys.MinSupportedDeviceSize`. -/
  minSupportedDeviceSize : BitVec 64
  /-- `sys.MountRoot`. -/
  mountRoot : String
  /-- `filepath.Join` of two elements. -/
  filepathJoin : String → String → String
  /-- `utils.SanitizeDrivePath`. -/
  sanitizeDrivePath : String → String
  /-- `utils.NewLabelValue`. -/
  newLabelValue : String → String
  /-- `utils.DriveLabelKey`. -/
  driveLabelKey : String
  /-- `utils.UpdateLabels` with a map of one label. -/
  updateLabels : Labels → String → String → Labels
  /-- `directcsi.DirectCSIDriveFinalizerPrefix`. -/
  driveFinalizerPrefix : String
  /-- `directcsi.DirectCSIDriveFinalizerDataProtection`. -/
  driveFinalizerDataProtection : String
  /-- `directcsi.DirectCSIVolumeFinalizerPurgeProtection`. -/
  volumeFinalizerPurgeProtection : String

/-- An `Env` to run the handlers on: `FSTypeEqual` is string equality and `filepath.Join` puts
    one slash between its elements. -/
def sampleEnv : Env where
  fsTypeEqual a b := a == b
  minSupportedDeviceSize := 16 * 1024 * 1024
  mountRoot := "/var/lib/direct-csi/mnt"
  filepathJoin root name := root ++ "/" ++ name
  sanitizeDrivePath name := name
  newLabelValue value := value
  driveLabelKey := "path"
  updateLabels labels key value := some (setLabel (labels.getD []) key value)
  driveFinalizerPrefix := "drive/"
  driveFinalizerDataProtection := "data-protection"
  volumeFinalizerPurgeProtection := "purge-protection"

theorem sampleEnv_fsTypeEqual_refl (t : String) : sampleEnv.fsTypeEqual t t = true :=
  beq_self_eq_true t

end DirectPV
