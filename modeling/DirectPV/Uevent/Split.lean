import DirectPV.Uevent.Match

/-! `splitByMatch` of package `uevent` (`pkg/uevent/match.go`) and the identity tests it runs.

    `splitByMatch` sorts each drive by the first identity category the drive records: hardware
    information (WWID, serial number, uevent serial), a DM or MD UUID, a partition-table UUID on a
    whole disk, a partition UUID on a partition, a filesystem UUID. That category's test against
    the device puts the drive in the matched or the unmatched list, and a drive that records none
    of them lands in neither. Every test first compares the partition numbers.

    The loop is a fold that appends each drive to at most one list, so the two results are the
    input filtered by one routing function (`splitByMatch_routes`): order-preserving sublists that
    share no position. -/

namespace DirectPV

/-- `sys.UDevData`, which is not in the sources: the fields the identity tests read. -/
structure UDevData where
  partition : Int := 0
  wwid : String := ""
  serial : String := ""
  ueventSerial : String := ""
  model : String := ""
  vendor : String := ""
  dmUUID : String := ""
  mdUUID : String := ""
  ptUUID : String := ""
  ptType : String := ""
  partUUID : String := ""
  fsUUID : String := ""
  ueventFSUUID : String := ""
  fsType : String := ""
  deriving DecidableEq, Repr

/-- The negation of a `switch` case `recorded != "" && recorded != observed`: a value the drive
    records agrees with the device's. -/
def recordedAgrees (recorded observed : String) : Bool :=
  recorded = "" ∨ recorded = observed

/-- `isHWInfoAvailable`. -/
def isHWInfoAvailable (drive : DirectCSIDrive) : Bool :=
  drive.status.wwid ≠ "" ∨ drive.status.serialNumber ≠ "" ∨ drive.status.ueventSerial ≠ ""

/-- `matchDeviceHWInfo`: its `switch` answers `false` at the first case that holds. -/
def matchDeviceHWInfo (drive : DirectCSIDrive) (device : UDevData) : Bool :=
  drive.status.partitionNum = device.partition ∧
    recordedAgrees drive.status.wwid device.wwid ∧
    recordedAgrees drive.status.serialNumber device.serial ∧
    recordedAgrees drive.status.ueventSerial device.ueventSerial ∧
    recordedAgrees drive.status.modelNumber device.model ∧
    recordedAgrees drive.status.vendor device.vendor

/-- `isDMMDUUIDAvailable`. -/
def isDMMDUUIDAvailable (drive : DirectCSIDrive) : Bool :=
  drive.status.dmUUID ≠ "" ∨ drive.status.mdUUID ≠ ""

/-- `matchDeviceDMMDUUID`. -/
def matchDeviceDMMDUUID (drive : DirectCSIDrive) (device : UDevData) : Bool :=
  drive.status.partitionNum = device.partition ∧
    recordedAgrees drive.status.dmUUID device.dmUUID ∧
    recordedAgrees drive.status.mdUUID device.mdUUID

/-- `isPTUUIDAvailable`: a partition-table UUID on a whole disk. -/
def isPTUUIDAvailable (drive : DirectCSIDrive) : Bool :=
  drive.status.partitionNum ≤ 0 ∧ drive.status.partTableUUID ≠ ""

/-- `matchDevicePTUUID`. -/
def matchDevicePTUUID (drive : DirectCSIDrive) (device : UDevData) : Bool :=
  drive.status.partitionNum = device.partition ∧
    drive.status.partTableUUID = device.ptUUID ∧
    ptTypeEqual drive.status.partTableType device.ptType

/-- `isPartUUIDAvailable`: a partition UUID on a partition. -/
def isPartUUIDAvailable (drive : DirectCSIDrive) : Bool :=
  drive.status.partitionNum > 0 ∧ drive.status.partitionUUID ≠ ""

/-- `matchDevicePartUUID`. -/
def matchDevicePartUUID (drive : DirectCSIDrive) (device : UDevData) : Bool :=
  drive.status.partitionNum = device.partition ∧ drive.status.partitionUUID = device.partUUID

/-- `isFSUUIDAvailable`. -/
def isFSUUIDAvailable (drive : DirectCSIDrive) : Bool :=
  drive.status.filesystemUUID ≠ "" ∨ drive.status.ueventFSUUID ≠ ""

/-- `matchDeviceFSUUID`. -/
def matchDeviceFSUUID (env : Env) (drive : DirectCSIDrive) (device : UDevData) : Bool :=
  drive.status.partitionNum = device.partition ∧
    drive.status.filesystemUUID = device.fsUUID ∧
    drive.status.ueventFSUUID = device.ueventFSUUID ∧
    env.fsTypeEqual drive.status.filesystem device.fsType

/-- One drive of the loop of `splitByMatch`: the first available category's test appends it to
    the matched or the unmatched list; with none available the drive is skipped. -/
def splitByMatchStep (env : Env) (device : UDevData)
    (acc : List DirectCSIDrive × List DirectCSIDrive) (drive : DirectCSIDrive) :
    List DirectCSIDrive × List DirectCSIDrive :=
  let file (matched : Bool) := if matched then (acc.1 ++ [drive], acc.2) else (acc.1, acc.2 ++ [drive])
  if isHWInfoAvailable drive then file (matchDeviceHWInfo drive device)
  else if isDMMDUUIDAvailable drive then file (matchDeviceDMMDUUID drive device)
  else if isPTUUIDAvailable drive then file (matchDevicePTUUID drive device)
  else if isPartUUIDAvailable drive then file (matchDevicePartUUID drive device)
  else if isFSUUIDAvailable drive then file (matchDeviceFSUUID env drive device)
  else acc

/-- `splitByMatch`: the matched and the unmatched drives. -/
def splitByMatch (env : Env) (drives : List DirectCSIDrive) (device : UDevData) :
    List DirectCSIDrive × List DirectCSIDrive :=
  drives.foldl (splitByMatchStep env device) ([], [])

/-! ### The routing of one drive -/

/-- The identity categories of a drive record, in the order `splitByMatch` tries them. -/
inductive IdentityCategory where
  | hwInfo
  | dmmdUUID
  | ptUUID
  | partUUID
  | fsUUID
  deriving DecidableEq, Repr

/-- Whether the drive records the category. -/
def IdentityCategory.isAvailable : IdentityCategory → DirectCSIDrive → Bool
  | .hwInfo => isHWInfoAvailable
  | .dmmdUUID => isDMMDUUIDAvailable
  | .ptUUID => isPTUUIDAvailable
  | .partUUID => isPartUUIDAvailable
  | .fsUUID => isFSUUIDAvailable

/-- The category's test of the drive against the device. -/
def IdentityCategory.matchDevice (env : Env) : IdentityCategory → DirectCSIDrive → UDevData → Bool
  | .hwInfo => matchDeviceHWInfo
  | .dmmdUUID => matchDeviceDMMDUUID
  | .ptUUID => matchDevicePTUUID
  | .partUUID => matchDevicePartUUID
  | .fsUUID => matchDeviceFSUUID env

/-- The categories in order. -/
def identityCategories : List IdentityCategory := [.hwInfo, .dmmdUUID, .ptUUID, .partUUID, .fsUUID]

/-- The category that decides for a drive: the first one it records. -/
def decidingCategory (drive : DirectCSIDrive) : Option IdentityCategory :=
  identityCategories.find? (·.isAvailable drive)

/-- Where a drive goes: `some true` to the matched list, `some false` to the unmatched one,
    `none` to neither. -/
def route (env : Env) (device : UDevData) (drive : DirectCSIDrive) : Option Bool :=
  (decidingCategory drive).map (·.matchDevice env drive device)

/-- The first category a drive records, as an `if` chain. -/
theorem decidingCategory_eq (drive : DirectCSIDrive) :
    decidingCategory drive =
      if isHWInfoAvailable drive then some .hwInfo
      else if isDMMDUUIDAvailable drive then some .dmmdUUID
      else if isPTUUIDAvailable drive then some .ptUUID
      else if isPartUUIDAvailable drive then some .partUUID
      else if isFSUUIDAvailable drive then some .fsUUID
      else none := by
  unfold decidingCategory
  simp only [identityCategories, List.find?, IdentityCategory.isAvailable]
  cases isHWInfoAvailable drive <;> cases isDMMDUUIDAvailable drive <;>
    cases isPTUUIDAvailable drive <;> cases isPartUUIDAvailable drive <;>
    cases isFSUUIDAvailable drive <;> rfl

/-- One step of the loop files the drive where `route` sends it. -/
theorem splitByMatchStep_route (env : Env) (device : UDevData)
    (acc : List DirectCSIDrive × List DirectCSIDrive) (drive : DirectCSIDrive) :
    splitByMatchStep env device acc drive =
      match route env device drive with
      | some true => (acc.1 ++ [drive], acc.2)
      | some false => (acc.1, acc.2 ++ [drive])
      | none => acc := by
  unfold splitByMatchStep route
  rw [decidingCategory_eq]
  cases isHWInfoAvailable drive
  case true =>
    simp only [↓reduceIte, Option.map_some', IdentityCategory.matchDevice]
    cases matchDeviceHWInfo drive device <;> rfl
  cases isDMMDUUIDAvailable drive
  case true =>
    simp only [Bool.false_eq_true, ↓reduceIte, Option.map_some', IdentityCategory.matchDevice]
    cases matchDeviceDMMDUUID drive device <;> rfl
  cases isPTUUIDAvailable drive
  case true =>
    simp only [Bool.false_eq_true, ↓reduceIte, Option.map_some', IdentityCategory.matchDevice]
    cases matchDevicePTUUID drive device <;> rfl
  cases isPartUUIDAvailable drive
  case true =>
    simp only [Bool.false_eq_true, ↓reduceIte, Option.map_some', IdentityCategory.matchDevice]
    cases matchDevicePartUUID drive device <;> rfl
  cases isFSUUIDAvailable drive
  case true =>
    simp only [Bool.false_eq_true, ↓reduceIte, Option.map_some', IdentityCategory.matchDevice]
    cases matchDeviceFSUUID env drive device <;> rfl
  rfl

/-- The loop from any two lists appends to each the drives `route` sends there, in order. -/
theorem foldl_splitByMatchStep (env : Env) (device : UDevData) (drives : List DirectCSIDrive) :
    ∀ matched unmatched : List DirectCSIDrive,
      drives.foldl (splitByMatchStep env device) (matched, unmatched) =
        (matched ++ drives.filter (route env device · = some true),
          unmatched ++ drives.filter (route env device · = some false)) := by
  induction drives with
  | nil => simp
  | cons drive drives ih =>
    intro matched unmatched
    rw [List.foldl_cons, splitByMatchStep_route]
    rcases hr : route env device drive with _ | _ | _ <;> simp [ih, List.filter_cons, hr]

/-- A drive is filed exactly when it records one of the categories. -/
theorem route_isSome_iff (env : Env) (device : UDevData) (drive : DirectCSIDrive) :
    (route env device drive).isSome ↔
      isHWInfoAvailable drive ∨ isDMMDUUIDAvailable drive ∨ isPTUUIDAvailable drive ∨
        isPartUUIDAvailable drive ∨ isFSUUIDAvailable drive := by
  rw [route, decidingCategory_eq]
  split_ifs <;> simp_all

/-- Every category's test compares the partition numbers first. -/
theorem IdentityCategory.matchDevice_partition {env : Env} {c : IdentityCategory}
    {drive : DirectCSIDrive} {device : UDevData} (h : c.matchDevice env drive device = true) :
    drive.status.partitionNum = device.partition := by
  cases c <;> simp_all [IdentityCategory.matchDevice, matchDeviceHWInfo, matchDeviceDMMDUUID,
    matchDevicePTUUID, matchDevicePartUUID, matchDeviceFSUUID]

/-- A drive filed by another category than hardware information records none of it. -/
theorem isHWInfoAvailable_of_decidingCategory {drive : DirectCSIDrive} {c : IdentityCategory}
    (h : decidingCategory drive = some c) (hc : c ≠ .hwInfo) : isHWInfoAvailable drive = false := by
  cases hhw : isHWInfoAvailable drive
  · rfl
  · rw [decidingCategory_eq, if_pos hhw, Option.some.injEq] at h
    exact absurd h.symm hc

/-- A matched drive has the device's partition number and agrees with the device on every piece
    of hardware information it records. -/
theorem route_eq_some_true {env : Env} {device : UDevData} {drive : DirectCSIDrive}
    (h : route env device drive = some true) :
    drive.status.partitionNum = device.partition ∧
      (drive.status.wwid ≠ "" → drive.status.wwid = device.wwid) ∧
      (drive.status.serialNumber ≠ "" → drive.status.serialNumber = device.serial) ∧
      (drive.status.ueventSerial ≠ "" → drive.status.ueventSerial = device.ueventSerial) := by
  obtain ⟨c, hc, hmatch⟩ := Option.map_eq_some'.1 h
  refine ⟨IdentityCategory.matchDevice_partition hmatch, ?_⟩
  by_cases hhw : c = .hwInfo
  · subst hhw
    simp only [IdentityCategory.matchDevice, matchDeviceHWInfo, recordedAgrees, Bool.decide_or,
      Bool.decide_and, Bool.and_eq_true, Bool.or_eq_true, decide_eq_true_eq] at hmatch
    exact ⟨hmatch.2.1.resolve_left, hmatch.2.2.1.resolve_left, hmatch.2.2.2.1.resolve_left⟩
  · have := isHWInfoAvailable_of_decidingCategory hc hhw
    simp_all [isHWInfoAvailable]

/-- `splitByMatch` filters the drives by `route`, which files a drive exactly when it records an
    identity category; a matched drive agrees with the device on partition and hardware identity. -/
theorem splitByMatch_routes (env : Env) (drives : List DirectCSIDrive) (device : UDevData) :
    (splitByMatch env drives device).1 = drives.filter (route env device · = some true) ∧
    (splitByMatch env drives device).2 = drives.filter (route env device · = some false) ∧
    (∀ drive, (route env device drive).isSome ↔
      isHWInfoAvailable drive ∨ isDMMDUUIDAvailable drive ∨ isPTUUIDAvailable drive ∨
        isPartUUIDAvailable drive ∨ isFSUUIDAvailable drive) ∧
    (∀ drive ∈ (splitByMatch env drives device).1,
      drive.status.partitionNum = device.partition ∧
        (drive.status.wwid ≠ "" → drive.status.wwid = device.wwid) ∧
        (drive.status.serialNumber ≠ "" → drive.status.serialNumber = device.serial) ∧
        (drive.status.ueventSerial ≠ "" → drive.status.ueventSerial = device.ueventSerial)) := by
  have hsplit := foldl_splitByMatchStep env device drives [] []
  simp only [List.nil_append] at hsplit
  refine ⟨congrArg Prod.fst hsplit, congrArg Prod.snd hsplit, route_isSome_iff env device,
    fun drive hdrive => ?_⟩
  rw [splitByMatch, hsplit] at hdrive
  have hroute := (List.mem_filter.1 hdrive).2
  rw [decide_eq_true_eq] at hroute
  exact route_eq_some_true hroute

/-- A drive whose WWID is not the device's is unmatched, though its filesystem UUID is the
    device's: hardware information decides first. -/
example :
    splitByMatch sampleEnv
        [{ status := { driveStatus := .ready, wwid := "w1", filesystemUUID := "f" } }]
        { wwid := "w2", fsUUID := "f" } =
      ([], [{ status := { driveStatus := .ready, wwid := "w1", filesystemUUID := "f" } }]) := by
  decide

end DirectPV
