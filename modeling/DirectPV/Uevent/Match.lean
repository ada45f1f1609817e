import DirectPV.Types

/-! The drive matcher of package `uevent`: the ordered `matchers` list, `getMatchingDrives` and
    `runMatcher`.

    A matcher returns `(match, consider)`; `consider = true` passes the drive to the next matcher,
    and the first matcher with `consider = false` classifies the drive. The `err` result of the
    source's matchers is always `nil` and `getMatchingDrives` discards it, so it is left out.

    Two facts decide everything here. `partitionNumberMatcher`, first in `matchers`, always
    answers `consider = false`, so it classifies every drive alone and the other twelve matchers
    never run (`matchDrive_matchers`). And `getMatchingDrives` writes its named result `matchList`
    before allocating it, so it panics on the first drive of any non-empty list
    (`getMatchingDrives_panics`). -/

namespace DirectPV

/-- `isDOSPTType`. -/
def isDOSPTType (ptType : String) : Bool :=
  ptType = "dos" ∨ ptType = "msdos" ∨ ptType = "mbr"

/-- `ptTypeEqual`: partition table types compared case-insensitively, the DOS names as one. -/
def ptTypeEqual (ptType1 ptType2 : String) : Bool :=
  let ptType1 := ptType1.toLower
  let ptType2 := ptType2.toLower
  if ptType1 = ptType2 then true
  else if isDOSPTType ptType1 ∧ isDOSPTType ptType2 then true
  else false

@[simp] theorem ptTypeEqual_self (ptType : String) : ptTypeEqual ptType ptType = true := by
  simp [ptTypeEqual]

/-! ### Matchers -/

/-- The body shared by ten matchers: a property the drive has not recorded passes the drive on
    (`consider = true`); a recorded one decides, matching when the device reports the same value. -/
def recordedPropertyMatcher (recorded observed : String) : Bool × Bool :=
  if recorded = "" then (false, true) else (recorded = observed, false)

/-- `partitionNumberMatcher`: always conclusive. -/
def partitionNumberMatcher (device : Device) (drive : DirectCSIDrive) : Bool × Bool :=
  (drive.status.partitionNum = device.partition, false)

/-- `ueventSerialNumberMatcher`. -/
def ueventSerialNumberMatcher (device : Device) (drive : DirectCSIDrive) : Bool × Bool :=
  recordedPropertyMatcher drive.status.ueventSerial device.ueventSerial

/-- `wwidMatcher`. -/
def wwidMatcher (device : Device) (drive : DirectCSIDrive) : Bool × Bool :=
  recordedPropertyMatcher drive.status.wwid device.wwid

/-- `modelNumberMatcher`. -/
def modelNumberMatcher (device : Device) (drive : DirectCSIDrive) : Bool × Bool :=
  recordedPropertyMatcher drive.status.modelNumber device.model

/-- `vendorMatcher`. -/
def vendorMatcher (device : Device) (drive : DirectCSIDrive) : Bool × Bool :=
  recordedPropertyMatcher drive.status.vendor device.vendor

/-- `partitionTableUUIDMatcher`: needs both the table UUID and the table type recorded. -/
def partitionTableUUIDMatcher (device : Device) (drive : DirectCSIDrive) : Bool × Bool :=
  if drive.status.partTableUUID = "" ∨ drive.status.partTableType = "" then (false, true)
  else (drive.status.partTableUUID = device.ptUUID ∧
    ptTypeEqual drive.status.partTableType device.ptType, false)

/-- `partitionUUIDMatcher`. -/
def partitionUUIDMatcher (device : Device) (drive : DirectCSIDrive) : Bool × Bool :=
  recordedPropertyMatcher drive.status.partitionUUID device.partUUID

/-- `dmUUIDMatcher`. -/
def dmUUIDMatcher (device : Device) (drive : DirectCSIDrive) : Bool × Bool :=
  recordedPropertyMatcher drive.status.dmUUID device.dmUUID

/-- `mdUUIDMatcher`. -/
def mdUUIDMatcher (device : Device) (drive : DirectCSIDrive) : Bool × Bool :=
  recordedPropertyMatcher drive.status.mdUUID device.mdUUID

/-- `ueventFSUUIDMatcher`. -/
def ueventFSUUIDMatcher (device : Device) (drive : DirectCSIDrive) : Bool × Bool :=
  recordedPropertyMatcher drive.status.ueventFSUUID device.ueventFSUUID

/-- `fsUUIDMatcher`. -/
def fsUUIDMatcher (device : Device) (drive : DirectCSIDrive) : Bool × Bool :=
  recordedPropertyMatcher drive.status.filesystemUUID device.fsUUID

/-- `serialNumberMatcher`. -/
def serialNumberMatcher (device : Device) (drive : DirectCSIDrive) : Bool × Bool :=
  recordedPropertyMatcher drive.status.serialNumber device.serial

/-- `logicalBlocksizeMatcher`: always conclusive. -/
def logicalBlocksizeMatcher (device : Device) (drive : DirectCSIDrive) : Bool × Bool :=
  (drive.status.logicalBlockSize = device.logicalBlockSize, false)

/-- The matcher functions, as the values `matchers` and `matchList` hold. -/
inductive MatchFn where
  | partitionNumberMatcher
  | ueventSerialNumberMatcher
  | wwidMatcher
  | modelNumberMatcher
  | vendorMatcher
  | partitionTableUUIDMatcher
  | partitionUUIDMatcher
  | dmUUIDMatcher
  | mdUUIDMatcher
  | ueventFSUUIDMatcher
  | fsUUIDMatcher
  | serialNumberMatcher
  | logicalBlocksizeMatcher
  deriving DecidableEq, Repr

/-- Calling a matcher function. -/
def MatchFn.run : MatchFn → Device → DirectCSIDrive → Bool × Bool
  | .partitionNumberMatcher => DirectPV.partitionNumberMatcher
  | .ueventSerialNumberMatcher => DirectPV.ueventSerialNumberMatcher
  | .wwidMatcher => DirectPV.wwidMatcher
  | .modelNumberMatcher => DirectPV.modelNumberMatcher
  | .vendorMatcher => DirectPV.vendorMatcher
  | .partitionTableUUIDMatcher => DirectPV.partitionTableUUIDMatcher
  | .partitionUUIDMatcher => DirectPV.partitionUUIDMatcher
  | .dmUUIDMatcher => DirectPV.dmUUIDMatcher
  | .mdUUIDMatcher => DirectPV.mdUUIDMatcher
  | .ueventFSUUIDMatcher => DirectPV.ueventFSUUIDMatcher
  | .fsUUIDMatcher => DirectPV.fsUUIDMatcher
  | .serialNumberMatcher => DirectPV.serialNumberMatcher
  | .logicalBlocksizeMatcher => DirectPV.logicalBlocksizeMatcher

/-- `matchers`, in the source's order. -/
def matchers : List MatchFn :=
  [.partitionNumberMatcher, .ueventSerialNumberMatcher, .wwidMatcher, .modelNumberMatcher,
    .vendorMatcher, .partitionTableUUIDMatcher, .partitionUUIDMatcher, .dmUUIDMatcher,
    .mdUUIDMatcher, .ueventFSUUIDMatcher, .fsUUIDMatcher, .serialNumberMatcher,
    .logicalBlocksizeMatcher]

/-! ### `getMatchingDrives` and `runMatcher` -/

/-- The inner loop of `getMatchingDrives` for one drive: whether the drive is appended to
    `matchedDrives`, and `matchedFn`. Matchers answering `consider = true` are skipped; the first
    other one decides and ends the loop. -/
def matchDrive (device : Device) (drive : DirectCSIDrive) : List MatchFn → Bool × List MatchFn
  | [] => (false, [])
  | fn :: fns =>
    let (m, cont) := fn.run device drive
    if cont then matchDrive device drive fns else (m, [fn])

/-- The outer loop of `getMatchingDrives` from the `i`-th drive on, with the results so far. The
    map is keyed by the drive's position, standing for its pointer. -/
def getMatchingDrivesFrom (device : Device) :
    List DirectCSIDrive → Nat → List DirectCSIDrive → Option (GoMap Nat (List MatchFn)) →
      Except GoError (List DirectCSIDrive × Option (GoMap Nat (List MatchFn)))
  | [], _, matchedDrives, matchList => .ok (matchedDrives, matchList)
  | drive :: drives, i, matchedDrives, matchList => do
    let (m, matchedFn) := matchDrive device drive matchers
    let matchedDrives := if m then matchedDrives ++ [drive] else matchedDrives
    let matchList ← mapAssign matchList i matchedFn
    getMatchingDrivesFrom device drives (i + 1) matchedDrives (some matchList)

/-- `getMatchingDrives`: both named results start as Go's zero values, `nil`. -/
def getMatchingDrives (device : Device) (drives : List DirectCSIDrive) :
    Except GoError (List DirectCSIDrive × Option (GoMap Nat (List MatchFn))) :=
  getMatchingDrivesFrom device drives 0 [] none

/-- `runMatcher`. -/
def runMatcher (device : Device) (drives : List DirectCSIDrive) : Except GoError DirectCSIDrive := do
  let (matchedDrives, _) ← getMatchingDrives device drives
  match matchedDrives with
  | [drive] => .ok drive
  | [] => .error .errNoMatchFound
  | _ => .error (.text ("device " ++ device.name ++ " has too many matches"))

/-! ### The partition number decides alone -/

/-- Every drive is classified by `partitionNumberMatcher`: matched exactly when its recorded
    partition number is the device's, whatever the other properties say. -/
theorem matchDrive_matchers (device : Device) (drive : DirectCSIDrive) :
    matchDrive device drive matchers =
      (decide (drive.status.partitionNum = device.partition), [.partitionNumberMatcher]) := rfl

/-- A drive matched against a device with another WWID: the partition numbers agree, so
    `wwidMatcher` is never asked. -/
theorem matchers_accept_conflicting_wwid :
    let device : Device := { name := "sdb", wwid := "naa.5000c500a1b2c3d4" }
    let drive : DirectCSIDrive :=
      { name := "drive-1", status := { wwid := "naa.5000c500deadbeef", driveStatus := .ready } }
    drive.status.wwid ≠ "" ∧ device.wwid ≠ "" ∧ drive.status.wwid ≠ device.wwid ∧
      (matchDrive device drive matchers).1 = true := by
  decide

/-- A drive with no recorded identity: every string property the matchers read is empty, and
    the partition number and logical block size are zero. -/
def DirectCSIDrive.IdentityLess (drive : DirectCSIDrive) : Prop :=
  drive.status.ueventSerial = "" ∧ drive.status.wwid = "" ∧ drive.status.modelNumber = "" ∧
    drive.status.vendor = "" ∧ drive.status.partTableUUID = "" ∧
    drive.status.partTableType = "" ∧ drive.status.partitionUUID = "" ∧
    drive.status.dmUUID = "" ∧ drive.status.mdUUID = "" ∧ drive.status.ueventFSUUID = "" ∧
    drive.status.filesystemUUID = "" ∧ drive.status.serialNumber = "" ∧
    drive.status.partitionNum = 0 ∧ drive.status.logicalBlockSize = 0

instance : DecidablePred DirectCSIDrive.IdentityLess := fun _ =>
  inferInstanceAs (Decidable (_ ∧ _))

/-! ### `getMatchingDrives` panics on every non-empty list -/

/-- Whatever has been accumulated, the first drive the loop meets with a `nil` map panics. -/
theorem getMatchingDrivesFrom_nil_map (device : Device) (drive : DirectCSIDrive)
    (drives : List DirectCSIDrive) (i : Nat) (matchedDrives : List DirectCSIDrive) :
    getMatchingDrivesFrom device (drive :: drives) i matchedDrives none =
      .error (.panic "assignment to entry in nil map") := rfl

/-- `getMatchingDrives` never returns on a non-empty list: `matchList` is `nil`. -/
theorem getMatchingDrives_panics (device : Device) (drives : List DirectCSIDrive)
    (h : drives ≠ []) :
    getMatchingDrives device drives = .error (.panic "assignment to entry in nil map") := by
  obtain ⟨drive, drives, rfl⟩ := List.exists_cons_of_ne_nil h
  exact getMatchingDrivesFrom_nil_map device drive drives 0 []

/-- `runMatcher` returns only on the empty list, with `errNoMatchFound`; on any other list it
    panics before counting matches. -/
theorem runMatcher_spec (device : Device) (drives : List DirectCSIDrive) :
    runMatcher device drives =
      if drives = [] then .error .errNoMatchFound
      else .error (.panic "assignment to entry in nil map") := by
  by_cases h : drives = []
  · subst h
    rfl
  · simp only [runMatcher, getMatchingDrives_panics device drives h, if_neg h]
    rfl

/-- `runMatcher` on one drive that the device matches. -/
theorem runMatcher_single_drive_panics :
    runMatcher { name := "sda" } [{ name := "drive-1", status := { driveStatus := .ready } }] =
      .error (.panic "assignment to entry in nil map") :=
  (runMatcher_spec _ _).trans (if_neg (List.cons_ne_nil _ _))

/-- An identity-less drive is matched by a whole disk, and two of them make `runMatcher` panic
    rather than find no match. -/
theorem identityless_matched_on_whole_disk :
    let device : Device := { name := "sda" }
    let drive : DirectCSIDrive := { status := { driveStatus := .available } }
    drive.IdentityLess ∧ (matchDrive device drive matchers).1 = true ∧
      runMatcher device [drive, drive] = .error (.panic "assignment to entry in nil map") :=
  ⟨by decide, (congrArg Prod.fst (matchDrive_matchers _ _)).trans (by decide),
    (runMatcher_spec _ _).trans (if_neg (List.cons_ne_nil _ _))⟩

end DirectPV
