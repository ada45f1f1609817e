import DirectPV.Uevent.Match

/-! The first matcher of `pkg/uevent/match.go`: matchers that answer `(matched, cont)`, most of
    them through `genericMatcher`, run by the loops that `src/unnamed/part_003` has as well
    (`DirectPV.Uevent.Match`).

    Here `partitionNumberMatcher` is left out of `matchers`, so every matcher is asked in turn. But
    each one answers `cont = true` whenever it answers `matched = true`
    (`MatchFn.cont_of_matched`): a property that agrees passes the drive on, and only one that
    disagrees stops the loop, unmatched. So the inner loop of `getMatchingDrives` never appends a
    drive (`matchDrive_never_matches`), and even with an allocated `matchList` the outer loop
    returns no drive (`getMatchingDrivesFrom_allocated`). -/

namespace DirectPV.GenericMatch

/-- `genericMatcher`: an empty `alpha` passes the drive on; otherwise the drive goes on exactly
    when `alpha` is `beta`, which is also the answer. -/
def genericMatcher (alpha beta : String) : Bool × Bool :=
  if alpha = "" then (false, true) else (alpha = beta, alpha = beta)

/-- The body four matchers write out: `matched = recorded == "" || recorded == observed`, returned
    as both results. -/
def unrecordedOrEqualMatcher (recorded observed : String) : Bool × Bool :=
  let matched := recorded = "" ∨ recorded = observed
  (matched, matched)

/-- `fsUUIDMatcher`. -/
def fsUUIDMatcher (device : Device) (drive : DirectCSIDrive) : Bool × Bool :=
  genericMatcher drive.status.filesystemUUID device.fsUUID

/-- `ueventFSUUIDMatcher`. -/
def ueventFSUUIDMatcher (device : Device) (drive : DirectCSIDrive) : Bool × Bool :=
  genericMatcher drive.status.ueventFSUUID device.ueventFSUUID

/-- `serialNumberMatcher`. -/
def serialNumberMatcher (device : Device) (drive : DirectCSIDrive) : Bool × Bool :=
  genericMatcher drive.status.serialNumber device.serial

/-- `ueventSerialNumberMatcher`. -/
def ueventSerialNumberMatcher (device : Device) (drive : DirectCSIDrive) : Bool × Bool :=
  genericMatcher drive.status.ueventSerial device.ueventSerial

/-- `wwidMatcher`. -/
def wwidMatcher (device : Device) (drive : DirectCSIDrive) : Bool × Bool :=
  unrecordedOrEqualMatcher drive.status.wwid device.wwid

/-- `modelNumberMatcher`. -/
def modelNumberMatcher (device : Device) (drive : DirectCSIDrive) : Bool × Bool :=
  genericMatcher drive.status.modelNumber device.model

/-- `vendorMatcher`. -/
def vendorMatcher (device : Device) (drive : DirectCSIDrive) : Bool × Bool :=
  genericMatcher drive.status.vendor device.vendor

/-- `dmUUIDMatcher`. -/
def dmUUIDMatcher (device : Device) (drive : DirectCSIDrive) : Bool × Bool :=
  unrecordedOrEqualMatcher drive.status.dmUUID device.dmUUID

/-- `mdUUIDMatcher`. -/
def mdUUIDMatcher (device : Device) (drive : DirectCSIDrive) : Bool × Bool :=
  unrecordedOrEqualMatcher drive.status.mdUUID device.mdUUID

/-- `partitionUUIDMatcher`. -/
def partitionUUIDMatcher (device : Device) (drive : DirectCSIDrive) : Bool × Bool :=
  unrecordedOrEqualMatcher drive.status.partitionUUID device.partUUID

/-- `partitionTableUUIDMatcher`: any one of the four tests is enough. -/
def partitionTableUUIDMatcher (device : Device) (drive : DirectCSIDrive) : Bool × Bool :=
  let matched := drive.status.partTableUUID = "" ∨ drive.status.partTableUUID = device.ptUUID ∨
    drive.status.partTableType = "" ∨ ptTypeEqual drive.status.partTableType device.ptType
  (matched, matched)

/-- The matcher functions of this `matchers` list. -/
inductive MatchFn where
  | fsUUIDMatcher
  | ueventFSUUIDMatcher
  | serialNumberMatcher
  | ueventSerialNumberMatcher
  | wwidMatcher
  | modelNumberMatcher
  | vendorMatcher
  | dmUUIDMatcher
  | mdUUIDMatcher
  | partitionUUIDMatcher
  | partitionTableUUIDMatcher
  deriving DecidableEq, Repr

/-- Calling a matcher function. -/
def MatchFn.run : MatchFn → Device → DirectCSIDrive → Bool × Bool
  | .fsUUIDMatcher => GenericMatch.fsUUIDMatcher
  | .ueventFSUUIDMatcher => GenericMatch.ueventFSUUIDMatcher
  | .serialNumberMatcher => GenericMatch.serialNumberMatcher
  | .ueventSerialNumberMatcher => GenericMatch.ueventSerialNumberMatcher
  | .wwidMatcher => GenericMatch.wwidMatcher
  | .modelNumberMatcher => GenericMatch.modelNumberMatcher
  | .vendorMatcher => GenericMatch.vendorMatcher
  | .dmUUIDMatcher => GenericMatch.dmUUIDMatcher
  | .mdUUIDMatcher => GenericMatch.mdUUIDMatcher
  | .partitionUUIDMatcher => GenericMatch.partitionUUIDMatcher
  | .partitionTableUUIDMatcher => GenericMatch.partitionTableUUIDMatcher

/-- `matchers`, in the source's order; `partitionNumberMatcher` is commented out of it. -/
def matchers : List MatchFn :=
  [.fsUUIDMatcher, .ueventFSUUIDMatcher, .serialNumberMatcher, .ueventSerialNumberMatcher,
    .wwidMatcher, .modelNumberMatcher, .vendorMatcher, .dmUUIDMatcher, .mdUUIDMatcher,
    .partitionUUIDMatcher, .partitionTableUUIDMatcher]

/-- The inner loop of `getMatchingDrives` for one drive, as in `DirectPV.matchDrive`. -/
def matchDrive (device : Device) (drive : DirectCSIDrive) : List MatchFn → Bool × List MatchFn
  | [] => (false, [])
  | fn :: fns =>
    let (m, cont) := fn.run device drive
    if cont then matchDrive device drive fns else (m, [fn])

/-- The outer loop of `getMatchingDrives`, as in `DirectPV.getMatchingDrivesFrom`. -/
def getMatchingDrivesFrom (device : Device) :
    List DirectCSIDrive → Nat → List DirectCSIDrive → Option (GoMap Nat (List MatchFn)) →
      Except GoError (List DirectCSIDrive × Option (GoMap Nat (List MatchFn)))
  | [], _, matchedDrives, matchList => .ok (matchedDrives, matchList)
  | drive :: drives, i, matchedDrives, matchList => do
    let (m, matchedFn) := matchDrive device drive matchers
    let matchedDrives := if m then matchedDrives ++ [drive] else matchedDrives
    let matchList ← mapAssign matchList i matchedFn
    getMatchingDrivesFrom device drives (i + 1) matchedDrives (some matchList)

/-- `getMatchingDrives`: both named results start as `nil`. -/
def getMatchingDrives (device : Device) (drives : List DirectCSIDrive) :
    Except GoError (List DirectCSIDrive × Option (GoMap Nat (List MatchFn))) :=
  getMatchingDrivesFrom device drives 0 [] none

/-- `runMatcher`. -/
def runMatcher (device : Device) (drives : List DirectCSIDrive) : Except GoError DirectCSIDrive := do
  let (matchedDrives, _) ← getMatchingDrives device drives
  match matchedDrives with
  | [drive] => .ok drive
  | [] => .error .errNoMatchFound
  | _ => .error (.text ("device " ++ device.name ++ " has too many matches"))

/-! ### A match never concludes -/

theorem genericMatcher_cont_of_matched {alpha beta : String}
    (h : (genericMatcher alpha beta).1 = true) : (genericMatcher alpha beta).2 = true := by
  unfold genericMatcher at h ⊢
  split_ifs at h ⊢
  exact h

/-- Every matcher of the list passes on a drive it matches. -/
theorem MatchFn.cont_of_matched (fn : MatchFn) (device : Device) (drive : DirectCSIDrive)
    (h : (fn.run device drive).1 = true) : (fn.run device drive).2 = true := by
  cases fn
  case wwidMatcher | dmUUIDMatcher | mdUUIDMatcher | partitionUUIDMatcher |
      partitionTableUUIDMatcher => exact h
  all_goals exact genericMatcher_cont_of_matched h

/-- The inner loop never appends a drive: a drive either disagrees with a matcher, which rejects
    it, or passes all of them and is rejected after the last. -/
theorem matchDrive_never_matches (device : Device) (drive : DirectCSIDrive) :
    ∀ fns : List MatchFn, (matchDrive device drive fns).1 = false
  | [] => rfl
  | fn :: fns => by
    unfold matchDrive
    cases hfn : fn.run device drive with
    | mk m cont =>
      cases cont
      · cases m
        · rfl
        · simpa [hfn] using fn.cont_of_matched device drive (by rw [hfn])
      · exact matchDrive_never_matches device drive fns

/-- With `matchList` allocated, the outer loop runs to the end and appends no drive. -/
theorem getMatchingDrivesFrom_allocated (device : Device) :
    ∀ (drives : List DirectCSIDrive) (i : Nat) (matchedDrives : List DirectCSIDrive)
      (matchList : GoMap Nat (List MatchFn)),
      ∃ matchList', getMatchingDrivesFrom device drives i matchedDrives (some matchList) =
        .ok (matchedDrives, some matchList')
  | [], _, _, matchList => ⟨matchList, rfl⟩
  | drive :: drives, i, matchedDrives, matchList => by
    have hm := matchDrive_never_matches device drive matchers
    obtain ⟨matchList', h⟩ := getMatchingDrivesFrom_allocated device drives (i + 1) matchedDrives
      (matchList.insert i (matchDrive device drive matchers).2)
    refine ⟨matchList', ?_⟩
    rw [getMatchingDrivesFrom]
    simp only [hm, Bool.false_eq_true, if_false, mapAssign, bind, Except.bind]
    exact h

end DirectPV.GenericMatch
