import DirectPV.Uevent.Parse

/-! The read loop of package `uevent`: `parseUdevData`, `getNextDeviceUEvent` and the loop of
    `Run` that pushes decoded events onto the queue.

    The socket is the finite list of datagrams still to arrive; a read after the last one blocks,
    and the context is never cancelled. Package `udev` is not in the sources: `Udev` stands for its
    two readers, whose errors are their own and never `errNonDeviceEvent`.

    `parseUdevData` answers `errNonDeviceEvent` exactly for the parsed events whose `SUBSYSTEM` is
    `block` (`parseUdevData_eq_errNonDeviceEvent_iff`), so `Run` drops the block-device events and
    decodes the others (`run_cons`). -/

namespace DirectPV

/-- The `ACTION` values `add`, `change` and `remove`. -/
def Action.add : Bytes := ascii "add"
/-- `change`. -/
def Action.change : Bytes := ascii "change"
/-- `remove`. -/
def Action.remove : Bytes := ascii "remove"

/-- The readers of package `udev` that `parseUdevData` calls, with their own error texts:
    `ReadRunUdevData` reads `/run/udev/data/b<major>:<minor>`, `EventMapToUdevData` builds the
    data from the event map. -/
structure Udev (Data : Type) where
  readRunUdevData : Int → Int → Except String Data
  eventMapToUdevData : GoMap Bytes Bytes → Except String Data

/-- An error returned by package `udev`. -/
def liftUdev {Data : Type} : Except String Data → Except GoError Data
  | .ok d => .ok d
  | .error e => .error (.external e)

theorem liftUdev_ne_errNonDeviceEvent {Data : Type} (r : Except String Data) :
    liftUdev r ≠ .error .errNonDeviceEvent := by
  cases r <;> simp [liftUdev]

/-- The bytes of a string printed by `%s`, one character per byte. -/
def showBytes (b : Bytes) : String := String.mk (b.map fun c => Char.ofNat c.toNat)

variable {Data : Type} (udev : Udev Data)

/-- `parseUdevData`. The source's last error names an undeclared `action`; it is read as the
    `ACTION` value that the `switch` tests. -/
def parseUdevData (buf : Bytes) : Except GoError Data := do
  let eventMap ← parse buf
  if eventMap.get (ascii "SUBSYSTEM") = ascii "block" then throw .errNonDeviceEvent
  let action := eventMap.get (ascii "ACTION")
  if action = Action.add ∨ action = Action.change then
    let major ← atoi (eventMap.get (ascii "MAJOR"))
    let minor ← atoi (eventMap.get (ascii "MINOR"))
    liftUdev (udev.readRunUdevData major minor)
  else if action = Action.remove then liftUdev (udev.eventMapToUdevData eventMap)
  else throw (.text ("invalid device action: " ++ showBytes action))

/-- `getNextDeviceUEvent` on the datagrams still to arrive: the first decoded event or the first
    error other than `errNonDeviceEvent`, with the datagrams after it; `none` when it is still
    reading after the last datagram. -/
def getNextDeviceUEvent : List Bytes → Option (Except GoError Data × List Bytes)
  | [] => none
  | buf :: bufs =>
    match parseUdevData udev buf with
    | .error err => if err = .errNonDeviceEvent then getNextDeviceUEvent bufs else some (.error err, bufs)
    | .ok d => some (.ok d, bufs)

theorem getNextDeviceUEvent_length {bufs rest : List Bytes} {r : Except GoError Data}
    (h : getNextDeviceUEvent udev bufs = some (r, rest)) : rest.length < bufs.length := by
  induction bufs with
  | nil => cases h
  | cons buf bufs ih =>
    simp only [getNextDeviceUEvent] at h
    split at h
    · split at h
      · exact Nat.lt_succ_of_lt (ih h)
      · cases h; exact Nat.lt_succ_self _
    · cases h; exact Nat.lt_succ_self _

/-- The datagrams left after a read are the last ones of those before it. -/
theorem getNextDeviceUEvent_suffix {bufs rest : List Bytes} {r : Except GoError Data}
    (h : getNextDeviceUEvent udev bufs = some (r, rest)) : rest <:+ bufs := by
  induction bufs with
  | nil => cases h
  | cons buf bufs ih =>
    simp only [getNextDeviceUEvent] at h
    split at h
    · split at h
      · exact (ih h).trans (List.suffix_cons _ _)
      · cases h; exact List.suffix_cons _ _
    · cases h; exact List.suffix_cons _ _

/-- The loop of `Run`: the events pushed onto the queue in order, and the error it returns, or
    `none` when it is still reading after the last datagram. -/
def run (bufs : List Bytes) : List Data × Option GoError :=
  match _hnext : getNextDeviceUEvent udev bufs with
  | none => ([], none)
  | some (.error err, _) => ([], some err)
  | some (.ok event, rest) =>
    let r := run rest
    (event :: r.1, r.2)
termination_by bufs.length
decreasing_by exact getNextDeviceUEvent_length udev _hnext

/-! ### What `Run` does with each datagram -/

/-- The unfolding of `run` through `getNextDeviceUEvent`. -/
theorem run_eq (bufs : List Bytes) :
    run udev bufs =
      match getNextDeviceUEvent udev bufs with
      | none => ([], none)
      | some (.error err, _) => ([], some err)
      | some (.ok event, rest) => (event :: (run udev rest).1, (run udev rest).2) := by
  rw [run]
  split <;> rename_i h <;> simp only [h]

/-- `Run` on no datagrams pushes nothing and keeps reading. -/
theorem run_nil : run udev [] = ([], none) := by
  rw [run_eq]; rfl

/-- One datagram: skipped on `errNonDeviceEvent`, pushed when decoded, and ending the loop with
    any other error. -/
theorem run_cons (buf : Bytes) (bufs : List Bytes) :
    run udev (buf :: bufs) =
      match parseUdevData udev buf with
      | .error err => if err = .errNonDeviceEvent then run udev bufs else ([], some err)
      | .ok event => (event :: (run udev bufs).1, (run udev bufs).2) := by
  rw [run_eq, getNextDeviceUEvent]
  cases parseUdevData udev buf with
  | error err =>
    by_cases he : err = .errNonDeviceEvent
    · simp only [he, if_true]; rw [run_eq]
    · simp [he]
  | ok event => rfl

/-- `parseUdevData` answers `errNonDeviceEvent` exactly on the parsed events of subsystem
    `block`. -/
theorem parseUdevData_eq_errNonDeviceEvent_iff (buf : Bytes) :
    parseUdevData udev buf = .error .errNonDeviceEvent ↔
      ∃ eventMap, parse buf = .ok eventMap ∧ eventMap.get (ascii "SUBSYSTEM") = ascii "block" := by
  unfold parseUdevData
  cases hp : parse buf with
  | error err =>
    simp only [bind, Except.bind, Except.error.injEq, reduceCtorEq, false_and, exists_false,
      iff_false]
    rintro rfl
    exact parse_ne_errNonDeviceEvent buf hp
  | ok eventMap =>
    simp only [bind, Except.bind, throw, throwThe, MonadExceptOf.throw, Except.ok.injEq,
      exists_eq_left']
    constructor
    · intro h
      by_contra hblock
      rw [if_neg hblock] at h
      repeat' split at h
      all_goals simp_all [pure, Except.pure, liftUdev_ne_errNonDeviceEvent, atoi_ne_errNonDeviceEvent]
    · intro hblock
      rw [if_pos hblock]

/-- The kernel's `add` event for disk `sda` as a libudev monitor sends it: a 40-byte header whose
    byte 16 is the payload offset 40, then the event's properties. -/
def sdaAddDatagram : Bytes :=
  libudevMessage [40, 0, 0, 0] 40 (List.replicate 23 0)
    [(ascii "ACTION", ascii "add"), (ascii "DEVPATH", ascii "/devices/pci0000:00/block/sda"),
      (ascii "SUBSYSTEM", ascii "block"), (ascii "DEVNAME", ascii "sda"), (ascii "DEVTYPE", ascii "disk"),
      (ascii "MAJOR", ascii "8"), (ascii "MINOR", ascii "0")]

set_option maxRecDepth 4096 in
/-- The `add` event of disk `sda` decodes to a block-subsystem event map, and `Run` drops it:
    nothing is pushed and the loop goes on reading. -/
theorem run_drops_block_event :
    (∃ eventMap, parse sdaAddDatagram = .ok eventMap ∧
      eventMap.get (ascii "SUBSYSTEM") = ascii "block") ∧
    run udev [sdaAddDatagram] = ([], none) := by
  have hblock : ∃ eventMap, parse sdaAddDatagram = .ok eventMap ∧
      eventMap.get (ascii "SUBSYSTEM") = ascii "block" :=
    ⟨_, parse_of_header sdaAddDatagram rfl rfl 40 (by decide) (by decide) (by decide), rfl⟩
  refine ⟨hblock, ?_⟩
  rw [run_cons, (parseUdevData_eq_errNonDeviceEvent_iff udev _).2 hblock]
  simp [run_nil]

end DirectPV
