import DirectPV.Node.Update

/-! `driveEventHandler.Handle` of package `node` (`pkg/node/uevent.go`): what a device event leads
    to. `Handle` ignores loop devices and events it cannot turn into a device, fetches the node's
    drives for the device, and asks `findMatchingDrive` for the drive to reconcile; that method is
    still a stub answering `errNoMatchFound`. -/

namespace DirectPV

/-- What `Handle` goes on to do. -/
inductive HandleOutcome where
  /-- `return nil` with nothing done. -/
  | ignored
  /-- `d.add(ctx, device)`. -/
  | add (device : Device)
  /-- `d.update(ctx, device, drive)`. -/
  | update (device : Device) (drive : DirectCSIDrive)
  /-- `d.remove(ctx, device, drive)`. -/
  | remove (device : Device) (drive : DirectCSIDrive)
  /-- An error returned as it is. -/
  | error (err : GoError)

/-- The collaborators of `Handle` that are not in the sources. -/
structure HandleEnv where
  /-- `sys.LoopRegexp.MatchString(path.Base(devPath))`. -/
  isLoopDevice : String → Bool
  /-- `d.createDevice`. -/
  createDevice : GoMap String String → Except GoError Device
  /-- `client.GetDriveList` for the node and the device's name. -/
  getDriveList : Device → Except GoError (List DirectCSIDrive)
  /-- `uevent.Remove`. -/
  removeAction : String

/-- `findMatchingDrive`: the matching algorithm is still to be written. -/
def findMatchingDrive (_drives : List DirectCSIDrive) (_device : Device) :
    Except GoError DirectCSIDrive :=
  .error .errNoMatchFound

/-- `event[key]`: a missing key reads as `""`. -/
def eventValue (event : GoMap String String) (key : String) : String :=
  (event key).getD ""

/-- `Handle`. -/
def handle (h : HandleEnv) (event : GoMap String String) : HandleOutcome :=
  if h.isLoopDevice (eventValue event "DEVPATH") then .ignored
  else match h.createDevice event with
    | .error _ => .ignored
    | .ok device =>
      match h.getDriveList device with
      | .error err => .error err
      | .ok drives =>
        match findMatchingDrive drives device with
        | .error .errNoMatchFound =>
          if eventValue event "ACTION" = h.removeAction then .ignored else .add device
        | .ok drive =>
          if eventValue event "ACTION" = h.removeAction then .remove device drive
          else .update device drive
        | .error err => .error err

end DirectPV
