import DirectPV.Node.Sync
import DirectPV.Volume.Release

/-! A node's drive under its two writers, the reconciliations of the uevent handler and the
    executions of `remove`, interleaved on the store (`nodeRun`).

    A reconciliation writes back the drive `update` edited, or the drive `syncDrive` returns
    without an error, through the same conflict-checked `Update` as `remove`. Every run keeps
    `FreeCapacity = TotalCapacity - AllocatedCapacity` (`nodeRun_freeCapacity`), and releases alone
    keep `AllocatedCapacity` the capacity of the volumes the drive's finalizers name
    (`World.run_allocatedCapacity`), which `releaseVolume`'s `TotalCapacity - FreeCapacity` relies
    on. A shrinking `update` caps the allocation below that sum, and a release then takes it below
    zero. -/

namespace DirectPV

/-- The capacity fields as the data model reads them: `0 ≤ AllocatedCapacity ≤ TotalCapacity` as
    `int64`, and `FreeCapacity = TotalCapacity - AllocatedCapacity`. -/
structure CapacityInv (s : DirectCSIDriveStatus) : Prop where
  allocated_nonneg : 0 ≤ s.allocatedCapacity.toInt
  allocated_le : s.allocatedCapacity.toInt ≤ s.totalCapacity.toInt
  free_eq : s.freeCapacity = s.totalCapacity - s.allocatedCapacity

/-- The capacity of the volumes whose finalizer is on the drive. -/
def heldCapacity (env : Env) : List DirectCSIVolume → List String → BitVec 64
  | [], _ => 0
  | v :: vs, finalizers =>
    (if driveFinalizer env v.name ∈ finalizers then v.status.totalCapacity else 0) +
      heldCapacity env vs finalizers

/-- A reconciliation of the node's drive against a device snapshot. -/
inductive Reconcile where
  | update (device : Device)
  | sync (d : DriveEventHandler) (device : Device)

/-- Modelled from the spec: the drive a reconciliation writes back, if any. `update` writes the
    drive it edited when it set `updated`; the caller of `syncDrive`, not in the sources, writes
    the drive it returns without an error. -/
def Reconcile.write (env : Env) (drive : DirectCSIDrive) : Reconcile → Option DirectCSIDrive
  | .update device =>
    if (DirectPV.update env device drive).updated then some (DirectPV.update env device drive).drive
    else none
  | .sync d device =>
    if (syncDrive d env device drive).2 = none then some (syncDrive d env device drive).1 else none

/-- What can happen next on the node: a reconciliation of the stored drive, whose `Update` fails
    when `ok = false`, or an action of the executions of `remove`. -/
inductive NodeAction where
  | reconcile (r : Reconcile) (ok : Bool)
  | release (a : ReleaseAction)

/-- One action; a reconciliation that writes nothing, or whose `Update` fails, changes nothing. -/
def NodeAction.step (env : Env) (w : World) : NodeAction → World
  | .reconcile r ok =>
    match r.write env w.store.drive with
    | some drive =>
      match w.store.updateDrive drive ok with
      | .ok store => { w with store }
      | .error _ => w
    | none => w
  | .release a => w.step env a

/-- A run of the node: the actions in order. -/
def nodeRun (env : Env) (w : World) (actions : List NodeAction) : World :=
  actions.foldl (NodeAction.step env) w

theorem nodeRun_cons (env : Env) (w : World) (a : NodeAction) (actions : List NodeAction) :
    nodeRun env w (a :: actions) = nodeRun env (a.step env w) actions := rfl

/-- A run of releases alone is a run of `remove`'s world. -/
theorem nodeRun_release (env : Env) (w : World) (actions : List ReleaseAction) :
    nodeRun env w (actions.map .release) = World.run env w actions :=
  List.foldl_map _ _ _ _

/-! ### `FreeCapacity = TotalCapacity - AllocatedCapacity` -/

theorem releaseDrive_freeCapacity (env : Env) (drive : DirectCSIDrive) (finalizers : List String)
    (capacity : BitVec 64) :
    let s := (releaseDrive env drive finalizers capacity).status
    s.freeCapacity = s.totalCapacity - s.allocatedCapacity :=
  (sub_sub_cancel _ _).symm

/-- A store call of `remove` leaves the drive as it is, or writes `releaseVolume`'s edit of the
    execution's copy. -/
theorem Execution.step_drive_or_release (env : Env) (store : Store) (e : Execution) (ok : Bool) :
    (e.step env store ok).1.drive = store.drive ∨
      ∃ finalizers, (e.step env store ok).1.drive =
        { releaseDrive env e.drive finalizers e.volume.status.totalCapacity with
          resourceVersion := e.drive.resourceVersion + 1 } := by
  by_cases hpc : e.pc = .updateDrive
  · simp only [Execution.step, hpc]
    split_ifs
    · split
      · rename_i hw
        exact .inr ⟨_, by rw [(Store.updateDrive_eq_ok hw).2]; rfl⟩
      · exact .inl rfl
    · exact .inl rfl
  · exact .inl (Execution.step_drive env store ok hpc)

/-- A reconciliation writes back a drive with the equation when it read one. -/
theorem Reconcile.write_freeCapacity (env : Env) {drive drive' : DirectCSIDrive}
    (h : drive.status.freeCapacity = drive.status.totalCapacity - drive.status.allocatedCapacity)
    (r : Reconcile) (hw : r.write env drive = some drive') :
    drive'.status.freeCapacity = drive'.status.totalCapacity - drive'.status.allocatedCapacity := by
  cases r with
  | update device =>
    simp only [Reconcile.write, Option.ite_none_right_eq_some, Option.some.injEq] at hw
    obtain ⟨-, rfl⟩ := hw
    obtain ⟨hT, hA, hF⟩ := update_capacity env device drive
    rw [hF, hA, hT]
    split_ifs with hr
    · rfl
    · rw [h, not_not.1 hr]
  | sync d device =>
    simp only [Reconcile.write, Option.ite_none_right_eq_some, Option.some.injEq] at hw
    obtain ⟨-, rfl⟩ := hw
    exact (syncDriveStates_capacity d env device drive).2.2

/-- Every action keeps the equation on the stored drive. -/
theorem NodeAction.step_freeCapacity (env : Env) {w : World}
    (h : w.store.drive.status.freeCapacity =
      w.store.drive.status.totalCapacity - w.store.drive.status.allocatedCapacity)
    (a : NodeAction) :
    let s := (a.step env w).store.drive.status
    s.freeCapacity = s.totalCapacity - s.allocatedCapacity := by
  cases a with
  | reconcile r ok =>
    simp only [NodeAction.step]
    split
    · rename_i drive hd
      split
      · rename_i hw
        rw [(Store.updateDrive_eq_ok hw).2]
        exact (Reconcile.write_freeCapacity env h r hd :)
      · exact h
    · exact h
  | release a =>
    cases a with
    | remove => simp only [NodeAction.step, World.step]; split <;> exact h
    | step i ok =>
      simp only [NodeAction.step, World.step]
      split
      · rcases Execution.step_drive_or_release env w.store _ ok with hd | ⟨_, hd⟩ <;> rw [hd]
        · exact h
        · exact releaseDrive_freeCapacity ..
      · exact h

/-- Every run keeps `FreeCapacity = TotalCapacity - AllocatedCapacity` on the stored drive. -/
theorem nodeRun_freeCapacity (env : Env) {w : World}
    (h : w.store.drive.status.freeCapacity =
      w.store.drive.status.totalCapacity - w.store.drive.status.allocatedCapacity)
    (actions : List NodeAction) :
    let s := (nodeRun env w actions).store.drive.status
    s.freeCapacity = s.totalCapacity - s.allocatedCapacity := by
  induction actions generalizing w with
  | nil => exact h
  | cons a as ih => exact ih (NodeAction.step_freeCapacity env h a)

/-! ### The allocation against the volumes on the drive -/

theorem heldCapacity_add_releasedCapacity (env : Env) (volumes : List DirectCSIVolume)
    (finalizers : List String) :
    heldCapacity env volumes finalizers + releasedCapacity env volumes finalizers =
      (volumes.map (·.status.totalCapacity)).sum := by
  induction volumes with
  | nil => rfl
  | cons v vs ih =>
    rw [heldCapacity, releasedCapacity, List.map_cons, List.sum_cons, ← ih,
      add_add_add_comm]
    split_ifs <;> simp

/-- Releases alone keep the allocation at the capacity of the volumes whose finalizer is on the
    drive, once it starts there. -/
theorem World.run_allocatedCapacity (env : Env) (initial : DirectCSIDrive)
    (volumes : List DirectCSIVolume) (hnames : (volumes.map (·.name)).Nodup)
    (hheld : ∀ v ∈ volumes, driveFinalizer env v.name ∈ initial.finalizers)
    (hfree : initial.status.freeCapacity =
      initial.status.totalCapacity - initial.status.allocatedCapacity)
    (hsum : initial.status.allocatedCapacity = heldCapacity env volumes initial.finalizers)
    (actions : List ReleaseAction) :
    let drive := (World.run env (initialWorld initial volumes) actions).store.drive
    drive.status.allocatedCapacity = heldCapacity env volumes drive.finalizers := by
  have hs := (World.run_inv hnames
    (initialWorld_inv hnames hheld (by rw [hfree, sub_sub_cancel])) actions).store
  have hall := heldCapacity_add_releasedCapacity env volumes initial.finalizers
  rw [releasedCapacity_of_forall_mem env volumes _ hheld, add_zero, ← hsum] at hall
  intro drive
  calc drive.status.allocatedCapacity
      = initial.status.totalCapacity - initial.status.freeCapacity -
          releasedCapacity env volumes drive.finalizers := by
        rw [hs.allocatedCapacity, hs.totalCapacity, hs.freeCapacity, sub_add_eq_sub_sub]
    _ = heldCapacity env volumes drive.finalizers := by
        rw [hfree, sub_sub_cancel, hall, ← heldCapacity_add_releasedCapacity env volumes,
          add_sub_cancel_right]

/-! ### A shrinking reconciliation -/

/-- A reconciliation by `update` that writes, with its `Update` going through: the stored drive
    becomes the one `update` edited, at the next version. -/
theorem NodeAction.step_update (env : Env) (w : World) (device : Device)
    (h : (update env device w.store.drive).updated = true) :
    NodeAction.step env w (.reconcile (.update device) true) =
      { w with
        store := { w.store with
          drive := { (update env device w.store.drive).drive with
            resourceVersion := w.store.drive.resourceVersion + 1 } } } := by
  simp [NodeAction.step, Reconcile.write, h, Store.updateDrive,
    (update_metadata env device w.store.drive).2.1]

/-- `update` writing the drive before `remove` releases a volume alone: the allocation ends at the
    device's size less the free capacity `update` left and the volume's capacity. -/
theorem nodeRun_update_then_remove (env : Env) (w : World) (device : Device)
    (volume : DirectCSIVolume) (hup : (update env device w.store.drive).updated = true)
    (hstored : w.store.volumes volume.name = some volume)
    (hdeleted : volume.deletionTimestamp ≠ none) (hunpublished : volume.isPublished = false)
    (hdrive : volume.status.drive = w.store.drive.name)
    (hheld : driveFinalizer env volume.name ∈ w.store.drive.finalizers) (i : Nat)
    (hi : w.executions.length = i) :
    (nodeRun env w (.reconcile (.update device) true ::
        (ReleaseAction.remove volume.name :: List.replicate 5 (.step i true)).map
          .release)).store.drive.status.allocatedCapacity =
      device.size - ((update env device w.store.drive).drive.status.freeCapacity +
        volume.status.totalCapacity) := by
  subst hi
  obtain ⟨hname, -, hfin⟩ := update_metadata env device w.store.drive
  rw [nodeRun_cons, NodeAction.step_update env w device hup, nodeRun_release]
  refine (congrArg (·.status.allocatedCapacity)
    (World.run_remove_alone env _ volume ?_ hdeleted hunpublished ?_ ?_ _ rfl)).trans ?_
  · exact hstored
  · exact hdrive.trans hname.symm
  · exact hfin.symm ▸ hheld
  · exact congrArg (· - _) (update_capacity env device w.store.drive).1

/-- A drive of 100 holding volumes of 50 and 30, shrunk to 30 by `update` before `remove` releases
    the volume of 50: the allocation ends at `-20`, where releases alone leave it at 30. -/
theorem shrink_then_remove_goes_negative :
    let v1 : DirectCSIVolume :=
      { name := "v1", deletionTimestamp := some 1, status := { drive := "d", totalCapacity := 50 } }
    let v2 : DirectCSIVolume := { name := "v2", status := { drive := "d", totalCapacity := 30 } }
    let drive : DirectCSIDrive :=
      { name := "d", finalizers := ["drive/v1", "drive/v2"],
        status :=
          { driveStatus := .inUse, totalCapacity := 100, allocatedCapacity := 80,
            freeCapacity := 20 } }
    let device : Device := { size := 30 }
    let release := (ReleaseAction.remove v1.name :: List.replicate 5 (.step 0 true)).map .release
    let s := (nodeRun sampleEnv (initialWorld drive [v1, v2])
      (.reconcile (.update device) true :: release)).store.drive.status
    let d := (nodeRun sampleEnv (initialWorld drive [v1, v2]) release).store.drive
    (CapacityInv drive.status ∧
      drive.status.allocatedCapacity = heldCapacity sampleEnv [v1, v2] drive.finalizers ∧
      0 ≤ device.size.toInt ∧ device.freeCapacity ≤ device.size) ∧
    s.freeCapacity = s.totalCapacity - s.allocatedCapacity ∧ s.allocatedCapacity.toInt = -20 ∧
    d.status.allocatedCapacity = heldCapacity sampleEnv [v1, v2] d.finalizers ∧
      d.status.allocatedCapacity = 30 := by
  intro v1 v2 drive device
  dsimp only
  have hup : (update sampleEnv device drive).updated = true :=
    update_updated_of_not_synced fun h => absurd h.totalCapacity (by decide)
  refine ⟨⟨⟨by decide, by decide, by decide⟩, by decide, by decide, by decide⟩,
    nodeRun_freeCapacity sampleEnv (by decide) _, ?_, ?_, ?_⟩
  · rw [nodeRun_update_then_remove sampleEnv (initialWorld drive [v1, v2]) device v1 hup
      (by decide) (by decide) (by decide) rfl (by decide) 0 rfl,
      (update_capacity sampleEnv device (initialWorld drive [v1, v2]).store.drive).2.2]
    decide
  · rw [nodeRun_release]
    exact World.run_allocatedCapacity sampleEnv drive [v1, v2] (by decide) (by decide) (by decide)
      (by decide) _
  · rw [nodeRun_release, World.run_remove_alone sampleEnv (initialWorld drive [v1, v2]) v1
      (by decide) (by decide) (by decide) rfl (by decide) 0 rfl]
    decide

end DirectPV
