import Mathlib.Data.List.Nodup
import DirectPV.Types

/-! `VolumeEventHandler.remove` and `releaseVolume` of package `volume`, run by any number of
    workers against the cluster store.

    The store's `Update` refuses a write computed from a stale read (`resourceVersion`), and an
    accepted write gets the next version. An execution of `remove` is a program counter over its
    store calls, any of which may fail and end it; the controller may start another for the same
    volume at any time, and a run is any interleaving of such steps (`World.run`).

    Over every run, the drive's free capacity is its initial value plus the capacity of exactly
    the volumes whose finalizer is off the drive (`releasedCapacity`), and a volume's
    purge-protection finalizer is cleared only once its drive finalizer is gone. Run alone,
    `remove` does release a volume marked for deletion (`World.run_remove_alone`). -/

namespace DirectPV

/-- `excludeFinalizer`: the finalizers other than `finalizer`, and whether it was there. -/
def excludeFinalizer (finalizers : List String) (finalizer : String) : List String × Bool :=
  finalizers.foldl (fun acc f => if f ≠ finalizer then (acc.1 ++ [f], acc.2) else (acc.1, true))
    ([], false)

theorem foldl_excludeFinalizer (finalizers : List String) (finalizer : String)
    (acc : List String × Bool) :
    finalizers.foldl (fun acc f => if f ≠ finalizer then (acc.1 ++ [f], acc.2) else (acc.1, true))
        acc =
      (acc.1 ++ finalizers.filter (· ≠ finalizer), acc.2 || decide (finalizer ∈ finalizers)) := by
  induction finalizers generalizing acc with
  | nil => simp
  | cons f fs ih =>
    rw [List.foldl_cons, ih]
    by_cases h : f = finalizer
    · subst h; simp
    · simp [h, Ne.symm h]

theorem excludeFinalizer_eq (finalizers : List String) (finalizer : String) :
    excludeFinalizer finalizers finalizer =
      (finalizers.filter (· ≠ finalizer), decide (finalizer ∈ finalizers)) := by
  rw [excludeFinalizer, foldl_excludeFinalizer]; simp

/-- `DirectCSIDriveFinalizerPrefix+volumeName`: the finalizer a volume holds on its drive. -/
def driveFinalizer (env : Env) (volumeName : String) : String :=
  env.driveFinalizerPrefix ++ volumeName

theorem driveFinalizer_inj {env : Env} {a b : String} :
    driveFinalizer env a = driveFinalizer env b ↔ a = b :=
  ⟨fun h => String.ext (List.append_cancel_left (congrArg String.data h)), congrArg _⟩

/-- The edit `releaseVolume` makes to its copy of the drive once the volume's finalizer is found:
    the remaining finalizers, `Ready` when only data protection is left, the capacity credited. -/
def releaseDrive (env : Env) (drive : DirectCSIDrive) (finalizers : List String)
    (capacity : BitVec 64) : DirectCSIDrive :=
  let driveStatus := match finalizers with
    | [f] => if f = env.driveFinalizerDataProtection then .ready else drive.status.driveStatus
    | _ => drive.status.driveStatus
  let freeCapacity := drive.status.freeCapacity + capacity
  { drive with
    finalizers
    status := { drive.status with
      driveStatus
      freeCapacity
      allocatedCapacity := drive.status.totalCapacity - freeCapacity } }

/-! ### The store -/

/-- The objects of the cluster store that `remove` reads and writes. -/
structure Store where
  drive : DirectCSIDrive
  volumes : GoMap String DirectCSIVolume

/-- `Update` of the drive: a conflict unless computed from the stored version; `ok = false` is any
    other failure. -/
def Store.updateDrive (store : Store) (drive : DirectCSIDrive) (ok : Bool) :
    Except GoError Store :=
  if drive.resourceVersion ≠ store.drive.resourceVersion then .error (.conflict drive.name)
  else if ok then .ok { store with drive := { drive with resourceVersion := drive.resourceVersion + 1 } }
  else .error (.external "Update")

/-- `Update` of a volume, likewise. -/
def Store.updateVolume (store : Store) (volume : DirectCSIVolume) (ok : Bool) :
    Except GoError Store :=
  match store.volumes volume.name with
  | none => .error (.notFound volume.name)
  | some stored =>
    if volume.resourceVersion ≠ stored.resourceVersion then .error (.conflict volume.name)
    else if ok then
      .ok { store with
        volumes := store.volumes.insert volume.name
          { volume with resourceVersion := volume.resourceVersion + 1 } }
    else .error (.external "Update")

/-! ### Executions of `remove` -/

/-- The store call an execution of `remove` makes next. -/
inductive Pc where
  | start
  | removeAll
  | getDrive
  | updateDrive
  | updateVolume
  | done
  deriving DecidableEq, Repr

/-- An execution of `remove`: the volume it was called with, its copy of the drive once read, and
    the error it returned once done. -/
structure Execution where
  volume : DirectCSIVolume
  drive : DirectCSIDrive
  pc : Pc
  err : Option GoError := none

/-- One store call of an execution; `ok = false` makes a `RemoveAll`, `Get` or `Update` fail. -/
def Execution.step (env : Env) (store : Store) (e : Execution) (ok : Bool) : Store × Execution :=
  let finish (err : Option GoError) : Execution := { e with pc := .done, err }
  match e.pc with
  | .start =>
    if e.volume.deletionTimestamp = none then (store, finish none)
    else if e.volume.isPublished then
      (store, finish (some (.text "waiting for volume to be released before cleaning up")))
    else (store, { e with pc := .removeAll })
  | .removeAll =>
    if ok then (store, { e with pc := .getDrive }) else (store, finish (some (.external "RemoveAll")))
  | .getDrive =>
    if e.volume.status.drive ≠ store.drive.name then
      (store, finish (some (.notFound e.volume.status.drive)))
    else if ok then (store, { e with drive := store.drive, pc := .updateDrive })
    else (store, finish (some (.external "Get")))
  | .updateDrive =>
    let (finalizers, found) := excludeFinalizer e.drive.finalizers (driveFinalizer env e.volume.name)
    if found then
      match store.updateDrive (releaseDrive env e.drive finalizers e.volume.status.totalCapacity) ok with
      | .ok store' => (store', { e with pc := .updateVolume })
      | .error err => (store, finish (some err))
    else (store, { e with pc := .updateVolume })
  | .updateVolume =>
    let finalizers := (excludeFinalizer e.volume.finalizers env.volumeFinalizerPurgeProtection).1
    match store.updateVolume { e.volume with finalizers } ok with
    | .ok store' => (store', finish none)
    | .error err => (store, finish (some err))
  | .done => (store, e)

/-- The store and the executions of `remove` started so far. -/
structure World where
  store : Store
  executions : List Execution

/-- What can happen next: the controller calls `remove` with the stored volume `volumeName`, or
    execution `i` makes its next store call. -/
inductive ReleaseAction where
  | remove (volumeName : String)
  | step (i : Nat) (ok : Bool)

/-- One action. -/
def World.step (env : Env) (w : World) : ReleaseAction → World
  | .remove volumeName =>
    match w.store.volumes volumeName with
    | some volume => { w with executions := w.executions ++ [⟨volume, w.store.drive, .start, none⟩] }
    | none => w
  | .step i ok =>
    match w.executions[i]? with
    | some e =>
      let r := e.step env w.store ok
      ⟨r.1, w.executions.set i r.2⟩
    | none => w

/-- A run: the actions in order. -/
def World.run (env : Env) (w : World) (actions : List ReleaseAction) : World :=
  actions.foldl (World.step env) w

/-! ### Released capacity -/

/-- The capacity of the volumes whose finalizer is off the drive, each volume counted once. -/
def releasedCapacity (env : Env) : List DirectCSIVolume → List String → BitVec 64
  | [], _ => 0
  | v :: vs, finalizers =>
    (if driveFinalizer env v.name ∈ finalizers then 0 else v.status.totalCapacity) +
      releasedCapacity env vs finalizers

theorem releasedCapacity_congr (env : Env) (volumes : List DirectCSIVolume)
    (finalizers finalizers' : List String)
    (h : ∀ v ∈ volumes, driveFinalizer env v.name ∈ finalizers ↔
      driveFinalizer env v.name ∈ finalizers') :
    releasedCapacity env volumes finalizers = releasedCapacity env volumes finalizers' := by
  induction volumes with
  | nil => rfl
  | cons v vs ih =>
    simp only [releasedCapacity, h v (List.mem_cons_self _ _),
      ih fun u hu => h u (List.mem_cons_of_mem _ hu)]

/-- Every volume still holds its finalizer: nothing is released. -/
theorem releasedCapacity_of_forall_mem (env : Env) (volumes : List DirectCSIVolume)
    (finalizers : List String) (h : ∀ v ∈ volumes, driveFinalizer env v.name ∈ finalizers) :
    releasedCapacity env volumes finalizers = 0 := by
  induction volumes with
  | nil => rfl
  | cons v vs ih =>
    rw [releasedCapacity, if_pos (h v (List.mem_cons_self _ _)),
      ih fun u hu => h u (List.mem_cons_of_mem _ hu)]
    exact add_zero 0

/-- Taking one volume's finalizer off the drive releases exactly that volume's capacity. -/
theorem releasedCapacity_filter (env : Env) (volumes : List DirectCSIVolume)
    (hnames : (volumes.map (·.name)).Nodup) {v : DirectCSIVolume} (hv : v ∈ volumes)
    {finalizers : List String} (hf : driveFinalizer env v.name ∈ finalizers) :
    releasedCapacity env volumes (finalizers.filter (· ≠ driveFinalizer env v.name)) =
      releasedCapacity env volumes finalizers + v.status.totalCapacity := by
  induction volumes with
  | nil => cases hv
  | cons u us ih =>
    rw [List.map_cons, List.nodup_cons] at hnames
    have hmem : ∀ w ∈ us, w.name ≠ u.name := fun w hw h =>
      hnames.1 (h ▸ List.mem_map_of_mem (·.name) hw)
    simp only [releasedCapacity, List.mem_filter, decide_eq_true_eq]
    rcases List.mem_cons.1 hv with rfl | hv
    · rw [releasedCapacity_congr env us _ finalizers fun w hw => by
        simp [driveFinalizer_inj, hmem w hw]]
      simp [hf, BitVec.add_comm]
    · have hne : driveFinalizer env u.name ≠ driveFinalizer env v.name :=
        fun h => hmem v hv (driveFinalizer_inj.1 h).symm
      have hl := ih hnames.2 hv
      simp only [List.mem_filter, decide_eq_true_eq] at hl
      simp only [ne_eq, hne, not_false_eq_true, and_true, hl, add_assoc]

/-! ### Store calls -/

theorem Store.updateDrive_eq_ok {store store' : Store} {drive : DirectCSIDrive} {ok : Bool}
    (h : store.updateDrive drive ok = .ok store') :
    drive.resourceVersion = store.drive.resourceVersion ∧
      store' = { store with drive := { drive with resourceVersion := drive.resourceVersion + 1 } } := by
  unfold Store.updateDrive at h
  split_ifs at h with hv hok
  cases h
  exact ⟨not_not.1 hv, rfl⟩

theorem Store.updateVolume_eq_ok {store store' : Store} {volume : DirectCSIVolume} {ok : Bool}
    (h : store.updateVolume volume ok = .ok store') :
    ∃ stored, store.volumes volume.name = some stored ∧
      volume.resourceVersion = stored.resourceVersion ∧
      store' = { store with
        volumes := store.volumes.insert volume.name
          { volume with resourceVersion := volume.resourceVersion + 1 } } := by
  unfold Store.updateVolume at h
  split at h
  · cases h
  · rename_i stored hs
    split_ifs at h with hv hok
    cases h
    exact ⟨stored, hs, not_not.1 hv, rfl⟩

/-- `Update` of a volume leaves the drive. -/
theorem Store.updateVolume_drive {store store' : Store} {volume : DirectCSIVolume} {ok : Bool}
    (h : store.updateVolume volume ok = .ok store') : store'.drive = store.drive := by
  obtain ⟨_, _, _, rfl⟩ := Store.updateVolume_eq_ok h
  rfl

/-- A call of an execution of `remove` other than `Update` of the drive leaves the drive. -/
theorem Execution.step_drive (env : Env) (store : Store) {e : Execution} (ok : Bool)
    (hpc : e.pc ≠ .updateDrive) : (e.step env store ok).1.drive = store.drive := by
  obtain ⟨volume, drive, pc, err⟩ := e
  cases pc <;> simp only [Execution.step] <;> repeat' split
  all_goals first | rfl | exact Store.updateVolume_drive ‹_› | exact absurd rfl hpc

/-- A store call leaves each object as it is or writes a newer version of it, and only takes
    finalizers off the drive. -/
structure Store.Evolves (store store' : Store) : Prop where
  drive : store'.drive = store.drive ∨
    store.drive.resourceVersion < store'.drive.resourceVersion
  finalizers : ∀ f ∈ store'.drive.finalizers, f ∈ store.drive.finalizers
  volumes : ∀ n s', store'.volumes n = some s' →
    ∃ s, store.volumes n = some s ∧ (s' = s ∨ s.resourceVersion < s'.resourceVersion)

theorem Store.Evolves.refl (store : Store) : store.Evolves store :=
  ⟨.inl rfl, fun _ h => h, fun _ s h => ⟨s, h, .inl rfl⟩⟩

/-! ### Invariants -/

section Invariants

variable (env : Env) (volumes : List DirectCSIVolume) (initial : DirectCSIDrive)

/-- What holds of the store along every run: the drive's capacities against its initial ones, the
    volumes' records, and the order in which a volume's finalizers go. -/
structure StoreInv (store : Store) : Prop where
  totalCapacity : store.drive.status.totalCapacity = initial.status.totalCapacity
  freeCapacity : store.drive.status.freeCapacity =
    initial.status.freeCapacity + releasedCapacity env volumes store.drive.finalizers
  allocatedCapacity : store.drive.status.allocatedCapacity =
    store.drive.status.totalCapacity - store.drive.status.freeCapacity
  stored : ∀ n s, store.volumes n = some s → s.name = n ∧ ∃ v ∈ volumes, v.name = n ∧ s.status = v.status
  purge : ∀ v ∈ volumes, ∀ s, store.volumes v.name = some s →
    env.volumeFinalizerPurgeProtection ∈ v.finalizers →
    env.volumeFinalizerPurgeProtection ∉ s.finalizers →
    driveFinalizer env v.name ∉ store.drive.finalizers
  published : ∀ v ∈ volumes, v.isPublished = true →
    store.volumes v.name = some v ∧ driveFinalizer env v.name ∈ store.drive.finalizers

/-- What holds of an execution of `remove`: its volume is a version of one of `volumes`, its copy
    of the drive is the stored one if it has the stored version, and once past the drive it has
    taken the volume's finalizer off. -/
structure ExecutionInv (store : Store) (e : Execution) : Prop where
  volume : ∃ v ∈ volumes, e.volume.name = v.name ∧ e.volume.status = v.status
  volumeVersion : ∀ s, store.volumes e.volume.name = some s →
    e.volume.resourceVersion ≤ s.resourceVersion ∧
      (e.volume.resourceVersion = s.resourceVersion → e.volume = s)
  driveCopy : e.pc = .updateDrive →
    e.drive.resourceVersion ≤ store.drive.resourceVersion ∧
      (e.drive.resourceVersion = store.drive.resourceVersion → e.drive = store.drive) ∧
      ∀ f ∈ store.drive.finalizers, f ∈ e.drive.finalizers
  released : e.pc = .updateVolume → driveFinalizer env e.volume.name ∉ store.drive.finalizers
  unpublished : e.pc ≠ .start → e.pc ≠ .done → e.volume.isPublished = false

/-- The facts of a world: the store's, and every execution's. -/
structure WorldInv (w : World) : Prop where
  store : StoreInv env volumes initial w.store
  executions : ∀ e ∈ w.executions, ExecutionInv env volumes w.store e

variable {env volumes}

/-- An execution past its first step and not yet done holds an unpublished volume. -/
theorem ExecutionInv.unpublished_of_pc {store : Store} {e : Execution} {pc : Pc}
    (he : ExecutionInv env volumes store e) (hpc : e.pc = pc) (hstart : pc ≠ .start)
    (hdone : pc ≠ .done) : e.volume.isPublished = false :=
  he.unpublished (hpc ▸ hstart) (hpc ▸ hdone)

/-- An execution's facts survive the store calls of the others. -/
theorem ExecutionInv.evolve {store store' : Store} {e : Execution}
    (he : ExecutionInv env volumes store e) (h : store.Evolves store') :
    ExecutionInv env volumes store' e where
  volume := he.volume
  volumeVersion s' hs' := by
    obtain ⟨s, hs, rfl | hlt⟩ := h.volumes _ s' hs'
    · exact he.volumeVersion _ hs
    · have := (he.volumeVersion s hs).1
      exact ⟨by omega, fun heq => absurd heq (by omega)⟩
  driveCopy hpc := by
    obtain ⟨hle, heq, hfin⟩ := he.driveCopy hpc
    rcases h.drive with hd | hlt
    · rw [hd]; exact ⟨hle, heq, hfin⟩
    · exact ⟨by omega, fun h => absurd h (by omega), fun f hf => hfin f (h.finalizers f hf)⟩
  released hpc hf := he.released hpc (h.finalizers _ hf)
  unpublished := he.unpublished

variable {initial}

/-- Two volumes of the set with one published and the other not have different names. -/
theorem name_ne_of_isPublished (hnames : (volumes.map (·.name)).Nodup) {u v : DirectCSIVolume}
    (hu : u ∈ volumes) (hv : v ∈ volumes) (hpu : u.isPublished = true)
    (hpv : v.isPublished = false) : u.name ≠ v.name := fun h => by
  rw [List.inj_on_of_nodup_map hnames hu hv h, hpv] at hpu
  cases hpu

theorem ExecutionInv.twin {store : Store} {e : Execution} (he : ExecutionInv env volumes store e) :
    ∃ v ∈ volumes, e.volume.name = v.name ∧ e.volume.status.totalCapacity = v.status.totalCapacity ∧
      e.volume.isPublished = v.isPublished := by
  obtain ⟨v, hv, hname, hstatus⟩ := he.volume
  exact ⟨v, hv, hname, by rw [hstatus], by simp only [DirectCSIVolume.isPublished, hstatus]⟩

/-- The drive write of `releaseVolume`, made from the stored drive, keeps the store's facts: the
    volume's capacity is credited exactly as its finalizer goes. -/
theorem StoreInv.release (hnames : (volumes.map (·.name)).Nodup) {store : Store}
    (hs : StoreInv env volumes initial store) {v : DirectCSIVolume} (hv : v ∈ volumes)
    (hpv : v.isPublished = false) (hf : driveFinalizer env v.name ∈ store.drive.finalizers) :
    StoreInv env volumes initial { store with
      drive := { releaseDrive env store.drive
          (store.drive.finalizers.filter (· ≠ driveFinalizer env v.name)) v.status.totalCapacity with
        resourceVersion := store.drive.resourceVersion + 1 } } where
  totalCapacity := hs.totalCapacity
  freeCapacity := by
    dsimp only [releaseDrive]
    rw [hs.freeCapacity, releasedCapacity_filter env volumes hnames hv hf, add_assoc]
  allocatedCapacity := rfl
  stored := hs.stored
  purge u hu s hs' h1 h2 hfin := hs.purge u hu s hs' h1 h2 (List.mem_of_mem_filter hfin)
  published u hu hpu := by
    refine ⟨(hs.published u hu hpu).1, List.mem_filter.2 ⟨(hs.published u hu hpu).2, ?_⟩⟩
    simpa [driveFinalizer_inj] using name_ne_of_isPublished hnames hu hv hpu hpv

/-- The volume write of `remove`, made once the drive finalizer is gone, keeps the store's
    facts. -/
theorem StoreInv.clearPurge (hnames : (volumes.map (·.name)).Nodup) {store : Store}
    (hs : StoreInv env volumes initial store) {e : Execution}
    (he : ExecutionInv env volumes store e) (hpc : e.pc = .updateVolume)
    {volume : DirectCSIVolume} (hname : volume.name = e.volume.name)
    (hstatus : volume.status = e.volume.status) :
    StoreInv env volumes initial
      { store with volumes := store.volumes.insert e.volume.name volume } where
  totalCapacity := hs.totalCapacity
  freeCapacity := hs.freeCapacity
  allocatedCapacity := hs.allocatedCapacity
  stored n s' h := by
    dsimp only at h
    rw [GoMap.insert_apply] at h
    split_ifs at h with hn
    · cases h
      obtain ⟨v, hv, hvn, hvs⟩ := he.volume
      exact ⟨hname.trans hn.symm, v, hv, hvn ▸ hn.symm, hstatus.trans hvs⟩
    · exact hs.stored n s' h
  purge v hv s' h h1 h2 := by
    dsimp only at h
    rw [GoMap.insert_apply] at h
    split_ifs at h with hn
    · rw [hn]; exact he.released hpc
    · exact hs.purge v hv s' h h1 h2
  published u hu hpu := by
    obtain ⟨w, hw, hwn, -, hwp⟩ := he.twin
    have hne : u.name ≠ e.volume.name := hwn ▸ name_ne_of_isPublished hnames hu hw hpu
      (hwp ▸ he.unpublished_of_pc hpc nofun nofun)
    show store.volumes.insert e.volume.name volume u.name = some u ∧ _
    rw [GoMap.insert_apply, if_neg hne]
    exact hs.published u hu hpu

theorem ExecutionInv.finish {store : Store} {e : Execution}
    (he : ExecutionInv env volumes store e) (err : Option GoError) :
    ExecutionInv env volumes store { e with pc := .done, err } :=
  ⟨he.volume, he.volumeVersion, nofun, nofun, fun _ h => absurd rfl h⟩

/-- The drive write of `releaseVolume`, accepted because the copy has the stored version. -/
theorem ExecutionInv.releaseWrite (hnames : (volumes.map (·.name)).Nodup) {store : Store}
    {e : Execution} (hs : StoreInv env volumes initial store)
    (he : ExecutionInv env volumes store e) (hpc : e.pc = .updateDrive)
    (hfound : driveFinalizer env e.volume.name ∈ e.drive.finalizers)
    (hrv : e.drive.resourceVersion = store.drive.resourceVersion) :
    let store' := { store with
      drive := { releaseDrive env e.drive
          (e.drive.finalizers.filter (· ≠ driveFinalizer env e.volume.name))
          e.volume.status.totalCapacity with
        resourceVersion := e.drive.resourceVersion + 1 } }
    store.Evolves store' ∧ StoreInv env volumes initial store' ∧
      ExecutionInv env volumes store' { e with pc := .updateVolume } := by
  obtain ⟨v, hv, hname, hcap, hvpub⟩ := he.twin
  have hpv : v.isPublished = false :=
    hvpub ▸ he.unpublished_of_pc hpc nofun nofun
  have hd : e.drive = store.drive := (he.driveCopy hpc).2.1 hrv
  rw [hd, hname] at hfound
  rw [hd, hname, hcap]
  refine ⟨⟨.inr (Nat.lt_succ_self _), fun f h => List.mem_of_mem_filter h,
    fun _ s h => ⟨s, h, .inl rfl⟩⟩, hs.release hnames hv hpv hfound,
    he.volume, he.volumeVersion, nofun, fun _ h => ?_, fun _ _ => hvpub ▸ hpv⟩
  simp [releaseDrive, hname] at h

/-- The volume write of `remove`, accepted because the volume has the stored version. -/
theorem ExecutionInv.clearPurgeWrite (hnames : (volumes.map (·.name)).Nodup) {store : Store}
    {e : Execution} (hs : StoreInv env volumes initial store)
    (he : ExecutionInv env volumes store e) (hpc : e.pc = .updateVolume)
    {stored : DirectCSIVolume} (hstored : store.volumes e.volume.name = some stored)
    (hrv : e.volume.resourceVersion = stored.resourceVersion) (finalizers : List String) :
    let store' := { store with
      volumes := store.volumes.insert e.volume.name
        { e.volume with finalizers, resourceVersion := e.volume.resourceVersion + 1 } }
    store.Evolves store' ∧ StoreInv env volumes initial store' ∧
      ExecutionInv env volumes store' { e with pc := .done, err := none } := by
  refine ⟨⟨.inl rfl, fun _ h => h, fun n s' h => ?_⟩, hs.clearPurge hnames he hpc rfl rfl,
    he.volume, fun s' h => ?_, nofun, nofun, fun _ h => absurd rfl h⟩
  · dsimp only at h
    rw [GoMap.insert_apply] at h
    split_ifs at h with hn
    · cases h
      exact ⟨stored, hn ▸ hstored, .inr (hrv ▸ Nat.lt_succ_self _)⟩
    · exact ⟨s', h, .inl rfl⟩
  · dsimp only at h
    rw [GoMap.insert_apply, if_pos rfl] at h
    cases h
    exact ⟨Nat.le_succ _, fun h => absurd h (Nat.succ_ne_self _).symm⟩

/-- One store call of an execution: the store evolves, and the store's facts and the execution's
    hold after it. -/
theorem Execution.step_inv (hnames : (volumes.map (·.name)).Nodup) {store : Store}
    {e : Execution} (hs : StoreInv env volumes initial store)
    (he : ExecutionInv env volumes store e) (ok : Bool) :
    let r := e.step env store ok
    store.Evolves r.1 ∧ StoreInv env volumes initial r.1 ∧ ExecutionInv env volumes r.1 r.2 := by
  unfold Execution.step
  cases hpc : e.pc with
  | start =>
    simp only
    split_ifs with h1 h2
    · exact ⟨.refl _, hs, he.finish _⟩
    · exact ⟨.refl _, hs, he.finish _⟩
    · exact ⟨.refl _, hs, he.volume, he.volumeVersion, nofun, nofun, fun _ _ => by simpa using h2⟩
  | removeAll =>
    simp only
    split_ifs
    · exact ⟨.refl _, hs, he.volume, he.volumeVersion, nofun, nofun,
        fun _ _ => he.unpublished_of_pc hpc nofun nofun⟩
    · exact ⟨.refl _, hs, he.finish _⟩
  | getDrive =>
    simp only
    split_ifs
    · exact ⟨.refl _, hs, he.finish _⟩
    · exact ⟨.refl _, hs, he.volume, he.volumeVersion, fun _ => ⟨le_refl _, fun _ => rfl, fun _ h => h⟩,
        nofun, fun _ _ => he.unpublished_of_pc hpc nofun nofun⟩
    · exact ⟨.refl _, hs, he.finish _⟩
  | updateDrive =>
    simp only [excludeFinalizer_eq]
    split_ifs with hfound
    · split
      · rename_i store' hw
        obtain ⟨hrv, rfl⟩ := Store.updateDrive_eq_ok hw
        exact he.releaseWrite hnames hs hpc (by simpa using hfound) hrv
      · exact ⟨.refl _, hs, he.finish _⟩
    · exact ⟨.refl _, hs, he.volume, he.volumeVersion, nofun,
        fun _ h => hfound (by simpa using (he.driveCopy hpc).2.2 _ h),
        fun _ _ => he.unpublished_of_pc hpc nofun nofun⟩
  | updateVolume =>
    simp only
    split
    · rename_i store' hw
      obtain ⟨stored, hstored, hrv, rfl⟩ := Store.updateVolume_eq_ok hw
      exact he.clearPurgeWrite hnames hs hpc hstored hrv _
    · exact ⟨.refl _, hs, he.finish _⟩
  | done => exact ⟨.refl _, hs, he⟩

/-- Every action keeps the facts of the world. -/
theorem World.step_inv (hnames : (volumes.map (·.name)).Nodup) {w : World}
    (hw : WorldInv env volumes initial w) (a : ReleaseAction) :
    WorldInv env volumes initial (w.step env a) := by
  cases a with
  | remove volumeName =>
    simp only [World.step]
    split
    · rename_i volume hstored
      obtain ⟨hname, v, hv, hvn, hvs⟩ := hw.store.stored _ _ hstored
      refine ⟨hw.store, fun e he => ?_⟩
      rcases List.mem_append.1 he with he | he
      · exact hw.executions e he
      · rw [List.mem_singleton] at he
        subst he
        refine ⟨⟨v, hv, hname.trans hvn.symm, hvs⟩, fun s h => ?_, nofun, nofun,
          fun h _ => absurd rfl h⟩
        rw [hname, hstored] at h
        cases h
        exact ⟨le_refl _, fun _ => rfl⟩
    · exact hw
  | step i ok =>
    simp only [World.step]
    split
    · rename_i e he
      obtain ⟨hev, hs', he'⟩ :=
        Execution.step_inv hnames hw.store (hw.executions e (List.getElem?_mem he)) ok
      refine ⟨hs', fun e' h => ?_⟩
      rcases List.mem_or_eq_of_mem_set h with h | rfl
      · exact (hw.executions e' h).evolve hev
      · exact he'
    · exact hw

/-- Every run keeps the facts of the world. -/
theorem World.run_inv (hnames : (volumes.map (·.name)).Nodup) {w : World}
    (hw : WorldInv env volumes initial w) (actions : List ReleaseAction) :
    WorldInv env volumes initial (World.run env w actions) := by
  induction actions generalizing w with
  | nil => exact hw
  | cons a as ih => exact ih (World.step_inv hnames hw a)

end Invariants

/-! ### Releasing a set of volumes -/

/-- The store holding `initial` and `volumes`, before any execution. -/
def initialWorld (initial : DirectCSIDrive) (volumes : List DirectCSIVolume) : World :=
  ⟨⟨initial, fun n => volumes.find? (·.name = n)⟩, []⟩

theorem find?_name_eq {volumes : List DirectCSIVolume} (hnames : (volumes.map (·.name)).Nodup)
    {v : DirectCSIVolume} (hv : v ∈ volumes) : volumes.find? (·.name = v.name) = some v := by
  cases h : volumes.find? (·.name = v.name) with
  | none => exact absurd (List.find?_eq_none.1 h v hv) (by simp)
  | some u =>
    have hn : u.name = v.name := by simpa using List.find?_some h
    rw [List.inj_on_of_nodup_map hnames (List.mem_of_find?_eq_some h) hv hn]

theorem initialWorld_inv {env : Env} {volumes : List DirectCSIVolume} {initial : DirectCSIDrive}
    (hnames : (volumes.map (·.name)).Nodup)
    (hheld : ∀ v ∈ volumes, driveFinalizer env v.name ∈ initial.finalizers)
    (hcapacity : initial.status.allocatedCapacity =
      initial.status.totalCapacity - initial.status.freeCapacity) :
    WorldInv env volumes initial (initialWorld initial volumes) where
  store :=
    { totalCapacity := rfl
      freeCapacity := by
        show initial.status.freeCapacity = _ + releasedCapacity env volumes initial.finalizers
        rw [releasedCapacity_of_forall_mem env volumes _ hheld, add_zero]
      allocatedCapacity := hcapacity
      stored := fun n s h => by
        have hn : s.name = n := by simpa using List.find?_some h
        exact ⟨hn, s, List.mem_of_find?_eq_some h, hn, rfl⟩
      purge := fun v hv s h h1 h2 => by
        change volumes.find? (·.name = v.name) = some s at h
        rw [find?_name_eq hnames hv] at h
        cases h
        exact absurd h1 h2
      published := fun v hv _ => ⟨find?_name_eq hnames hv, hheld v hv⟩ }
  executions := by simp [initialWorld]

/-- Over every interleaving of `remove`, the drive has credited exactly the volumes whose finalizer
    is off it, purge protection goes only after that, and published volumes stay as they were. -/
theorem remove_credits_each_release_once (env : Env) (initial : DirectCSIDrive)
    (volumes : List DirectCSIVolume) (hnames : (volumes.map (·.name)).Nodup)
    (hheld : ∀ v ∈ volumes, driveFinalizer env v.name ∈ initial.finalizers)
    (hcapacity : initial.status.allocatedCapacity =
      initial.status.totalCapacity - initial.status.freeCapacity)
    (actions : List ReleaseAction) :
    let store := (World.run env (initialWorld initial volumes) actions).store
    store.drive.status.freeCapacity =
        initial.status.freeCapacity + releasedCapacity env volumes store.drive.finalizers ∧
      store.drive.status.allocatedCapacity =
        initial.status.allocatedCapacity - releasedCapacity env volumes store.drive.finalizers ∧
      (∀ v ∈ volumes, ∀ s, store.volumes v.name = some s →
        env.volumeFinalizerPurgeProtection ∈ v.finalizers →
        env.volumeFinalizerPurgeProtection ∉ s.finalizers →
        driveFinalizer env v.name ∉ store.drive.finalizers) ∧
      (∀ v ∈ volumes, v.isPublished = true →
        store.volumes v.name = some v ∧ driveFinalizer env v.name ∈ store.drive.finalizers) := by
  have hs := (World.run_inv hnames (initialWorld_inv hnames hheld hcapacity) actions).store
  refine ⟨hs.freeCapacity, ?_, hs.purge, hs.published⟩
  rw [hs.allocatedCapacity, hs.totalCapacity, hs.freeCapacity, hcapacity, sub_add_eq_sub_sub]

/-- One volume of 40 on a drive of 100, and a run that starts `remove`, fails its `Get` once and
    then starts and completes it again. -/
theorem remove_credits_each_release_once_on_one_volume :
    let volume : DirectCSIVolume :=
      { name := "v1", deletionTimestamp := some 1, finalizers := ["purge-protection"],
        status := { drive := "d", totalCapacity := 40 } }
    let initial : DirectCSIDrive :=
      { name := "d", finalizers := ["drive/v1"],
        status :=
          { driveStatus := .inUse, totalCapacity := 100, allocatedCapacity := 40,
            freeCapacity := 60 } }
    let actions : List ReleaseAction :=
      [.remove "v1", .step 0 true, .step 0 true, .step 0 false, .remove "v1", .step 1 true,
        .step 1 true, .step 1 true, .step 1 true, .step 1 true]
    (([volume].map (·.name)).Nodup ∧
      (∀ v ∈ [volume], driveFinalizer sampleEnv v.name ∈ initial.finalizers) ∧
      initial.status.allocatedCapacity =
        initial.status.totalCapacity - initial.status.freeCapacity) ∧
    let store := (World.run sampleEnv (initialWorld initial [volume]) actions).store
    store.drive.status.freeCapacity =
        initial.status.freeCapacity + releasedCapacity sampleEnv [volume] store.drive.finalizers ∧
      store.drive.status.allocatedCapacity =
        initial.status.allocatedCapacity - releasedCapacity sampleEnv [volume] store.drive.finalizers ∧
      (∀ v ∈ [volume], ∀ s, store.volumes v.name = some s →
        sampleEnv.volumeFinalizerPurgeProtection ∈ v.finalizers →
        sampleEnv.volumeFinalizerPurgeProtection ∉ s.finalizers →
        driveFinalizer sampleEnv v.name ∉ store.drive.finalizers) ∧
      (∀ v ∈ [volume], v.isPublished = true →
        store.volumes v.name = some v ∧ driveFinalizer sampleEnv v.name ∈ store.drive.finalizers) :=
  ⟨⟨by decide, by decide, by decide⟩,
    remove_credits_each_release_once sampleEnv _ _ (by decide) (by decide) (by decide) _⟩

/-! ### Progress -/

/-- A step of the execution started last. -/
theorem World.step_last (env : Env) (store : Store) (es : List Execution) (e : Execution)
    (ok : Bool) :
    World.step env ⟨store, es ++ [e]⟩ (.step es.length ok) =
      ⟨(e.step env store ok).1, es ++ [(e.step env store ok).2]⟩ := by
  simp [World.step]

/-- Run alone as execution `i` with every store call going through, `remove` of a stored volume
    marked for deletion and not published writes the drive once: `releaseVolume`'s edit of it. -/
theorem World.run_remove_alone (env : Env) (w : World) (volume : DirectCSIVolume)
    (hstored : w.store.volumes volume.name = some volume)
    (hdeleted : volume.deletionTimestamp ≠ none) (hunpublished : volume.isPublished = false)
    (hdrive : volume.status.drive = w.store.drive.name)
    (hheld : driveFinalizer env volume.name ∈ w.store.drive.finalizers) (i : Nat)
    (hi : w.executions.length = i) :
    (World.run env w (.remove volume.name :: List.replicate 5 (.step i true))).store.drive =
      { releaseDrive env w.store.drive
          (w.store.drive.finalizers.filter (· ≠ driveFinalizer env volume.name))
          volume.status.totalCapacity with
        resourceVersion := w.store.drive.resourceVersion + 1 } := by
  subst hi
  obtain ⟨store, es⟩ := w
  simp only at hstored hdrive hheld ⊢
  have hremove : World.step env ⟨store, es⟩ (.remove volume.name) =
      ⟨store, es ++ [⟨volume, store.drive, .start, none⟩]⟩ := by simp [World.step, hstored]
  simp only [World.run, List.replicate, List.foldl_cons, List.foldl_nil]
  rw [hremove, World.step_last, World.step_last, World.step_last, World.step_last, World.step_last]
  simp [Execution.step, hdeleted, hunpublished, hdrive, hheld, excludeFinalizer_eq,
    Store.updateDrive, Store.updateVolume, releaseDrive, hstored]

end DirectPV
