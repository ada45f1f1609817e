import DirectPV.Node.Relabel

/-! The two writers of a node's volume objects at once: the executions of `remove`, which take
    the purge-protection finalizer off a volume, and the label goroutines of
    `driveEventHandler.update`, which set its drive-path label. Each reads the volume and writes
    back an edited copy through `Update`, which refuses a copy of an older version; a goroutine
    tries again after a conflict, `remove` returns it. A run is any interleaving of their store
    calls and of new executions of `remove` (`RaceWorld.run`).

    Over every run each volume is its initial object with the label set once a goroutine wrote
    it, the purge-protection finalizer off once an execution of `remove` wrote it, and one version
    on for each write (`raceWorld_run_volumes`): neither writer loses the other's. -/

namespace DirectPV

/-- The store, the executions of `remove` started so far and the label goroutines of `update`. -/
structure RaceWorld where
  store : Store
  executions : List Execution
  goroutines : List LabelGoroutine

/-- What can happen next: an action of the volume controller, or a call of label goroutine `i`. -/
inductive RaceAction where
  | release (a : ReleaseAction)
  | label (i : Nat) (ok : Bool)

/-- One action. -/
def RaceWorld.step (env : Env) (drivePathLabelKey driveName : String) (w : RaceWorld) :
    RaceAction → RaceWorld
  | .release a =>
    let w' := World.step env ⟨w.store, w.executions⟩ a
    ⟨w'.store, w'.executions, w.goroutines⟩
  | .label i ok =>
    let w' := LabelWorld.step drivePathLabelKey driveName ⟨w.store, w.goroutines⟩ i ok
    ⟨w'.store, w.executions, w'.goroutines⟩

/-- A run: the actions in order. -/
def RaceWorld.run (env : Env) (drivePathLabelKey driveName : String) (w : RaceWorld)
    (actions : List RaceAction) : RaceWorld :=
  actions.foldl (RaceWorld.step env drivePathLabelKey driveName) w

/-! ### Writes -/

/-- Whether an execution of `remove` wrote its volume: it returned `nil` past the test of the
    deletion timestamp, which only its last call does. -/
def Execution.wroteVolume (e : Execution) : Bool :=
  e.pc = .done ∧ e.err = none ∧ e.volume.deletionTimestamp ≠ none

/-- An execution that wrote has returned. -/
theorem Execution.pc_of_wroteVolume {e : Execution} (h : e.wroteVolume = true) : e.pc = .done := by
  simp only [Execution.wroteVolume, decide_eq_true_eq] at h
  exact h.1

/-- The number of executions of `remove` that wrote the volume of that name. -/
def removeWrites (executions : List Execution) (name : String) : Nat :=
  executions.countP fun e => e.volume.name = name ∧ e.wroteVolume

/-- A volume after `l` label writes and `r` writes of `remove`, in any order: the label set once
    there was a label write, the purge-protection finalizer off once there was a write of
    `remove`, and `l + r` versions on. -/
def raced (drivePathLabelKey driveName purge : String) (volume : DirectCSIVolume) (l r : Nat) :
    DirectCSIVolume :=
  { volume with
    labels := if l = 0 then volume.labels
      else volume.labels.map (setLabel · drivePathLabelKey driveName)
    finalizers := if r = 0 then volume.finalizers
      else (excludeFinalizer volume.finalizers purge).1
    resourceVersion := volume.resourceVersion + l + r }

section
variable (drivePathLabelKey driveName purge : String)

@[simp] theorem raced_name (volume : DirectCSIVolume) (l r : Nat) :
    (raced drivePathLabelKey driveName purge volume l r).name = volume.name := rfl

@[simp] theorem raced_resourceVersion (volume : DirectCSIVolume) (l r : Nat) :
    (raced drivePathLabelKey driveName purge volume l r).resourceVersion =
      volume.resourceVersion + l + r := rfl

@[simp] theorem raced_deletionTimestamp (volume : DirectCSIVolume) (l r : Nat) :
    (raced drivePathLabelKey driveName purge volume l r).deletionTimestamp =
      volume.deletionTimestamp := rfl

/-- The label write of the current object is the next label write. -/
theorem raced_label (volume : DirectCSIVolume) (l r : Nat) {labels : List (String × String)}
    (h : (raced drivePathLabelKey driveName purge volume l r).labels = some labels) :
    { raced drivePathLabelKey driveName purge volume l r with
        labels := some (setLabel labels drivePathLabelKey driveName)
        resourceVersion := volume.resourceVersion + l + r + 1 } =
      raced drivePathLabelKey driveName purge volume (l + 1) r := by
  cases l with
  | zero =>
    simp only [raced, if_true] at h
    simp [raced, h, Nat.add_right_comm]
  | succ l =>
    simp only [raced, Nat.succ_ne_zero, if_false] at h
    obtain ⟨l₀, hl₀, rfl⟩ := Option.map_eq_some'.1 h
    simp [raced, hl₀, setLabel_setLabel]
    omega

/-- The write of `remove` from the current object is the next write of `remove`. -/
theorem raced_release (volume : DirectCSIVolume) (l r : Nat) :
    { raced drivePathLabelKey driveName purge volume l r with
        finalizers :=
          (excludeFinalizer (raced drivePathLabelKey driveName purge volume l r).finalizers purge).1
        resourceVersion := volume.resourceVersion + l + r + 1 } =
      raced drivePathLabelKey driveName purge volume l (r + 1) := by
  cases r <;> simp [raced, excludeFinalizer_eq, List.filter_filter, Nat.add_assoc]

end

/-! ### One call of each writer -/

section
variable {drivePathLabelKey driveName purge : String} {initial : Store}

variable (drivePathLabelKey driveName purge initial) in
/-- A copy a writer holds: the initial volume of that name after at most `L` label writes and
    at most `R` writes of `remove`. -/
def RaceCopy (name : String) (L R : Nat) (copy : DirectCSIVolume) : Prop :=
  ∃ v l r, initial.volumes name = some v ∧
    copy = raced drivePathLabelKey driveName purge v l r ∧ l ≤ L ∧ r ≤ R

theorem RaceCopy.mono {name : String} {L R L' R' : Nat} {copy : DirectCSIVolume}
    (h : RaceCopy drivePathLabelKey driveName purge initial name L R copy) (hL : L ≤ L')
    (hR : R ≤ R') : RaceCopy drivePathLabelKey driveName purge initial name L' R' copy := by
  obtain ⟨v, l, r, hv, rfl, hl, hr⟩ := h
  exact ⟨v, l, r, hv, rfl, hl.trans hL, hr.trans hR⟩

/-- `Update` of a copy with its labels or finalizers edited, against the current object: accepted,
    at the next version, only when the copy has all the writes made. -/
theorem Store.updateVolume_raced (hnames : ∀ n v, initial.volumes n = some v → v.name = n)
    {store : Store} {name : String} {v : DirectCSIVolume} {L R l r : Nat}
    (hi : initial.volumes name = some v)
    (hvolume : store.volumes name = some (raced drivePathLabelKey driveName purge v L R))
    (hl : l ≤ L) (hr : r ≤ R) (labels : Labels) (finalizers : List String) (ok : Bool) :
    store.updateVolume { raced drivePathLabelKey driveName purge v l r with labels, finalizers } ok =
      if l = L ∧ r = R then
        if ok then
          .ok { store with
            volumes := store.volumes.insert name
              { raced drivePathLabelKey driveName purge v l r with
                labels, finalizers, resourceVersion := v.resourceVersion + l + r + 1 } }
        else .error (.external "Update")
      else .error (.conflict name) := by
  have hn : (raced drivePathLabelKey driveName purge v l r).name = name := hnames name v hi
  simp only [Store.updateVolume, hn, hvolume, raced_resourceVersion]
  by_cases h : l = L ∧ r = R
  · obtain ⟨rfl, rfl⟩ := h
    simp
  · have hne : v.resourceVersion + l + r ≠ v.resourceVersion + L + R := by omega
    simp [hne, h]

/-- One call of a label goroutine, from a store holding its volume after `L` label writes and `R`
    writes of `remove`: it leaves the store as it was, or writes the volume once more and returns. -/
theorem LabelGoroutine.step_raced (hnames : ∀ n v, initial.volumes n = some v → v.name = n)
    {store : Store} {g : LabelGoroutine} {L R : Nat} (ok : Bool)
    (hvolume : store.volumes g.volumeName =
      (initial.volumes g.volumeName).map (raced drivePathLabelKey driveName purge · L R))
    (hg : ∀ copy, g.pc = .update copy →
      RaceCopy drivePathLabelKey driveName purge initial g.volumeName L R copy) :
    let r := g.step drivePathLabelKey driveName store ok
    (r.1 = store ∧ r.2.wrote = g.wrote ∧ ∀ copy, r.2.pc = .update copy →
      RaceCopy drivePathLabelKey driveName purge initial g.volumeName L R copy) ∨
    (g.wrote = false ∧ r.2.wrote = true ∧ ∀ m, r.1.volumes m = if m = g.volumeName then
      (initial.volumes m).map (raced drivePathLabelKey driveName purge · (L + 1) R)
      else store.volumes m) := by
  obtain ⟨name, steps, _ | copy | err⟩ := g
  · -- `Get`: the copy is the current object
    cases hi : initial.volumes name with
    | none =>
      rw [hi, Option.map_none'] at hvolume
      simp only [LabelGoroutine.step, hvolume]
      exact .inl ⟨by trivial, by trivial, fun _ h => by cases h⟩
    | some v =>
      rw [hi, Option.map_some'] at hvolume
      cases ok
      · simp only [LabelGoroutine.step, hvolume, Bool.false_eq_true, if_false]
        exact .inl ⟨by trivial, by trivial, fun _ h => by cases h⟩
      · rw [LabelGoroutine.step_get rfl hvolume]
        exact .inl ⟨rfl, rfl, fun _ h => ⟨v, L, R, hi, (LabelPc.update.inj h).symm, le_rfl, le_rfl⟩⟩
  · -- `Update` of a copy after `l` and `r` writes
    obtain ⟨v, l, r, hi, rfl, hl, hr⟩ := hg _ rfl
    rw [hi, Option.map_some'] at hvolume
    cases hlabels : (raced drivePathLabelKey driveName purge v l r).labels with
    | none =>
      simp only [LabelGoroutine.step, hlabels]
      exact .inl ⟨by trivial, by trivial, fun _ h => by cases h⟩
    | some labels =>
      simp only [LabelGoroutine.step, hlabels]
      rw [Store.updateVolume_raced hnames hi hvolume hl hr]
      by_cases hcurrent : l = L ∧ r = R
      · obtain ⟨rfl, rfl⟩ := hcurrent
        cases ok
        · simp only [and_self, if_true, Bool.false_eq_true, if_false]
          exact .inl ⟨by trivial, by trivial, fun _ h => by cases h⟩
        · simp only [and_self, if_true, raced_resourceVersion,
            raced_label drivePathLabelKey driveName purge v l r hlabels]
          refine .inr ⟨rfl, rfl, fun m => ?_⟩
          simp only [GoMap.insert_apply]
          split_ifs with hm
          · rw [hm, hi, Option.map_some']
          · rfl
      · rw [if_neg hcurrent]
        split_ifs <;> exact .inl ⟨by trivial, by trivial, fun _ h => by cases h⟩
  · exact .inl ⟨rfl, rfl, hg⟩

/-- A call leaves the volume an execution of `remove` was started with. -/
@[simp] theorem Execution.step_volume (env : Env) (store : Store) (e : Execution) (ok : Bool) :
    (e.step env store ok).2.volume = e.volume := by
  obtain ⟨volume, drive, pc, err⟩ := e
  cases pc <;> simp only [Execution.step] <;> repeat' split
  all_goals rfl

/-- One call of an execution of `remove`, from a store holding its volume after `L` label writes
    and `R` of `remove`: it leaves the volumes as they were, or writes its volume once more. -/
theorem Execution.step_raced (env : Env) (hnames : ∀ n v, initial.volumes n = some v → v.name = n)
    {store : Store} {e : Execution} {L R : Nat} (ok : Bool)
    (hvolume : store.volumes e.volume.name = (initial.volumes e.volume.name).map
      (raced drivePathLabelKey driveName env.volumeFinalizerPurgeProtection · L R))
    (hcopy : RaceCopy drivePathLabelKey driveName env.volumeFinalizerPurgeProtection initial
      e.volume.name L R e.volume)
    (hdeleted : e.pc ≠ .start → e.pc ≠ .done → e.volume.deletionTimestamp ≠ none) :
    let r := e.step env store ok
    (r.1.volumes = store.volumes ∧ r.2.wroteVolume = e.wroteVolume ∧
      (r.2.pc ≠ .start → r.2.pc ≠ .done → e.volume.deletionTimestamp ≠ none)) ∨
    (e.wroteVolume = false ∧ r.2.wroteVolume = true ∧ ∀ m, r.1.volumes m =
      if m = e.volume.name then (initial.volumes m).map
        (raced drivePathLabelKey driveName env.volumeFinalizerPurgeProtection · L (R + 1))
      else store.volumes m) := by
  obtain ⟨volume, drive, pc, err⟩ := e
  cases pc
  case start =>
    simp only [Execution.step]
    split_ifs with hdt hpub
    · exact .inl ⟨rfl, by simp [Execution.wroteVolume, hdt], fun _ h => absurd rfl h⟩
    · exact .inl ⟨rfl, rfl, fun _ h => absurd rfl h⟩
    · exact .inl ⟨rfl, rfl, fun _ _ => hdt⟩
  case removeAll | getDrive =>
    simp only [Execution.step]
    split_ifs
    all_goals exact .inl ⟨rfl, rfl, fun _ _ => hdeleted nofun nofun⟩
  case updateDrive =>
    simp only [Execution.step]
    split
    · split
      · rename_i h
        exact .inl ⟨by rw [(Store.updateDrive_eq_ok h).2], rfl, fun _ _ => hdeleted nofun nofun⟩
      · exact .inl ⟨rfl, rfl, fun _ h => absurd rfl h⟩
    · exact .inl ⟨rfl, rfl, fun _ _ => hdeleted nofun nofun⟩
  case updateVolume =>
    obtain ⟨v, l, r, hi, rfl, hl, hr⟩ := hcopy
    simp only [raced_name] at hi hvolume
    rw [hi, Option.map_some'] at hvolume
    simp only [Execution.step]
    rw [Store.updateVolume_raced hnames hi hvolume hl hr]
    by_cases hcurrent : l = L ∧ r = R
    · obtain ⟨rfl, rfl⟩ := hcurrent
      cases ok
      · simp only [and_self, if_true, Bool.false_eq_true, if_false]
        exact .inl ⟨by trivial, rfl, fun _ h => absurd rfl h⟩
      · simp only [and_self, if_true, raced_resourceVersion, raced_release]
        refine .inr ⟨rfl, by simpa [Execution.wroteVolume] using hdeleted nofun nofun, fun m => ?_⟩
        simp only [GoMap.insert_apply, raced_name]
        split_ifs with hm
        · rw [hm, hi, Option.map_some']
        · rfl
    · rw [if_neg hcurrent]
      exact .inl ⟨rfl, rfl, fun _ h => absurd rfl h⟩
  case done => exact .inl ⟨rfl, rfl, hdeleted⟩

end

/-! ### Every run -/

/-- Putting an execution in the place of one of the same volume that wrote as it did keeps the
    counts. -/
theorem removeWrites_set_of_wroteVolume_eq {executions : List Execution} {i : Nat}
    {e e' : Execution} (he : executions[i]? = some e) (hvolume : e'.volume = e.volume)
    (hwrote : e'.wroteVolume = e.wroteVolume) :
    removeWrites (executions.set i e') = removeWrites executions := by
  obtain ⟨hi, rfl⟩ := List.getElem?_eq_some_iff.1 he
  funext n
  have hle := List.boole_getElem_le_countP
    (fun e => decide (e.volume.name = n ∧ e.wroteVolume = true)) executions i hi
  simp only [removeWrites, List.countP_set _ _ _ _ hi, hvolume, hwrote] at hle ⊢
  omega

/-- Putting an execution that wrote in the place of one of the same volume that had not adds one
    write of that volume. -/
theorem removeWrites_set_of_write {executions : List Execution} {i : Nat} {e e' : Execution}
    (he : executions[i]? = some e) (hvolume : e'.volume = e.volume)
    (hwrote : e.wroteVolume = false) (hwrote' : e'.wroteVolume = true) (n : String) :
    removeWrites (executions.set i e') n =
      removeWrites executions n + if n = e.volume.name then 1 else 0 := by
  obtain ⟨hi, rfl⟩ := List.getElem?_eq_some_iff.1 he
  simp only [removeWrites, List.countP_set _ _ _ _ hi, hvolume, hwrote, hwrote', Bool.false_eq_true,
    and_false, and_true, decide_False, decide_eq_true_eq, if_false, Nat.sub_zero]
  by_cases hn : n = executions[i].volume.name
  · rw [if_pos hn.symm, if_pos hn]
  · rw [if_neg (Ne.symm hn), if_neg hn]

/-- A new execution has not written. -/
theorem removeWrites_append_start (executions : List Execution) (volume : DirectCSIVolume)
    (drive : DirectCSIDrive) :
    removeWrites (executions ++ [⟨volume, drive, .start, none⟩]) = removeWrites executions := by
  funext n
  simp [removeWrites, List.countP_append, Execution.wroteVolume]

section
variable (env : Env) (drivePathLabelKey driveName : String) (initial : Store)

/-- What holds along every run, against the store the writers started from: each volume is the
    initial one after the writes made to it, and each writer holds a copy of it after some of
    them; an execution of `remove` past its first call holds a volume marked for deletion. -/
structure RaceInv (w : RaceWorld) : Prop where
  volumes : ∀ n, w.store.volumes n = (initial.volumes n).map
    (raced drivePathLabelKey driveName env.volumeFinalizerPurgeProtection ·
      (labelWrites w.goroutines n) (removeWrites w.executions n))
  goroutines : ∀ g ∈ w.goroutines, ∀ copy, g.pc = .update copy →
    RaceCopy drivePathLabelKey driveName env.volumeFinalizerPurgeProtection initial g.volumeName
      (labelWrites w.goroutines g.volumeName) (removeWrites w.executions g.volumeName) copy
  executions : ∀ e ∈ w.executions,
    RaceCopy drivePathLabelKey driveName env.volumeFinalizerPurgeProtection initial e.volume.name
      (labelWrites w.goroutines e.volume.name) (removeWrites w.executions e.volume.name) e.volume
  deleted : ∀ e ∈ w.executions, e.pc ≠ .start → e.pc ≠ .done → e.volume.deletionTimestamp ≠ none

variable {env drivePathLabelKey driveName initial}

/-- A call of a label goroutine keeps the invariant. -/
theorem RaceInv.label (hnames : ∀ n v, initial.volumes n = some v → v.name = n) {w : RaceWorld}
    (hw : RaceInv env drivePathLabelKey driveName initial w) (i : Nat) (ok : Bool) :
    RaceInv env drivePathLabelKey driveName initial
      (w.step env drivePathLabelKey driveName (.label i ok)) := by
  simp only [RaceWorld.step, LabelWorld.step]
  split
  · exact hw
  cases hg : w.goroutines[i]? with
  | none => exact hw
  | some g =>
    have hmem := List.getElem?_mem hg
    have hname := LabelGoroutine.step_volumeName drivePathLabelKey driveName w.store g ok
    dsimp only
    rcases LabelGoroutine.step_raced hnames ok (hw.volumes g.volumeName) (hw.goroutines g hmem) with
      ⟨hstore, hwrote, hcopy⟩ | ⟨hwrote, hwrote', hvolumes⟩
    · -- the store and the counts stay
      have hwrites := labelWrites_set_of_wrote_eq hg hname hwrote
      refine ⟨fun n => ?_, fun h hh => ?_, fun e he => ?_, hw.deleted⟩
      · rw [hstore, hwrites]
        exact hw.volumes n
      · rw [hwrites]
        rcases List.mem_or_eq_of_mem_set hh with hh | rfl
        · exact hw.goroutines h hh
        · rw [hname]
          exact hcopy
      · rw [hwrites]
        exact hw.executions e he
    · -- one more label write of the goroutine's volume
      have hwrites := labelWrites_set_of_write hg hname hwrote hwrote'
      refine ⟨fun n => ?_, fun h hh copy hpc => ?_, fun e he => ?_, hw.deleted⟩
      · rw [hvolumes, hwrites]
        split_ifs with hn
        · rw [hn]
        · exact hw.volumes n
      · rw [hwrites]
        rcases List.mem_or_eq_of_mem_set hh with hh | rfl
        · exact (hw.goroutines h hh copy hpc).mono (Nat.le_add_right _ _) le_rfl
        · rw [LabelGoroutine.pc_of_wrote hwrote'] at hpc
          cases hpc
      · rw [hwrites]
        exact (hw.executions e he).mono (Nat.le_add_right _ _) le_rfl

/-- A call of `remove` keeps the invariant: it copies the current object. -/
theorem RaceInv.remove (hnames : ∀ n v, initial.volumes n = some v → v.name = n) {w : RaceWorld}
    (hw : RaceInv env drivePathLabelKey driveName initial w) (name : String) :
    RaceInv env drivePathLabelKey driveName initial
      (w.step env drivePathLabelKey driveName (.release (.remove name))) := by
  simp only [RaceWorld.step, World.step]
  cases hv : w.store.volumes name with
  | none => exact hw
  | some volume =>
    have hcopy : RaceCopy drivePathLabelKey driveName env.volumeFinalizerPurgeProtection initial
        volume.name (labelWrites w.goroutines volume.name) (removeWrites w.executions volume.name)
        volume := by
      have hstored := hw.volumes name
      rw [hv] at hstored
      obtain ⟨v, hi, hvv⟩ := Option.map_eq_some'.1 hstored.symm
      obtain rfl : v.name = name := hnames name v hi
      rw [← hvv]
      exact ⟨v, _, _, hi, rfl, le_rfl, le_rfl⟩
    have hwrites := removeWrites_append_start w.executions volume w.store.drive
    refine ⟨fun n => ?_, fun g hg => ?_, fun e he => ?_, fun e he => ?_⟩
    · rw [hwrites]
      exact hw.volumes n
    · rw [hwrites]
      exact hw.goroutines g hg
    · rw [hwrites]
      rcases List.mem_append.1 he with he | he
      · exact hw.executions e he
      · rw [List.mem_singleton.1 he]
        exact hcopy
    · rcases List.mem_append.1 he with he | he
      · exact hw.deleted e he
      · rw [List.mem_singleton.1 he]
        exact fun h => absurd rfl h

/-- A call of an execution of `remove` keeps the invariant. -/
theorem RaceInv.execution (hnames : ∀ n v, initial.volumes n = some v → v.name = n)
    {w : RaceWorld} (hw : RaceInv env drivePathLabelKey driveName initial w) (i : Nat) (ok : Bool) :
    RaceInv env drivePathLabelKey driveName initial
      (w.step env drivePathLabelKey driveName (.release (.step i ok))) := by
  simp only [RaceWorld.step, World.step]
  cases he : w.executions[i]? with
  | none => exact hw
  | some e =>
    have hmem := List.getElem?_mem he
    have hvol := Execution.step_volume env w.store e ok
    dsimp only
    rcases Execution.step_raced env hnames ok (hw.volumes e.volume.name) (hw.executions e hmem)
        (hw.deleted e hmem) with ⟨hstore, hwrote, hdeleted⟩ | ⟨hwrote, hwrote', hvolumes⟩
    · -- the volumes and the counts stay
      have hwrites := removeWrites_set_of_wroteVolume_eq he hvol hwrote
      refine ⟨fun n => ?_, fun g hg => ?_, fun e' he' => ?_, fun e' he' => ?_⟩
      · rw [hstore, hwrites]
        exact hw.volumes n
      · rw [hwrites]
        exact hw.goroutines g hg
      · rw [hwrites]
        rcases List.mem_or_eq_of_mem_set he' with he' | rfl
        · exact hw.executions e' he'
        · rw [hvol]
          exact hw.executions e hmem
      · rcases List.mem_or_eq_of_mem_set he' with he' | rfl
        · exact hw.deleted e' he'
        · rw [hvol]
          exact hdeleted
    · -- one more write of `remove` of the execution's volume
      have hwrites := removeWrites_set_of_write he hvol hwrote hwrote'
      refine ⟨fun n => ?_, fun g hg copy hpc => ?_, fun e' he' => ?_, fun e' he' => ?_⟩
      · rw [hvolumes, hwrites]
        split_ifs with hn
        · rw [hn]
        · exact hw.volumes n
      · rw [hwrites]
        exact (hw.goroutines g hg copy hpc).mono le_rfl (Nat.le_add_right _ _)
      · rw [hwrites]
        rcases List.mem_or_eq_of_mem_set he' with he' | rfl
        · exact (hw.executions e' he').mono le_rfl (Nat.le_add_right _ _)
        · rw [hvol]
          exact (hw.executions e hmem).mono le_rfl (Nat.le_add_right _ _)
      · rcases List.mem_or_eq_of_mem_set he' with he' | rfl
        · exact hw.deleted e' he'
        · exact fun _ h => absurd (Execution.pc_of_wroteVolume hwrote') h

/-- An action of the volume controller keeps the invariant. -/
theorem RaceInv.release (hnames : ∀ n v, initial.volumes n = some v → v.name = n) {w : RaceWorld}
    (hw : RaceInv env drivePathLabelKey driveName initial w) :
    ∀ a : ReleaseAction, RaceInv env drivePathLabelKey driveName initial
      (w.step env drivePathLabelKey driveName (.release a))
  | .remove name => hw.remove hnames name
  | .step i ok => hw.execution hnames i ok

/-- The invariant holds over every run. -/
theorem RaceInv.run (hnames : ∀ n v, initial.volumes n = some v → v.name = n)
    (actions : List RaceAction) :
    ∀ {w : RaceWorld}, RaceInv env drivePathLabelKey driveName initial w →
      RaceInv env drivePathLabelKey driveName initial
        (w.run env drivePathLabelKey driveName actions) := by
  induction actions with
  | nil => exact id
  | cons a actions ih =>
    intro w hw
    cases a with
    | release a => exact ih (hw.release hnames a)
    | label i ok => exact ih (hw.label hnames i ok)

end

/-- As `update` starts its goroutines, before any execution of `remove`. -/
theorem raceInv_start (env : Env) (drivePathLabelKey driveName : String) (drive : DirectCSIDrive)
    (store : Store) :
    RaceInv env drivePathLabelKey driveName store ⟨store, [], labelGoroutines env drive⟩ := by
  have hwrites : ∀ n, labelWrites (labelGoroutines env drive) n = 0 := fun n =>
    List.countP_eq_zero.2 fun g hg => by
      obtain ⟨_, _, rfl⟩ := List.mem_map.1 hg
      simp [LabelGoroutine.start, LabelGoroutine.wrote]
  refine ⟨fun n => ?_, fun g hg copy hpc => ?_, fun _ he => absurd he (List.not_mem_nil _),
    fun _ he => absurd he (List.not_mem_nil _)⟩
  · rw [hwrites]
    cases store.volumes n <;> rfl
  · obtain ⟨_, _, rfl⟩ := List.mem_map.1 hg
    cases hpc

/-- Over every interleaving of the label goroutines with executions of `remove`, each volume is
    its initial object with both writers' edits and one version on per write: neither is lost. -/
theorem raceWorld_run_volumes (env : Env) (drivePathLabelKey : String) (drive : DirectCSIDrive)
    (store : Store) (hnames : ∀ n v, store.volumes n = some v → v.name = n)
    (actions : List RaceAction) :
    let driveName := env.sanitizeDrivePath drive.status.path
    let w := RaceWorld.run env drivePathLabelKey driveName ⟨store, [], labelGoroutines env drive⟩
      actions
    ∀ n, w.store.volumes n = (store.volumes n).map
      (raced drivePathLabelKey driveName env.volumeFinalizerPurgeProtection ·
        (labelWrites w.goroutines n) (removeWrites w.executions n)) :=
  (RaceInv.run hnames actions
    (raceInv_start env drivePathLabelKey (env.sanitizeDrivePath drive.status.path) drive
      store)).volumes

/-- A goroutine labels the volume while an execution of `remove` holds an older copy of it: the
    execution's write is refused, and the next call of `remove` makes it from the labelled volume. -/
theorem raceWorld_run_volumes_label_then_remove :
    let volume : DirectCSIVolume :=
      { name := "v", labels := some [], deletionTimestamp := some 1,
        finalizers := ["purge-protection"], status := { drive := "d" } }
    let drive : DirectCSIDrive :=
      { name := "d", finalizers := ["drive/v"], status := { driveStatus := .inUse } }
    let store : Store := { drive := drive, volumes := GoMap.empty.insert volume.name volume }
    let driveName := sampleEnv.sanitizeDrivePath drive.status.path
    let w := RaceWorld.run sampleEnv "path" driveName ⟨store, [], labelGoroutines sampleEnv drive⟩
      ([.label 0 true, .release (.remove "v"), .label 0 true] ++
        List.replicate 5 (.release (.step 0 true)) ++
        .release (.remove "v") :: List.replicate 5 (.release (.step 1 true)))
    (∀ n v, store.volumes n = some v → v.name = n) ∧
      ∀ n, w.store.volumes n = (store.volumes n).map
        (raced "path" driveName sampleEnv.volumeFinalizerPurgeProtection ·
          (labelWrites w.goroutines n) (removeWrites w.executions n)) :=
  ⟨insert_name_eq _, raceWorld_run_volumes sampleEnv "path" _ _ (insert_name_eq _) _⟩

/-- In that run the label and the finalizer are both written, one version each. -/
example :
    let volume : DirectCSIVolume :=
      { name := "v", labels := some [], deletionTimestamp := some 1,
        finalizers := ["purge-protection"], status := { drive := "d" } }
    let drive : DirectCSIDrive :=
      { name := "d", finalizers := ["drive/v"], status := { driveStatus := .inUse } }
    let store : Store := { drive := drive, volumes := GoMap.empty.insert volume.name volume }
    let w := RaceWorld.run sampleEnv "path" "" ⟨store, [], labelGoroutines sampleEnv drive⟩
      ([.label 0 true, .release (.remove "v"), .label 0 true] ++
        List.replicate 5 (.release (.step 0 true)) ++
        .release (.remove "v") :: List.replicate 5 (.release (.step 1 true)))
    labelWrites w.goroutines "v" = 1 ∧ removeWrites w.executions "v" = 1 ∧
      (w.store.volumes "v").map (fun v => (v.labels, v.finalizers, v.resourceVersion)) =
        some (some [("path", "")], [], 2) := by
  dsimp only
  decide

end DirectPV
