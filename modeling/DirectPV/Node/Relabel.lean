import DirectPV.Node.Labels
import DirectPV.Volume.Release

/-! The label goroutines of `driveEventHandler.update` (`pkg/node/uevent.go`). When a drive's
    name changed, `update` starts one goroutine per finalizer with prefix
    `DirectCSIDriveFinalizerPrefix`; each runs `RetryOnConflict(DefaultRetry, updateLabels)`: `Get`
    the volume, set its label `DrivePathLabelKey`, `Update` it, and start over after a conflict.

    A goroutine is a program counter over these store calls, against the store of `remove`, whose
    `Update` refuses a stale copy; any call may fail, and a run is any interleaving of the calls
    (`LabelWorld.run`). Each volume ends as its initial object with one version per goroutine that
    wrote it (`labelWorld_run_volumes`); a goroutine gives up only when more than
    `DefaultRetry.Steps` finalizers name its volume (`labelWorld_run_gave_up`), and one run alone is
    done within three calls (`labelWorld_run_alone`). -/

namespace DirectPV

/-- The store call a label goroutine makes next: `Get` of its volume, `Update` of the copy it
    read, or none once it returned. -/
inductive LabelPc where
  | get
  | update (volume : DirectCSIVolume)
  | done (err : Option GoError)

/-- A label goroutine: the volume it labels, the attempts `RetryOnConflict` has left (the current
    one included), and its next call. -/
structure LabelGoroutine where
  volumeName : String
  steps : Nat
  pc : LabelPc

/-- The goroutine that the loop of `update` starts for a volume. -/
def LabelGoroutine.start (volumeName : String) : LabelGoroutine :=
  ⟨volumeName, defaultRetrySteps, .get⟩

/-- One store call of a label goroutine; `ok = false` makes a `Get` or an `Update` fail. A
    conflict starts another attempt while `DefaultRetry.Steps` last and is returned after the
    last; `volume.Labels[key] = driveName` panics on a volume without labels. -/
def LabelGoroutine.step (drivePathLabelKey driveName : String) (store : Store)
    (g : LabelGoroutine) (ok : Bool) : Store × LabelGoroutine :=
  let finish (err : Option GoError) : LabelGoroutine := { g with pc := .done err }
  match g.pc with
  | .get =>
    match store.volumes g.volumeName with
    | none => (store, finish (some (.notFound g.volumeName)))
    | some volume =>
      if ok then (store, { g with pc := .update volume })
      else (store, finish (some (.external "Get")))
  | .update volume =>
    match volume.labels with
    | none => (store, finish (some (.panic "assignment to entry in nil map")))
    | some labels =>
      match store.updateVolume
          { volume with labels := some (setLabel labels drivePathLabelKey driveName) } ok with
      | .ok store' => (store', finish none)
      | .error (.conflict name) =>
        if g.steps ≤ 1 then (store, finish (some (.conflict name)))
        else (store, { g with steps := g.steps - 1, pc := .get })
      | .error err => (store, finish (some err))
  | .done _ => (store, g)

/-- Whether a goroutine returned a panic. -/
def LabelPc.panicked : LabelPc → Bool
  | .done (some (.panic _)) => true
  | _ => false

/-- The store and the label goroutines. -/
structure LabelWorld where
  store : Store
  goroutines : List LabelGoroutine

/-- Goroutine `i` makes its next store call, unless a panic has ended the process. -/
def LabelWorld.step (drivePathLabelKey driveName : String) (w : LabelWorld) (i : Nat) (ok : Bool) :
    LabelWorld :=
  if w.goroutines.any (·.pc.panicked) then w
  else
    match w.goroutines[i]? with
    | some g =>
      let r := g.step drivePathLabelKey driveName w.store ok
      ⟨r.1, w.goroutines.set i r.2⟩
    | none => w

/-- A run: the calls in order, each the goroutine that makes it and whether it goes through. -/
def LabelWorld.run (drivePathLabelKey driveName : String) (w : LabelWorld)
    (calls : List (Nat × Bool)) : LabelWorld :=
  calls.foldl (fun w c => w.step drivePathLabelKey driveName c.1 c.2) w

/-- The goroutines that the loop of `update` starts for a drive. -/
def labelGoroutines (env : Env) (drive : DirectCSIDrive) : List LabelGoroutine :=
  (volumeNames env drive.finalizers).map LabelGoroutine.start

/-! ### Writes -/

/-- Whether the goroutine returned without error, which it does right after its write. -/
def LabelGoroutine.wrote (g : LabelGoroutine) : Bool :=
  match g.pc with
  | .done none => true
  | _ => false

/-- A goroutine that wrote has returned. -/
theorem LabelGoroutine.pc_of_wrote {g : LabelGoroutine} (h : g.wrote = true) : g.pc = .done none := by
  obtain ⟨_, _, _ | _ | _ | _⟩ := g <;> first | rfl | cases h

/-- The number of goroutines that wrote the volume of that name. -/
def labelWrites (goroutines : List LabelGoroutine) (name : String) : Nat :=
  goroutines.countP fun g => g.volumeName = name ∧ g.wrote

/-- A volume after `k` label writes: the label set, and `k` versions on. -/
def relabelled (drivePathLabelKey driveName : String) (volume : DirectCSIVolume) :
    Nat → DirectCSIVolume
  | 0 => volume
  | k + 1 => { setDrivePathLabel drivePathLabelKey driveName volume with
      resourceVersion := volume.resourceVersion + (k + 1) }

section
variable (drivePathLabelKey driveName : String)

@[simp] theorem relabelled_zero (volume : DirectCSIVolume) :
    relabelled drivePathLabelKey driveName volume 0 = volume := rfl

@[simp] theorem relabelled_name (volume : DirectCSIVolume) (k : Nat) :
    (relabelled drivePathLabelKey driveName volume k).name = volume.name := by
  cases k <;> rfl

@[simp] theorem relabelled_resourceVersion (volume : DirectCSIVolume) (k : Nat) :
    (relabelled drivePathLabelKey driveName volume k).resourceVersion =
      volume.resourceVersion + k := by
  cases k <;> rfl

/-- The write of a goroutine holding the volume after `k` writes, accepted at the next version,
    leaves the volume after `k + 1`. -/
theorem relabelled_write (volume : DirectCSIVolume) (k : Nat) {labels : List (String × String)}
    (h : (relabelled drivePathLabelKey driveName volume k).labels = some labels) :
    { relabelled drivePathLabelKey driveName volume k with
        labels := some (setLabel labels drivePathLabelKey driveName)
        resourceVersion := volume.resourceVersion + k + 1 } =
      relabelled drivePathLabelKey driveName volume (k + 1) := by
  cases k with
  | zero =>
    rw [relabelled_zero] at h
    simp [relabelled, setDrivePathLabel, h]
  | succ k =>
    obtain ⟨l, hl, rfl⟩ := Option.map_eq_some'.1 h
    simp [relabelled, setDrivePathLabel, hl, setLabel_setLabel, Nat.add_assoc]

end

/-! ### One call -/

/-- A call leaves the goroutine's volume name as it is. -/
@[simp] theorem LabelGoroutine.step_volumeName (drivePathLabelKey driveName : String)
    (store : Store) (g : LabelGoroutine) (ok : Bool) :
    (g.step drivePathLabelKey driveName store ok).2.volumeName = g.volumeName := by
  unfold LabelGoroutine.step
  repeat' split
  all_goals rfl

section
variable {drivePathLabelKey driveName : String} {store : Store} {g : LabelGoroutine}

/-- `Get` of a stored volume that goes through takes a copy of it. -/
theorem LabelGoroutine.step_get {volume : DirectCSIVolume} (hpc : g.pc = .get)
    (hvolume : store.volumes g.volumeName = some volume) :
    g.step drivePathLabelKey driveName store true = (store, { g with pc := .update volume }) := by
  simp [LabelGoroutine.step, hpc, hvolume]

/-- `Update` of the current copy of a volume with labels that goes through writes it at the next
    version, and the goroutine returns without error. -/
theorem LabelGoroutine.step_update_current {volume : DirectCSIVolume}
    {labels : List (String × String)} (hpc : g.pc = .update volume)
    (hlabels : volume.labels = some labels) (hvolume : store.volumes volume.name = some volume) :
    g.step drivePathLabelKey driveName store true =
      ({ store with
          volumes := store.volumes.insert volume.name
            { volume with
              labels := some (setLabel labels drivePathLabelKey driveName)
              resourceVersion := volume.resourceVersion + 1 } },
        { g with pc := .done none }) := by
  simp [LabelGoroutine.step, hpc, hlabels, Store.updateVolume, hvolume]

/-- `Update` of a stale copy is a conflict, and with attempts left the goroutine starts over. -/
theorem LabelGoroutine.step_update_stale {volume stored : DirectCSIVolume}
    {labels : List (String × String)} (hpc : g.pc = .update volume)
    (hlabels : volume.labels = some labels) (hvolume : store.volumes volume.name = some stored)
    (hstale : volume.resourceVersion ≠ stored.resourceVersion) (hsteps : 1 < g.steps) (ok : Bool) :
    g.step drivePathLabelKey driveName store ok =
      (store, { g with steps := g.steps - 1, pc := .get }) := by
  simp [LabelGoroutine.step, hpc, hlabels, Store.updateVolume, hvolume, hstale,
    Nat.not_le.2 hsteps]

/-- A goroutine that returned makes no more calls. -/
theorem LabelGoroutine.step_done {err : Option GoError} (hpc : g.pc = .done err) (ok : Bool) :
    g.step drivePathLabelKey driveName store ok = (store, g) := by
  simp [LabelGoroutine.step, hpc]

end

section
variable (drivePathLabelKey driveName : String) (initial : Store)

/-- What a goroutine knows, given how many writes its volume has had: the attempts it used are
    at most the writes before its copy, which is the volume after some of them; and it gave up on
    a conflict only once `DefaultRetry.Steps` writes were made. -/
def LabelGoroutine.Facts (written : Nat) (g : LabelGoroutine) : Prop :=
  match g.pc with
  | .get => defaultRetrySteps - g.steps ≤ written
  | .update volume => ∃ v k, initial.volumes g.volumeName = some v ∧
      volume = relabelled drivePathLabelKey driveName v k ∧ k ≤ written ∧
      defaultRetrySteps - g.steps ≤ k
  | .done err => ∀ name, err = some (.conflict name) → defaultRetrySteps ≤ written

variable {drivePathLabelKey driveName initial}

/-- More writes keep what a goroutine knows. -/
theorem LabelGoroutine.Facts.mono {g : LabelGoroutine} {a b : Nat}
    (h : g.Facts drivePathLabelKey driveName initial a) (hab : a ≤ b) :
    g.Facts drivePathLabelKey driveName initial b := by
  obtain ⟨name, steps, _ | volume | err⟩ := g
  · exact Nat.le_trans h hab
  · obtain ⟨v, k, hv, rfl, hk, hs⟩ := h
    exact ⟨v, k, hv, rfl, hk.trans hab, hs⟩
  · exact fun n hn => (h n hn).trans hab

/-- `Update` of a copy of the volume after `k` writes, against the volume after `written`: a
    conflict unless the copy is current. -/
theorem Store.updateVolume_relabelled (hnames : ∀ n v, initial.volumes n = some v → v.name = n)
    {store : Store} {name : String} {v : DirectCSIVolume} {written : Nat}
    (hi : initial.volumes name = some v)
    (hvolume : store.volumes name = some (relabelled drivePathLabelKey driveName v written))
    (k : Nat) (labels : Labels) (ok : Bool) :
    store.updateVolume { relabelled drivePathLabelKey driveName v k with labels } ok =
      if k ≠ written then .error (.conflict name)
      else if ok then
        .ok { store with
          volumes := store.volumes.insert name { relabelled drivePathLabelKey driveName v k with
            labels, resourceVersion := v.resourceVersion + k + 1 } }
      else .error (.external "Update") := by
  have hname : (relabelled drivePathLabelKey driveName v k).name = name := by
    rw [relabelled_name, hnames name v hi]
  simp only [Store.updateVolume, hname, hvolume, relabelled_resourceVersion, ne_eq,
    Nat.add_left_cancel_iff]

/-- One call of a goroutine, from a store holding its volume after `written` writes: it leaves the
    store as it was, or writes the volume once more and returns. -/
theorem LabelGoroutine.step_spec (hnames : ∀ n v, initial.volumes n = some v → v.name = n)
    {store : Store} {g : LabelGoroutine} {written : Nat} (ok : Bool)
    (hvolume : store.volumes g.volumeName =
      (initial.volumes g.volumeName).map (relabelled drivePathLabelKey driveName · written))
    (hg : g.Facts drivePathLabelKey driveName initial written) :
    let r := g.step drivePathLabelKey driveName store ok
    (r.1 = store ∧ r.2.wrote = g.wrote ∧ r.2.Facts drivePathLabelKey driveName initial written) ∨
      (g.wrote = false ∧ r.2.wrote = true ∧ r.1.drive = store.drive ∧
        ∀ m, r.1.volumes m = if m = g.volumeName then
          (initial.volumes m).map (relabelled drivePathLabelKey driveName · (written + 1))
          else store.volumes m) := by
  obtain ⟨name, steps, _ | volume | err⟩ := g
  · -- `Get`: the copy is the current volume
    cases hi : initial.volumes name with
    | none =>
      rw [hi, Option.map_none'] at hvolume
      simp only [LabelGoroutine.step, hvolume]
      exact .inl ⟨by trivial, by trivial, fun n hn => by cases hn⟩
    | some v =>
      rw [hi, Option.map_some'] at hvolume
      cases ok
      · simp only [LabelGoroutine.step, hvolume, Bool.false_eq_true, if_false]
        exact .inl ⟨by trivial, by trivial, fun n hn => by cases hn⟩
      · rw [LabelGoroutine.step_get rfl hvolume]
        exact .inl ⟨rfl, rfl, v, written, hi, rfl, le_rfl, hg⟩
  · -- `Update` of a copy after `k` writes
    obtain ⟨v, k, hi, rfl, hk, hs⟩ := hg
    rw [hi, Option.map_some'] at hvolume
    cases hl : (relabelled drivePathLabelKey driveName v k).labels with
    | none =>
      simp only [LabelGoroutine.step, hl]
      exact .inl ⟨by trivial, by trivial, fun n hn => by cases hn⟩
    | some labels =>
      simp only [LabelGoroutine.step, hl]
      rw [Store.updateVolume_relabelled hnames hi hvolume k]
      by_cases hkw : k = written
      · subst hkw
        cases ok
        · simp only [ne_eq, not_true_eq_false, if_false, Bool.false_eq_true]
          exact .inl ⟨by trivial, by trivial, fun n hn => by cases hn⟩
        · simp only [ne_eq, not_true_eq_false, if_false, if_true,
            relabelled_write drivePathLabelKey driveName v k hl]
          refine .inr ⟨by trivial, by trivial, by trivial, fun m => ?_⟩
          simp only [GoMap.insert_apply]
          split_ifs with hm
          · rw [hm, hi, Option.map_some']
          · rfl
      · rw [if_pos hkw]
        split_ifs with h1
        · exact .inl ⟨by trivial, by trivial, fun n _ => by dsimp only at hs; omega⟩
        · refine .inl ⟨by trivial, by trivial, ?_⟩
          show defaultRetrySteps - (steps - 1) ≤ written
          dsimp only at hs
          omega
  · exact .inl ⟨rfl, rfl, hg⟩

/-- A goroutine that wrote has returned without error, and knows nothing more. -/
theorem LabelGoroutine.Facts.of_wrote {g : LabelGoroutine} (h : g.wrote = true) (written : Nat) :
    g.Facts drivePathLabelKey driveName initial written := by
  obtain ⟨name, steps, _ | volume | _ | err⟩ := g
  · cases h
  · cases h
  · exact fun _ h => by cases h
  · cases h

end

/-! ### Every run -/

/-- Putting back an element where it is changes nothing. -/
theorem set_of_getElem?_eq {α : Type} {l : List α} {i : Nat} {a : α} (h : l[i]? = some a) :
    l.set i a = l := by
  apply List.ext_getElem?
  intro j
  rw [List.getElem?_set]
  split_ifs with hij hi
  · rw [← hij, h]
  · exact absurd (List.getElem?_eq_some_iff.1 h).1 (hij ▸ hi)
  · rfl

/-- A call keeps the volume each goroutine labels. -/
theorem LabelWorld.step_volumeNames (drivePathLabelKey driveName : String) (w : LabelWorld)
    (i : Nat) (ok : Bool) :
    (w.step drivePathLabelKey driveName i ok).goroutines.map (·.volumeName) =
      w.goroutines.map (·.volumeName) := by
  unfold LabelWorld.step
  split
  · rfl
  · cases hg : w.goroutines[i]? with
    | none => rfl
    | some g =>
      rw [List.map_set, LabelGoroutine.step_volumeName]
      exact set_of_getElem?_eq (by rw [List.getElem?_map, hg]; rfl)

theorem LabelWorld.run_volumeNames (drivePathLabelKey driveName : String)
    (calls : List (Nat × Bool)) :
    ∀ w : LabelWorld, (w.run drivePathLabelKey driveName calls).goroutines.map (·.volumeName) =
      w.goroutines.map (·.volumeName) := by
  induction calls with
  | nil => intro w; rfl
  | cons c calls ih =>
    intro w
    exact (ih _).trans (w.step_volumeNames drivePathLabelKey driveName c.1 c.2)

/-- While no goroutine has panicked, a call of goroutine `i` that leaves it without a panic is
    its own call: the world gets the store and the goroutine it returns, and still no panic. -/
theorem LabelWorld.step_eq {drivePathLabelKey driveName : String} {w : LabelWorld} {i : Nat}
    {g g' : LabelGoroutine} {store' : Store} {ok : Bool}
    (hpanic : w.goroutines.any (·.pc.panicked) = false) (hg : w.goroutines[i]? = some g)
    (hstep : g.step drivePathLabelKey driveName w.store ok = (store', g'))
    (hg' : g'.pc.panicked = false) :
    let w' := w.step drivePathLabelKey driveName i ok
    w'.store = store' ∧ w'.goroutines[i]? = some g' ∧
      w'.goroutines.any (·.pc.panicked) = false := by
  simp only [LabelWorld.step, hpanic, hg, Bool.false_eq_true, if_false, hstep]
  refine ⟨trivial, List.getElem?_set_self (List.getElem?_eq_some_iff.1 hg).1,
    List.any_eq_false.2 fun x hx => ?_⟩
  rcases List.mem_or_eq_of_mem_set hx with hx | rfl
  · exact List.any_eq_false.1 hpanic x hx
  · simp [hg']

/-- A goroutine that returned stays as it is, whichever goroutine calls. -/
theorem LabelWorld.step_getElem?_of_done {drivePathLabelKey driveName : String} {w : LabelWorld}
    {i : Nat} {g : LabelGoroutine} {err : Option GoError} (hg : w.goroutines[i]? = some g)
    (hpc : g.pc = .done err) (j : Nat) (ok : Bool) :
    (w.step drivePathLabelKey driveName j ok).goroutines[i]? = some g := by
  unfold LabelWorld.step
  split
  · exact hg
  · cases hh : w.goroutines[j]? with
    | none => exact hg
    | some h =>
      by_cases hji : j = i
      · subst hji
        obtain rfl : h = g := Option.some.inj (hh.symm.trans hg)
        rw [List.getElem?_set_self (List.getElem?_eq_some_iff.1 hg).1,
          LabelGoroutine.step_done hpc]
      · rw [List.getElem?_set_ne hji, hg]

/-- Putting a goroutine in the place of one of the same volume that wrote as it did keeps the
    counts. -/
theorem labelWrites_set_of_wrote_eq {goroutines : List LabelGoroutine} {i : Nat}
    {g g' : LabelGoroutine} (hg : goroutines[i]? = some g) (hname : g'.volumeName = g.volumeName)
    (hwrote : g'.wrote = g.wrote) :
    labelWrites (goroutines.set i g') = labelWrites goroutines := by
  obtain ⟨hi, rfl⟩ := List.getElem?_eq_some_iff.1 hg
  funext n
  have hle := List.boole_getElem_le_countP
    (fun g => decide (g.volumeName = n ∧ g.wrote = true)) goroutines i hi
  simp only [labelWrites, List.countP_set _ _ _ _ hi, hname, hwrote] at hle ⊢
  omega

/-- Putting a goroutine that wrote in the place of one of the same volume that had not adds one
    write of that volume. -/
theorem labelWrites_set_of_write {goroutines : List LabelGoroutine} {i : Nat}
    {g g' : LabelGoroutine} (hg : goroutines[i]? = some g) (hname : g'.volumeName = g.volumeName)
    (hwrote : g.wrote = false) (hwrote' : g'.wrote = true) (n : String) :
    labelWrites (goroutines.set i g') n =
      labelWrites goroutines n + if n = g.volumeName then 1 else 0 := by
  obtain ⟨hi, rfl⟩ := List.getElem?_eq_some_iff.1 hg
  simp only [labelWrites, List.countP_set _ _ _ _ hi, hname, hwrote, hwrote', Bool.false_eq_true,
    and_false, and_true, decide_False, decide_eq_true_eq, if_false, Nat.sub_zero]
  by_cases hn : n = goroutines[i].volumeName
  · rw [if_pos hn.symm, if_pos hn]
  · rw [if_neg (Ne.symm hn), if_neg hn]

section
variable (drivePathLabelKey driveName : String) (initial : Store)

/-- What holds along every run, against the store the goroutines started from: the drive is
    untouched, each volume is the initial one after the writes made to it, and each goroutine
    knows what `Facts` says. -/
structure LabelInv (w : LabelWorld) : Prop where
  drive : w.store.drive = initial.drive
  volumes : ∀ n, w.store.volumes n =
    (initial.volumes n).map (relabelled drivePathLabelKey driveName · (labelWrites w.goroutines n))
  goroutines : ∀ g ∈ w.goroutines,
    g.Facts drivePathLabelKey driveName initial (labelWrites w.goroutines g.volumeName)

variable {drivePathLabelKey driveName initial}

/-- One call of any goroutine keeps the invariant. -/
theorem LabelInv.step (hnames : ∀ n v, initial.volumes n = some v → v.name = n) {w : LabelWorld}
    (hw : LabelInv drivePathLabelKey driveName initial w) (i : Nat) (ok : Bool) :
    LabelInv drivePathLabelKey driveName initial (w.step drivePathLabelKey driveName i ok) := by
  unfold LabelWorld.step
  split
  · exact hw
  cases hg : w.goroutines[i]? with
  | none => exact hw
  | some g =>
    have hmem := List.getElem?_mem hg
    have hname := LabelGoroutine.step_volumeName drivePathLabelKey driveName w.store g ok
    dsimp only
    rcases LabelGoroutine.step_spec hnames ok (hw.volumes g.volumeName) (hw.goroutines g hmem) with
      ⟨hstore, hwrote, hfacts⟩ | ⟨hwrote, hwrote', hdrive, hvolumes⟩
    · -- the store and the counts stay
      have hwrites := labelWrites_set_of_wrote_eq hg hname hwrote
      refine ⟨(congrArg Store.drive hstore).trans hw.drive, fun n => ?_, fun h hh => ?_⟩
      · rw [hstore, hwrites]
        exact hw.volumes n
      · rw [hwrites]
        rcases List.mem_or_eq_of_mem_set hh with hh | rfl
        · exact hw.goroutines h hh
        · rw [hname]
          exact hfacts
    · -- one more write of the goroutine's volume
      have hwrites := labelWrites_set_of_write hg hname hwrote hwrote'
      refine ⟨hdrive.trans hw.drive, fun n => ?_, fun h hh => ?_⟩
      · rw [hvolumes, hwrites]
        split_ifs with hn
        · rw [hn]
        · exact hw.volumes n
      · rw [hwrites]
        rcases List.mem_or_eq_of_mem_set hh with hh | rfl
        · exact (hw.goroutines h hh).mono (Nat.le_add_right _ _)
        · exact LabelGoroutine.Facts.of_wrote hwrote' _

/-- The invariant holds over every run. -/
theorem LabelInv.run (hnames : ∀ n v, initial.volumes n = some v → v.name = n)
    (calls : List (Nat × Bool)) :
    ∀ {w : LabelWorld}, LabelInv drivePathLabelKey driveName initial w →
      LabelInv drivePathLabelKey driveName initial (w.run drivePathLabelKey driveName calls) := by
  induction calls with
  | nil => exact id
  | cons c calls ih => exact fun hw => ih (hw.step hnames c.1 c.2)

end

/-- As `update` starts them, no goroutine has written and each is at its first `Get`. -/
theorem labelInv_start (drivePathLabelKey driveName : String) (env : Env) (drive : DirectCSIDrive)
    (store : Store) :
    LabelInv drivePathLabelKey driveName store ⟨store, labelGoroutines env drive⟩ := by
  have hwrites : ∀ n, labelWrites (labelGoroutines env drive) n = 0 := fun n =>
    List.countP_eq_zero.2 fun g hg => by
      obtain ⟨_, _, rfl⟩ := List.mem_map.1 hg
      simp [LabelGoroutine.start, LabelGoroutine.wrote]
  refine ⟨rfl, fun n => ?_, fun g hg => ?_⟩
  · rw [hwrites]
    simp
  · obtain ⟨_, _, rfl⟩ := List.mem_map.1 hg
    simp [LabelGoroutine.Facts, LabelGoroutine.start]

/-- Over every run, the goroutines label the volumes the drive's finalizers name, in order. -/
theorem labelWorld_run_volumeNames (env : Env) (drivePathLabelKey driveName : String)
    (drive : DirectCSIDrive) (store : Store) (calls : List (Nat × Bool)) :
    (LabelWorld.run drivePathLabelKey driveName ⟨store, labelGoroutines env drive⟩
      calls).goroutines.map (·.volumeName) = volumeNames env drive.finalizers := by
  rw [LabelWorld.run_volumeNames, labelGoroutines, List.map_map]
  exact List.map_id _

/-- A goroutine that has not written keeps the writes of its volume below the number of
    goroutines that label it. -/
theorem labelWrites_lt_count {g : LabelGoroutine} (hwrote : g.wrote = false) :
    ∀ {goroutines : List LabelGoroutine}, g ∈ goroutines →
      labelWrites goroutines g.volumeName < (goroutines.map (·.volumeName)).count g.volumeName
  | h :: t, hg => by
    have hle : labelWrites t g.volumeName ≤ (t.map (·.volumeName)).count g.volumeName := by
      rw [List.count_eq_countP, List.countP_map]
      exact List.countP_mono_left fun x _ hx => by simpa using (of_decide_eq_true hx).1
    have hcons : labelWrites (h :: t) g.volumeName =
        labelWrites t g.volumeName + if h.volumeName = g.volumeName ∧ h.wrote then 1 else 0 := by
      simp only [labelWrites, List.countP_cons, decide_eq_true_eq]
    rw [hcons, List.map_cons, List.count_cons]
    rcases List.mem_cons.1 hg with rfl | hg
    · simp only [hwrote, Bool.false_eq_true, and_false, if_false, beq_self_eq_true, if_true]
      omega
    · have := labelWrites_lt_count hwrote hg
      by_cases hn : h.volumeName = g.volumeName
      · simp only [hn, true_and, beq_self_eq_true, if_true]
        split_ifs <;> omega
      · simp only [hn, false_and, if_false, beq_iff_eq]
        omega

/-- A store of one volume holds it under its name. -/
theorem insert_name_eq (volume : DirectCSIVolume) :
    ∀ n v, (GoMap.empty.insert volume.name volume) n = some v → v.name = n := by
  intro n v h
  rw [GoMap.insert_apply] at h
  split_ifs at h with hn
  · cases h
    exact hn.symm
  · cases h

/-- Over every run of the label goroutines, the drive is untouched and each volume is its initial
    object with the drive-path label set and one version on per goroutine that wrote it. -/
theorem labelWorld_run_volumes (env : Env) (drivePathLabelKey : String) (drive : DirectCSIDrive)
    (store : Store) (hnames : ∀ n v, store.volumes n = some v → v.name = n)
    (calls : List (Nat × Bool)) :
    let driveName := env.sanitizeDrivePath drive.status.path
    let w := LabelWorld.run drivePathLabelKey driveName ⟨store, labelGoroutines env drive⟩ calls
    w.store.drive = store.drive ∧
      ∀ n, w.store.volumes n =
        (store.volumes n).map
          (relabelled drivePathLabelKey driveName · (labelWrites w.goroutines n)) :=
  let hw := LabelInv.run hnames calls
    (labelInv_start drivePathLabelKey (env.sanitizeDrivePath drive.status.path) env drive store)
  ⟨hw.drive, hw.volumes⟩

/-- Two goroutines for one volume, the second reading it before the first writes it. -/
theorem labelWorld_run_volumes_two_goroutines :
    let volume : DirectCSIVolume := { name := "v", labels := some [], status := {} }
    let drive : DirectCSIDrive :=
      { finalizers := ["drive/v", "drive/v"], status := { driveStatus := .inUse } }
    let store : Store := { drive := drive, volumes := GoMap.empty.insert volume.name volume }
    let driveName := sampleEnv.sanitizeDrivePath drive.status.path
    let w := LabelWorld.run "path" driveName ⟨store, labelGoroutines sampleEnv drive⟩
      [(0, true), (1, true), (0, true), (1, true), (1, true), (1, true)]
    (∀ n v, store.volumes n = some v → v.name = n) ∧
      w.store.drive = store.drive ∧
      ∀ n, w.store.volumes n =
        (store.volumes n).map (relabelled "path" driveName · (labelWrites w.goroutines n)) :=
  ⟨insert_name_eq _, labelWorld_run_volumes sampleEnv "path" _ _ (insert_name_eq _) _⟩

/-- A goroutine gives up on conflicts only when more than `DefaultRetry.Steps` finalizers of the
    drive name its volume: each conflict it sees is a write of another goroutine. -/
theorem labelWorld_run_gave_up (env : Env) (drivePathLabelKey : String) (drive : DirectCSIDrive)
    (store : Store) (hnames : ∀ n v, store.volumes n = some v → v.name = n)
    (calls : List (Nat × Bool)) :
    let w := LabelWorld.run drivePathLabelKey (env.sanitizeDrivePath drive.status.path)
      ⟨store, labelGoroutines env drive⟩ calls
    ∀ g ∈ w.goroutines, ∀ name, g.pc = .done (some (.conflict name)) →
      defaultRetrySteps < (volumeNames env drive.finalizers).count g.volumeName := by
  intro w g hg name hpc
  have hw := LabelInv.run hnames calls
    (labelInv_start drivePathLabelKey (env.sanitizeDrivePath drive.status.path) env drive store)
  have hgave : defaultRetrySteps ≤ labelWrites w.goroutines g.volumeName := by
    have hfacts := hw.goroutines g hg
    rw [LabelGoroutine.Facts, hpc] at hfacts
    exact hfacts name rfl
  calc defaultRetrySteps ≤ labelWrites w.goroutines g.volumeName := hgave
    _ < (w.goroutines.map (·.volumeName)).count g.volumeName :=
      labelWrites_lt_count (by simp [LabelGoroutine.wrote, hpc]) hg
    _ = (volumeNames env drive.finalizers).count g.volumeName := by
      rw [labelWorld_run_volumeNames]


/-- The bound is reached: six finalizers name one volume, and goroutine `0` reads it before each
    write of the five others, so all five of its attempts conflict. -/
theorem labelWorld_run_gave_up_six_goroutines :
    let volume : DirectCSIVolume := { name := "v", labels := some [], status := {} }
    let drive : DirectCSIDrive :=
      { finalizers := List.replicate 6 "drive/v", status := { driveStatus := .inUse } }
    let store : Store := { drive := drive, volumes := GoMap.empty.insert volume.name volume }
    let calls := [(0, true)] ++
      ((List.range 5).map fun j => [(j + 1, true), (j + 1, true), (0, true), (0, true)]).flatten
    let w := LabelWorld.run "path" (sampleEnv.sanitizeDrivePath drive.status.path)
      ⟨store, labelGoroutines sampleEnv drive⟩ calls
    (∀ n v, store.volumes n = some v → v.name = n) ∧
      (w.goroutines[0]?).map (·.pc) = some (.done (some (.conflict "v"))) ∧
      ∀ g ∈ w.goroutines, ∀ name, g.pc = .done (some (.conflict name)) →
        defaultRetrySteps < (volumeNames sampleEnv drive.finalizers).count g.volumeName :=
  ⟨insert_name_eq _, rfl, labelWorld_run_gave_up sampleEnv "path" _ _ (insert_name_eq _) _⟩

/-- A goroutine whose volume has labels returns without error after three calls in a row that go
    through, when no goroutine panicked and its retries are not used up. -/
theorem labelWorld_run_alone (env : Env) (drivePathLabelKey : String) (drive : DirectCSIDrive)
    (store : Store) (hnames : ∀ n v, store.volumes n = some v → v.name = n)
    (calls : List (Nat × Bool)) (i : Nat) (g : LabelGoroutine) (v : DirectCSIVolume)
    (labels : List (String × String)) :
    let driveName := env.sanitizeDrivePath drive.status.path
    let w := LabelWorld.run drivePathLabelKey driveName ⟨store, labelGoroutines env drive⟩ calls
    w.goroutines[i]? = some g → (∀ err, g.pc ≠ .done err) →
      w.goroutines.any (·.pc.panicked) = false →
      store.volumes g.volumeName = some v → v.labels = some labels →
      (volumeNames env drive.finalizers).count g.volumeName ≤ defaultRetrySteps →
      ((w.run drivePathLabelKey driveName [(i, true), (i, true), (i, true)]).goroutines[i]?).map
        (·.pc) = some (.done none) := by
  intro driveName w hg hpc hpanic hv hl hcount
  have hw : LabelInv drivePathLabelKey driveName store w :=
    LabelInv.run hnames calls (labelInv_start drivePathLabelKey driveName env drive store)
  have hmem := List.getElem?_mem hg
  have hstored : w.store.volumes g.volumeName =
      some (relabelled drivePathLabelKey driveName v (labelWrites w.goroutines g.volumeName)) := by
    rw [hw.volumes, hv]
    rfl
  have hname : ∀ k, (relabelled drivePathLabelKey driveName v k).name = g.volumeName := fun k => by
    rw [relabelled_name, hnames _ _ hv]
  have hlabels : ∀ k, ∃ l, (relabelled drivePathLabelKey driveName v k).labels = some l := by
    rintro (_ | k)
    · exact ⟨labels, hl⟩
    · exact ⟨setLabel labels drivePathLabelKey driveName,
        by simp [relabelled, setDrivePathLabel, hl]⟩
  have hwrote : g.wrote = false :=
    Bool.eq_false_iff.2 fun h => hpc none (LabelGoroutine.pc_of_wrote h)
  have hfew : labelWrites w.goroutines g.volumeName < defaultRetrySteps := by
    have := labelWrites_lt_count hwrote hmem
    rw [labelWorld_run_volumeNames] at this
    omega
  simp only [LabelWorld.run, List.foldl_cons, List.foldl_nil]
  obtain ⟨name, steps, _ | copy | err⟩ := g
  · -- at `Get`: a current copy, then its write
    obtain ⟨l, hl'⟩ := hlabels (labelWrites w.goroutines name)
    obtain ⟨hs1, hg1, hp1⟩ := LabelWorld.step_eq hpanic hg (LabelGoroutine.step_get rfl hstored) rfl
    obtain ⟨-, hg2, -⟩ := LabelWorld.step_eq hp1 hg1
      (LabelGoroutine.step_update_current rfl hl' (by rw [hs1, hname]; exact hstored)) rfl
    rw [LabelWorld.step_getElem?_of_done hg2 rfl]
    rfl
  · -- at `Update` of a copy after `k` writes
    obtain ⟨v', k, hv', rfl, hk, hsteps⟩ := hw.goroutines _ hmem
    obtain rfl : v' = v := Option.some.inj (hv'.symm.trans hv)
    obtain ⟨l, hl'⟩ := hlabels k
    by_cases hkw : k = labelWrites w.goroutines name
    · -- the copy is current: the write
      rw [← hkw] at hstored
      obtain ⟨-, hg1, -⟩ := LabelWorld.step_eq hpanic hg
        (LabelGoroutine.step_update_current rfl hl' (by rw [hname]; exact hstored)) rfl
      rw [LabelWorld.step_getElem?_of_done (LabelWorld.step_getElem?_of_done hg1 rfl i true) rfl]
      rfl
    · -- the copy is stale: a conflict, a current copy, then its write
      obtain ⟨l', hl''⟩ := hlabels (labelWrites w.goroutines name)
      obtain ⟨hs1, hg1, hp1⟩ := LabelWorld.step_eq hpanic hg
        (LabelGoroutine.step_update_stale rfl hl' (by rw [hname]; exact hstored)
          (by simp only [relabelled_resourceVersion]; omega)
          (by dsimp only at hsteps hfew hk ⊢; omega) true) rfl
      obtain ⟨hs2, hg2, hp2⟩ := LabelWorld.step_eq hp1 hg1
        (LabelGoroutine.step_get rfl (by rw [hs1]; exact hstored)) rfl
      obtain ⟨-, hg3, -⟩ := LabelWorld.step_eq hp2 hg2
        (LabelGoroutine.step_update_current rfl hl'' (by rw [hs2, hs1, hname]; exact hstored)) rfl
      rw [hg3]
      rfl
  · exact absurd rfl (hpc err)

/-- The goroutine of a volume with labels, alone on its drive, run from its start. -/
theorem labelWorld_run_alone_from_start :
    let volume : DirectCSIVolume := { name := "v", labels := some [], status := {} }
    let drive : DirectCSIDrive := { finalizers := ["drive/v"], status := { driveStatus := .inUse } }
    let store : Store := { drive := drive, volumes := GoMap.empty.insert volume.name volume }
    let driveName := sampleEnv.sanitizeDrivePath drive.status.path
    let w := LabelWorld.run "path" driveName ⟨store, labelGoroutines sampleEnv drive⟩ []
    let g := LabelGoroutine.start "v"
    (∀ n v, store.volumes n = some v → v.name = n) ∧ w.goroutines[0]? = some g ∧
      (∀ err, g.pc ≠ .done err) ∧ w.goroutines.any (·.pc.panicked) = false ∧
      store.volumes g.volumeName = some volume ∧ volume.labels = some [] ∧
      (volumeNames sampleEnv drive.finalizers).count g.volumeName ≤ defaultRetrySteps ∧
      ((w.run "path" driveName [(0, true), (0, true), (0, true)]).goroutines[0]?).map (·.pc) =
        some (.done none) :=
  ⟨insert_name_eq _, rfl, fun _ => nofun, rfl, rfl, rfl, by decide,
    labelWorld_run_alone sampleEnv "path" _ _ (insert_name_eq _) [] 0 _ _ [] rfl (fun _ => nofun)
      rfl rfl rfl (by decide)⟩

end DirectPV
