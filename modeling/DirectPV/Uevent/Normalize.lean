import DirectPV.Go

/-! `normalizeUUID` of package `uevent` (`pkg/uevent/listener.go`): the spelling of an MD UUID
    that the event decoder stores.

    The function deletes every `:` and `-` of its input. When more than 20 bytes remain it regroups
    them as `u[:8]-u[8:12]-u[12:16]-u[16:20]-u[20:]`; otherwise it returns the input as it is.
    Strings are byte lists, so lengths and slices count bytes, as Go's do.

    The regrouping only inserts `-`, so it keeps the separator-free content
    (`separatorFree_normalizeUUID`), and the function is a canonical form: idempotent, equal on
    inputs with the same long enough content, and `8-4-4-4-12` on a 32-byte one
    (`normalizeUUID_canonical`). -/

namespace DirectPV

/-- The byte `:`. -/
def colon : UInt8 := 58

/-- The byte `-`. -/
def dash : UInt8 := 45

/-- `strings.ReplaceAll(s, sep, "")` for a one-byte `sep`. -/
def deleteAll (s : Bytes) (sep : UInt8) : Bytes := s.filter (· ≠ sep)

/-- `strings.ReplaceAll(strings.ReplaceAll(uuid, ":", ""), "-", "")`: the separator-free content. -/
def separatorFree (uuid : Bytes) : Bytes := deleteAll (deleteAll uuid colon) dash

/-- `fmt.Sprintf("%v-%v-%v-%v-%v", u[:8], u[8:12], u[12:16], u[16:20], u[20:])`. -/
def groupUUID (u : Bytes) : Bytes :=
  u.take 8 ++ dash :: (u.drop 8).take 4 ++ dash :: (u.drop 12).take 4 ++ dash ::
    (u.drop 16).take 4 ++ dash :: u.drop 20

/-- `normalizeUUID`. -/
def normalizeUUID (uuid : Bytes) : Bytes :=
  let u := separatorFree uuid
  if u.length > 20 then groupUUID u else uuid

theorem normalizeUUID_eq (uuid : Bytes) :
    normalizeUUID uuid =
      if 20 < (separatorFree uuid).length then groupUUID (separatorFree uuid) else uuid := rfl

/-! ### The separator-free content -/

theorem separatorFree_eq_filter (s : Bytes) :
    separatorFree s = s.filter fun c => c ≠ colon ∧ c ≠ dash := by
  simp only [separatorFree, deleteAll, List.filter_filter]
  congr 1
  funext c
  rw [Bool.decide_and, Bool.and_comm]

@[simp] theorem separatorFree_append (s t : Bytes) :
    separatorFree (s ++ t) = separatorFree s ++ separatorFree t := by
  simp [separatorFree_eq_filter]

@[simp] theorem separatorFree_dash_cons (s : Bytes) : separatorFree (dash :: s) = separatorFree s := by
  simp [separatorFree_eq_filter]

/-- The content of a string is free of separators, so deleting them again changes nothing. -/
@[simp] theorem separatorFree_separatorFree (s : Bytes) :
    separatorFree (separatorFree s) = separatorFree s := by
  simp only [separatorFree_eq_filter, List.filter_filter]
  congr 1
  funext c
  simp only [Bool.and_self]

/-- Every slice of a separator-free string is separator-free. -/
theorem separatorFree_take_drop {u : Bytes} (hu : separatorFree u = u) (i j : Nat) :
    separatorFree ((u.drop i).take j) = (u.drop i).take j := by
  rw [separatorFree_eq_filter, List.filter_eq_self] at hu ⊢
  exact fun c hc => hu c (List.mem_of_mem_drop (List.mem_of_mem_take hc))

/-- The five groups put back together are the string. -/
theorem groups_append (u : Bytes) :
    u.take 8 ++ (u.drop 8).take 4 ++ (u.drop 12).take 4 ++ (u.drop 16).take 4 ++ u.drop 20 = u := by
  conv_rhs => rw [← List.take_append_drop 8 u, ← List.take_append_drop 4 (u.drop 8),
    ← List.take_append_drop 4 ((u.drop 8).drop 4), ← List.take_append_drop 4 (((u.drop 8).drop 4).drop 4)]
  simp only [List.drop_drop, List.append_assoc]

/-- Regrouping a separator-free string only inserts separators. -/
theorem separatorFree_groupUUID {u : Bytes} (hu : separatorFree u = u) :
    separatorFree (groupUUID u) = u := by
  have hslice := separatorFree_take_drop hu
  have h0 : separatorFree (u.take 8) = u.take 8 := by simpa using hslice 0 8
  have h20 : separatorFree (u.drop 20) = u.drop 20 := by
    simpa using (List.take_length (u.drop 20)) ▸ hslice 20 (u.drop 20).length
  simp only [groupUUID, separatorFree_append, separatorFree_dash_cons, List.cons_append, h0, h20,
    hslice]
  simpa only [List.append_assoc] using groups_append u

/-- `normalizeUUID` keeps the separator-free content of its input. -/
theorem separatorFree_normalizeUUID (uuid : Bytes) :
    separatorFree (normalizeUUID uuid) = separatorFree uuid := by
  rw [normalizeUUID_eq]
  split
  · exact separatorFree_groupUUID (separatorFree_separatorFree uuid)
  · rfl

/-! ### A canonical form -/

/-- `normalizeUUID` is a canonical form of UUID spellings: idempotent, content-preserving, one
    string for two spellings of a content over 20 bytes, and `8-4-4-4-12` for 32 bytes. -/
theorem normalizeUUID_canonical :
    (∀ x, normalizeUUID (normalizeUUID x) = normalizeUUID x) ∧
    (∀ x, separatorFree (normalizeUUID x) = separatorFree x) ∧
    (∀ x y, separatorFree x = separatorFree y → 20 < (separatorFree x).length →
      normalizeUUID x = normalizeUUID y) ∧
    (∀ x, (separatorFree x).length = 32 →
      ∃ a b c d e : Bytes, normalizeUUID x = a ++ dash :: b ++ dash :: c ++ dash :: d ++ dash :: e ∧
        a.length = 8 ∧ b.length = 4 ∧ c.length = 4 ∧ d.length = 4 ∧ e.length = 12 ∧
        a ++ b ++ c ++ d ++ e = separatorFree x) := by
  refine ⟨fun x => ?_, separatorFree_normalizeUUID, fun x y hxy hlen => ?_, fun x hlen => ?_⟩
  · rw [normalizeUUID_eq (normalizeUUID x), separatorFree_normalizeUUID]
    split_ifs with h
    · rw [normalizeUUID_eq, if_pos h]
    · rfl
  · rw [normalizeUUID_eq, normalizeUUID_eq, ← hxy, if_pos hlen, if_pos hlen]
  · refine ⟨_, _, _, _, _, ?_, ?_, ?_, ?_, ?_, ?_, groups_append (separatorFree x)⟩
    · rw [normalizeUUID_eq, if_pos (by omega)]; rfl
    all_goals simp [hlen]

/-- The colon-separated MD UUID that `mdadm` reports, in the dashed spelling. -/
example : normalizeUUID (ascii "a1b2c3d4:e5f60718:293a4b5c:6d7e8f90") =
    ascii "a1b2c3d4-e5f6-0718-293a-4b5c6d7e8f90" := by decide

end DirectPV
