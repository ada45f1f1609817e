import DirectPV.Go

/-! The libudev wire decoder `parse` of package `uevent`.

    A message is the signature `"libudev\x00"`, the magic `0xfeedcafe` in network byte order, four
    bytes the decoder ignores, the payload offset at byte 16, and from that offset on a payload of
    `KEY=VALUE` (or bare `KEY`) tokens separated by NUL. The decoder splits the payload at NUL,
    skips empty fields, splits each token at its first `=` and writes the pair into the event map,
    so the last occurrence of a key wins.

    `parse_libudevMessage` is the round trip: on every well-formed message the decoder returns the
    map that sends each key to the value of its last occurrence. Only the signature check guards
    the reads of the header, so a message that carries the signature and is too short for the
    magic or the offset byte makes the decoder panic (`parse_panics_iff`). -/

namespace DirectPV

/-- `libudev`: the signature. -/
def libudev : Bytes := ascii "libudev" ++ [0]

/-- `libudevMagic`. -/
def libudevMagic : Nat := 0xfeedcafe

/-- `fieldDelimiter`. -/
def fieldDelimiter : UInt8 := 0

/-- The byte `=`. -/
def equalsSign : UInt8 := 61

/-- `binary.BigEndian.Uint32`: the first four bytes, most significant first; fewer is an index
    panic. -/
def bigEndianUint32 : Bytes → Except GoError Nat
  | b0 :: b1 :: b2 :: b3 :: _ =>
    .ok (b0.toNat * 2 ^ 24 + b1.toNat * 2 ^ 16 + b2.toNat * 2 ^ 8 + b3.toNat)
  | b => .error (.panic ("runtime error: index out of range [3] with length " ++ toString b.length))

/-- `strings.SplitN(s, "=", 2)`: the text before the first `=` and the text after it, or `s`
    alone when it has no `=`. -/
def splitN2 (s : Bytes) : List Bytes :=
  match s.span (· ≠ equalsSign) with
  | (_, []) => [s]
  | (key, _ :: value) => [key, value]

/-- One iteration of the field loop of `parse`. -/
def parseField (event : GoMap Bytes Bytes) (field : Bytes) : GoMap Bytes Bytes :=
  if field.length = 0 then event
  else match splitN2 field with
    | [key] => event.insert key []
    | [key, value] => event.insert key value
    | _ => event

/-- `parse`. -/
def parse (msg : Bytes) : Except GoError (GoMap Bytes Bytes) := do
  if !libudev.isPrefixOf msg then throw (.text "libudev signature not found")
  let magic ← bigEndianUint32 (msg.drop 8)
  if magic ≠ libudevMagic then
    throw (.text ("libudev magic mismatch; expected: " ++ toString libudevMagic ++ ", got: " ++
      toString magic))
  let offset ← match msg[16]? with
    | some b => pure b.toNat
    | none => throw (.panic ("runtime error: index out of range [16] with length " ++
        toString msg.length))
  if offset < 17 then throw (.text ("payload offset " ++ toString offset ++ " is not more than 17"))
  if offset > msg.length then
    throw (.text ("payload offset " ++ toString offset ++ " beyond message length " ++
      toString msg.length))
  pure (((msg.drop offset).splitOn fieldDelimiter).foldl parseField GoMap.empty)

/-- `parse` once the signature, the magic and the offset checks pass: the field loop over the
    payload split at NUL. -/
theorem parse_of_header (msg : Bytes) (hsignature : libudev.isPrefixOf msg = true)
    (hmagic : bigEndianUint32 (msg.drop 8) = .ok libudevMagic) (offset : UInt8)
    (h16 : msg[16]? = some offset) (hoffset : 17 ≤ offset.toNat) (hlen : offset.toNat ≤ msg.length) :
    parse msg =
      .ok (((msg.drop offset.toNat).splitOn fieldDelimiter).foldl parseField GoMap.empty) := by
  simp [parse, hsignature, hmagic, h16, Nat.not_lt.2 hoffset, Nat.not_lt.2 hlen, bind, Except.bind,
    pure, Except.pure]

theorem bigEndianUint32_ne_errNonDeviceEvent (b : Bytes) :
    bigEndianUint32 b ≠ .error .errNonDeviceEvent := by
  unfold bigEndianUint32; split <;> simp

/-- The decoder fails only with its own texts or an index panic. -/
theorem parse_ne_errNonDeviceEvent (msg : Bytes) : parse msg ≠ .error .errNonDeviceEvent := by
  unfold parse
  simp only [bind, Except.bind, pure, Except.pure, throw, throwThe, MonadExceptOf.throw]
  intro h
  repeat' split at h
  all_goals simp_all [bigEndianUint32_ne_errNonDeviceEvent]

/-! ### Short messages -/

/-- `binary.BigEndian.Uint32` panics exactly on fewer than four bytes. -/
theorem bigEndianUint32_panics_iff (b : Bytes) :
    (∃ s, bigEndianUint32 b = .error (.panic s)) ↔ b.length < 4 := by
  rcases b with _ | ⟨b0, _ | ⟨b1, _ | ⟨b2, _ | ⟨b3, t⟩⟩⟩⟩ <;> simp [bigEndianUint32]

/-- `parse` panics exactly on a message with the signature that ends inside the magic, or with
    the magic that ends before byte 16: only the signature check guards `msg[8:]` and `msg[16]`. -/
theorem parse_panics_iff (msg : Bytes) :
    (∃ s, parse msg = .error (.panic s)) ↔
      libudev.isPrefixOf msg = true ∧
        (msg.length < 12 ∨ bigEndianUint32 (msg.drop 8) = .ok libudevMagic ∧ msg.length < 17) := by
  unfold parse
  simp only [bind, Except.bind, pure, Except.pure, throw, throwThe, MonadExceptOf.throw]
  cases hsig : libudev.isPrefixOf msg
  · simp
  · have h8 : 8 ≤ msg.length := (List.isPrefixOf_iff_prefix.1 hsig).length_le
    have hpanic := bigEndianUint32_panics_iff (msg.drop 8)
    rw [List.length_drop] at hpanic
    simp only [Bool.not_true, Bool.false_eq_true, if_false, true_and]
    cases hb : bigEndianUint32 (msg.drop 8) with
    | error e =>
      simp only [hb, Except.error.injEq] at hpanic
      simp only [Except.error.injEq, hpanic, reduceCtorEq, false_and, or_false]
      constructor <;> intro <;> omega
    | ok magic =>
      have h12 : 12 ≤ msg.length := by
        by_contra h
        obtain ⟨s, hs⟩ := hpanic.2 (by omega)
        rw [hb] at hs
        cases hs
      simp only [Except.ok.injEq]
      by_cases hm : magic = libudevMagic
      · rw [if_neg (not_not.2 hm)]
        cases h16 : msg[16]? with
        | none =>
          have := List.getElem?_eq_none_iff.1 h16
          exact iff_of_true ⟨_, rfl⟩ (by omega)
        | some b =>
          have := (List.getElem?_eq_some_iff.1 h16).1
          refine iff_of_false (fun ⟨s, hs⟩ => ?_) (by omega)
          dsimp only at hs
          split_ifs at hs <;> cases hs
      · rw [if_pos hm]
        exact iff_of_false (fun ⟨s, hs⟩ => by cases hs) (by omega)

/-- The signature and the magic without the rest of the header: `msg[16]` is out of range. -/
example : parse (libudev ++ [0xfe, 0xed, 0xca, 0xfe]) =
    .error (.panic "runtime error: index out of range [16] with length 12") := rfl

/-! ### Well-formed messages -/

/-- The token of a pair: `KEY=VALUE`. -/
def token (kv : Bytes × Bytes) : Bytes := kv.1 ++ equalsSign :: kv.2

/-- A message as a libudev monitor sends it: the four bytes `reserved` after the magic, the
    payload offset `offset`, `pad` up to that offset, then the tokens separated by NUL. -/
def libudevMessage (reserved : Bytes) (offset : UInt8) (pad : Bytes) (kvs : List (Bytes × Bytes)) :
    Bytes :=
  libudev ++ [0xfe, 0xed, 0xca, 0xfe] ++ reserved ++ offset :: pad ++
    [fieldDelimiter].intercalate (kvs.map token)

/-- The value of the last occurrence of key `k` in `kvs`: a later one, else this one. -/
def lastValue : List (Bytes × Bytes) → Bytes → Option Bytes
  | [], _ => none
  | kv :: kvs, k => (lastValue kvs k).or (if kv.1 = k then some kv.2 else none)

/-- A key without `=` splits off at the `=` that follows it. -/
theorem splitN2_token (kv : Bytes × Bytes) (h : equalsSign ∉ kv.1) :
    splitN2 (token kv) = [kv.1, kv.2] := by
  have hk : ∀ a ∈ kv.1, (!decide (a = equalsSign)) = true := fun a ha => by
    simp only [Bool.not_eq_true', decide_eq_false_iff_not]
    rintro rfl
    exact h ha
  simp [splitN2, token, List.span_eq_take_drop, List.takeWhile_append_of_pos hk,
    List.dropWhile_append_of_pos hk]

/-- The field loop over the tokens of `kvs` lays the last occurrence of each key over `event`. -/
theorem foldl_parseField_tokens (kvs : List (Bytes × Bytes)) (hkvs : ∀ kv ∈ kvs, equalsSign ∉ kv.1)
    (event : GoMap Bytes Bytes) :
    (kvs.map token).foldl parseField event = fun k => (lastValue kvs k).or (event k) := by
  induction kvs generalizing event with
  | nil => rfl
  | cons kv kvs ih =>
    have hfield : parseField event (token kv) = event.insert kv.1 kv.2 := by
      rw [parseField, if_neg (by simp [token]), splitN2_token kv (hkvs kv (List.mem_cons_self _ _))]
    rw [List.map_cons, List.foldl_cons, hfield, ih (fun kv h => hkvs kv (List.mem_cons_of_mem _ h))]
    funext k
    rw [lastValue, GoMap.insert_apply]
    by_cases h : kv.1 = k
    · subst h; cases lastValue kvs kv.1 <;> simp
    · simp [h, Ne.symm h]

/-- Splitting the payload at NUL gives back the tokens; an empty payload is one empty field. -/
theorem payload_fields (kvs : List (Bytes × Bytes)) (hkvs : ∀ kv ∈ kvs, fieldDelimiter ∉ token kv) :
    ([fieldDelimiter].intercalate (kvs.map token)).splitOn fieldDelimiter =
      if kvs = [] then [[]] else kvs.map token := by
  split
  · subst_vars; rfl
  · refine List.splitOn_intercalate _ _ (fun l hl => ?_) (by simpa)
    obtain ⟨kv, hkv, rfl⟩ := List.mem_map.1 hl
    exact hkvs kv hkv

/-- The round trip: on every message a libudev monitor sends, `parse` returns the map sending
    each key to the value of its last occurrence, and no other key. -/
theorem parse_libudevMessage (reserved : Bytes) (hreserved : reserved.length = 4) (offset : UInt8)
    (hoffset : 17 ≤ offset.toNat) (pad : Bytes) (hpad : pad.length = offset.toNat - 17)
    (kvs : List (Bytes × Bytes))
    (hkvs : ∀ kv ∈ kvs, equalsSign ∉ kv.1 ∧ fieldDelimiter ∉ kv.1 ∧ fieldDelimiter ∉ kv.2) :
    parse (libudevMessage reserved offset pad kvs) = .ok (lastValue kvs) := by
  set header := libudev ++ [0xfe, 0xed, 0xca, 0xfe] ++ reserved ++ offset :: pad
  set payload := [fieldDelimiter].intercalate (kvs.map token)
  have hmsg : libudevMessage reserved offset pad kvs = header ++ payload := rfl
  have hheader : header.length = offset.toNat := by
    simp [header, libudev, ascii, hreserved, hpad]; omega
  have hsignature : libudev.isPrefixOf (header ++ payload) = true := by
    simp [header, List.isPrefixOf_iff_prefix, List.append_assoc]
  have hdrop8 : (header ++ payload).drop 8 =
      [0xfe, 0xed, 0xca, 0xfe] ++ reserved ++ offset :: pad ++ payload := by
    simp [header, libudev, ascii, List.append_assoc]
  have h16 : (header ++ payload)[16]? = some offset := by
    have hsplit : header ++ payload =
        (libudev ++ [0xfe, 0xed, 0xca, 0xfe] ++ reserved) ++ offset :: (pad ++ payload) := by
      simp [header]
    rw [hsplit, List.getElem?_append_right (by simp [libudev, ascii, hreserved])]
    simp [libudev, ascii, hreserved]
  have hfields : ((header ++ payload).drop offset.toNat).splitOn fieldDelimiter =
      if kvs = [] then [[]] else kvs.map token := by
    rw [← hheader, List.drop_left]
    exact payload_fields kvs fun kv hkv => by
      simpa [token] using ⟨(hkvs kv hkv).2.1, by decide, (hkvs kv hkv).2.2⟩
  have hmap : (if kvs = [] then [[]] else kvs.map token).foldl parseField GoMap.empty =
      lastValue kvs := by
    split
    · subst_vars; rfl
    · rw [foldl_parseField_tokens kvs fun kv hkv => (hkvs kv hkv).1]
      funext k
      simp
  rw [hmsg, parse_of_header _ hsignature (by rw [hdrop8]; rfl) offset h16 hoffset
    (by simp [← hheader]), hfields, hmap]

/-- A message with the shortest header and the one property `ACTION=add`. -/
theorem parse_libudevMessage_action_add :
    [0, 0, 0, 0].length = 4 ∧ 17 ≤ (17 : UInt8).toNat ∧
      ([] : Bytes).length = (17 : UInt8).toNat - 17 ∧
      (∀ kv ∈ [(ascii "ACTION", ascii "add")],
        equalsSign ∉ kv.1 ∧ fieldDelimiter ∉ kv.1 ∧ fieldDelimiter ∉ kv.2) ∧
      parse (libudevMessage [0, 0, 0, 0] 17 [] [(ascii "ACTION", ascii "add")]) =
        .ok (lastValue [(ascii "ACTION", ascii "add")]) :=
  ⟨rfl, by decide, rfl, by decide,
    parse_libudevMessage [0, 0, 0, 0] rfl 17 (by decide) [] rfl _ (by decide)⟩

end DirectPV
