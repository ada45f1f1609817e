import DirectPV.Uevent.Listener

/-! The socket read path of package `uevent`: `msgPeek`, `msgRead` and `ReadMsg`
    (`pkg/uevent/listener.go`).

    The netlink socket is its receive queue. `recvfrom` copies the first `min D (len buf)` bytes of
    the head datagram, of length `D`; with `MSG_PEEK` the datagram stays queued, without it the
    datagram leaves the queue and what did not fit is lost. A call on an empty queue blocks, and a
    socket in error answers every call with that error. The socket records the calls it received.

    `msgPeek` peeks with a buffer of one page and, while the datagram fills the buffer, again with
    one page more; on a page size `P ≥ 1` it makes exactly `⌊D/P⌋ + 1` peeks, so `ReadMsg` hands
    over the whole datagram (`readMsg_whole_datagram`). `Run` on the socket then pushes the events
    and returns the error that `Run` over the datagrams does (`Socket.run_eq_run`). -/

namespace DirectPV

/-- The receive side of the uevent socket: the datagrams queued, the error every call reports
    instead (if any), and the calls received so far, each as its buffer's length and whether it
    peeked. -/
structure Socket where
  queue : List Bytes
  fault : Option GoError := none
  calls : List (Nat × Bool) := []

/-- `errEmptyBuf`. -/
def errEmptyBuf : GoError := .text "buffer is empty"

/-- `syscall.Recvfrom(sockfd, buf, flags)`, with `MSG_PEEK` when `peek`: the byte count and the
    buffer after the call, or the socket's error; `none` on an empty queue, where the call
    blocks. -/
def Socket.recvfrom (sock : Socket) (buf : Bytes) (peek : Bool) :
    Option (Except GoError (Nat × Bytes) × Socket) :=
  let logged := { sock with calls := sock.calls ++ [(buf.length, peek)] }
  match sock.fault, sock.queue with
  | some err, _ => some (.error err, logged)
  | none, [] => none
  | none, d :: ds =>
    let n := min d.length buf.length
    some (.ok (n, d.take n ++ buf.drop n), if peek then logged else { logged with queue := ds })

/-- The loop of `msgPeek` from buffer `buf`, for at most `fuel` more peeks: the byte count and the
    buffer it breaks with, or the error of a peek; `none` when a peek blocks or the fuel runs out. -/
def msgPeekLoop (pageSize : Nat) : Nat → Bytes → Socket →
    Option (Except GoError (Nat × Bytes) × Socket)
  | 0, _, _ => none
  | fuel + 1, buf, sock =>
    match sock.recvfrom buf true with
    | none => none
    | some (.error err, sock') => some (.error err, sock')
    | some (.ok (n, buf'), sock') =>
      if n < buf'.length then some (.ok (n, buf'), sock')
      else msgPeekLoop pageSize fuel (List.replicate (buf'.length + pageSize) 0) sock'

/-- `msgPeek`: the first buffer is one page of zeros. -/
def msgPeek (pageSize fuel : Nat) (sock : Socket) : Option (Except GoError (Nat × Bytes) × Socket) :=
  msgPeekLoop pageSize fuel (List.replicate pageSize 0) sock

/-- `msgRead`: a `nil` buffer is refused; otherwise one consuming read, the buffer cut to the byte
    count. -/
def msgRead (buf : Option Bytes) (sock : Socket) : Option (Except GoError Bytes × Socket) :=
  match buf with
  | none => some (.error errEmptyBuf, sock)
  | some buf =>
    match sock.recvfrom buf false with
    | none => none
    | some (.error err, sock') => some (.error err, sock')
    | some (.ok (n, buf'), sock') => some (.ok (buf'.take n), sock')

/-- `ReadMsg`. The source calls `c.msgPeek()` on an undeclared `c`; it is read as the receiver. -/
def readMsg (pageSize fuel : Nat) (sock : Socket) : Option (Except GoError Bytes × Socket) :=
  match msgPeek pageSize fuel sock with
  | none => none
  | some (.error err, sock') => some (.error err, sock')
  | some (.ok (_, buf), sock') => msgRead (some buf) sock'

/-! ### One call -/

/-- A call on a healthy socket with datagram `d` at its head. -/
theorem Socket.recvfrom_head {sock : Socket} {d : Bytes} {rest : List Bytes}
    (hq : sock.queue = d :: rest) (hf : sock.fault = none) (buf : Bytes) (peek : Bool) :
    sock.recvfrom buf peek =
      some (.ok (min d.length buf.length, d.take (min d.length buf.length) ++
          buf.drop (min d.length buf.length)),
        { sock with
          queue := if peek then sock.queue else rest
          calls := sock.calls ++ [(buf.length, peek)] }) := by
  unfold Socket.recvfrom
  rw [hf, hq]
  cases peek <;> rfl

section
variable {sock : Socket} {d : Bytes} {rest : List Bytes}

/-- A call with a zeroed buffer longer than the datagram: all of it, then zeros. -/
theorem Socket.recvfrom_of_lt (hq : sock.queue = d :: rest) (hf : sock.fault = none) {len : Nat}
    (hlen : d.length < len) (peek : Bool) :
    sock.recvfrom (List.replicate len 0) peek =
      some (.ok (d.length, d ++ List.replicate (len - d.length) 0),
        { sock with
          queue := if peek then sock.queue else rest
          calls := sock.calls ++ [(len, peek)] }) := by
  rw [Socket.recvfrom_head hq hf, List.length_replicate, Nat.min_eq_left hlen.le, List.take_length,
    List.drop_replicate]

/-- A call with a zeroed buffer the datagram fills: the buffer's length of it. -/
theorem Socket.recvfrom_of_le (hq : sock.queue = d :: rest) (hf : sock.fault = none) {len : Nat}
    (hlen : len ≤ d.length) (peek : Bool) :
    sock.recvfrom (List.replicate len 0) peek =
      some (.ok (len, d.take len),
        { sock with
          queue := if peek then sock.queue else rest
          calls := sock.calls ++ [(len, peek)] }) := by
  rw [Socket.recvfrom_head hq hf, List.length_replicate, Nat.min_eq_right hlen,
    List.drop_replicate, Nat.sub_self, List.replicate_zero, List.append_nil]

end

/-! ### The peek loop -/

/-- From a buffer of `m` pages, with `r` more pages to go before the datagram fits: the peeks
    with buffers of `m`, `m + 1`, …, `m + r` pages, and the last buffer holding the datagram. -/
theorem msgPeekLoop_spec {pageSize : Nat} (hpage : 0 < pageSize) {d : Bytes} {rest : List Bytes}
    (r : Nat) : ∀ (m fuel : Nat) (sock : Socket),
    sock.queue = d :: rest → sock.fault = none → r + m = d.length / pageSize + 1 → r < fuel →
    msgPeekLoop pageSize fuel (List.replicate (m * pageSize) 0) sock =
      some (.ok (d.length, d ++ List.replicate ((r + m) * pageSize - d.length) 0),
        { sock with
          calls := sock.calls ++ (List.range (r + 1)).map fun i => ((i + m) * pageSize, true) }) := by
  induction r with
  | zero =>
    intro m fuel sock hq hf hpages hfuel
    obtain ⟨fuel, rfl⟩ : ∃ f, fuel = f + 1 := ⟨fuel - 1, by omega⟩
    have hlt : d.length < m * pageSize := (Nat.div_lt_iff_lt_mul hpage).1 (by omega)
    rw [msgPeekLoop, Socket.recvfrom_of_lt hq hf hlt]
    simp only [List.length_append, List.length_replicate, if_true]
    rw [if_pos (by omega)]
    simp [List.range_succ]
  | succ r ih =>
    intro m fuel sock hq hf hpages hfuel
    obtain ⟨fuel, rfl⟩ : ∃ f, fuel = f + 1 := ⟨fuel - 1, by omega⟩
    have hle : m * pageSize ≤ d.length := (Nat.le_div_iff_mul_le hpage).1 (by omega)
    rw [msgPeekLoop, Socket.recvfrom_of_le hq hf hle]
    simp only [List.length_take, Nat.min_eq_left hle, Nat.lt_irrefl, if_false, if_true]
    rw [← Nat.add_one_mul, ih (m + 1) fuel { sock with calls := sock.calls ++ [(m * pageSize, true)] }
      hq hf (by omega) (by omega), List.range_succ_eq_map (r + 1), List.map_cons, List.map_map]
    simp only [List.append_assoc, List.singleton_append, Function.comp_def, Nat.zero_add,
      Nat.succ_eq_add_one, ← Nat.add_assoc, Nat.add_right_comm _ 1 m]

section
variable {pageSize fuel : Nat} {sock : Socket} {d : Bytes} {rest : List Bytes}

/-- The peeks `msgPeek` makes for a datagram of `D` bytes: buffers of `1`, …, `⌊D/P⌋ + 1`
    pages. -/
def peekCalls (pageSize D : Nat) : List (Nat × Bool) :=
  (List.range (D / pageSize + 1)).map fun i => ((i + 1) * pageSize, true)

/-- The length of the last peek's buffer: the first multiple of the page size past `D`. -/
def peekLength (pageSize D : Nat) : Nat := (D / pageSize + 1) * pageSize

theorem lt_peekLength (hpage : 0 < pageSize) (D : Nat) : D < peekLength pageSize D :=
  Nat.lt_mul_of_div_lt (Nat.lt_succ_self _) hpage

/-- `msgPeek` on a healthy socket, with fuel for every peek. -/
theorem msgPeek_head (hpage : 0 < pageSize) (hq : sock.queue = d :: rest) (hf : sock.fault = none)
    (hfuel : d.length / pageSize < fuel) :
    msgPeek pageSize fuel sock =
      some (.ok (d.length, d ++ List.replicate (peekLength pageSize d.length - d.length) 0),
        { sock with calls := sock.calls ++ peekCalls pageSize d.length }) := by
  have hloop := msgPeekLoop_spec hpage (d.length / pageSize) 1 fuel sock hq hf rfl hfuel
  rwa [Nat.one_mul] at hloop

/-- `ReadMsg` on a healthy socket, with fuel for every peek: the datagram at the head, taken off
    the queue. -/
theorem readMsg_head (hpage : 0 < pageSize) (hq : sock.queue = d :: rest) (hf : sock.fault = none)
    (hfuel : d.length / pageSize < fuel) :
    readMsg pageSize fuel sock =
      some (.ok d,
        { sock with
          queue := rest
          calls := sock.calls ++ peekCalls pageSize d.length ++
            [(peekLength pageSize d.length, false)] }) := by
  have hlt := lt_peekLength hpage d.length
  rw [readMsg, msgPeek_head hpage hq hf hfuel]
  simp [msgRead, Socket.recvfrom, hq, hf, hlt.le]

end

/-- `ReadMsg` hands over the whole datagram: `msgPeek` makes exactly `⌊D/P⌋ + 1` peeks and ends
    with `(⌊D/P⌋ + 1)·P > D` bytes of buffer, and the consuming read takes all `D`. -/
theorem readMsg_whole_datagram (pageSize : Nat) (hpage : 1 ≤ pageSize) (d : Bytes)
    (rest : List Bytes) (calls : List (Nat × Bool)) (fuel : Nat)
    (hfuel : d.length / pageSize < fuel) :
    let sock : Socket := { queue := d :: rest, calls := calls }
    let pages := d.length / pageSize + 1
    let peeks := (List.range pages).map fun i => ((i + 1) * pageSize, true)
    msgPeek pageSize fuel sock =
        some (.ok (d.length, d ++ List.replicate (pages * pageSize - d.length) 0),
          { sock with calls := calls ++ peeks }) ∧
      d.length < pages * pageSize ∧
      readMsg pageSize fuel sock =
        some (.ok d, { queue := rest, calls := calls ++ peeks ++ [(pages * pageSize, false)] }) :=
  ⟨msgPeek_head hpage rfl rfl hfuel, lt_peekLength hpage d.length, readMsg_head hpage rfl rfl hfuel⟩

/-- A datagram of exactly one page takes two peeks, the second with two pages. -/
theorem readMsg_whole_datagram_on_full_page :
    1 ≤ 4 ∧ ([1, 2, 3, 4] : Bytes).length / 4 < 2 ∧
      readMsg 4 2 { queue := [[1, 2, 3, 4]] } =
        some (.ok [1, 2, 3, 4], { queue := [], calls := [(4, true), (8, true), (8, false)] }) :=
  ⟨by decide, by decide, (readMsg_whole_datagram 4 (by decide) [1, 2, 3, 4] [] [] 2 (by decide)).2.2⟩

/-! ### Reading events off the socket -/

/-- A healthy socket with nothing queued: `ReadMsg` blocks. -/
theorem readMsg_of_empty {pageSize fuel : Nat} {sock : Socket} (hq : sock.queue = [])
    (hf : sock.fault = none) : readMsg pageSize fuel sock = none := by
  cases fuel <;> simp [readMsg, msgPeek, msgPeekLoop, Socket.recvfrom, hq, hf]

variable {Data : Type} (udev : Udev Data)

/-- `getNextDeviceUEvent` on the socket, for at most `rounds` reads. -/
def Socket.getNextDeviceUEvent (pageSize fuel : Nat) : Nat → Socket →
    Option (Except GoError Data × Socket)
  | 0, _ => none
  | rounds + 1, sock =>
    match readMsg pageSize fuel sock with
    | none => none
    | some (.error err, sock') => some (.error err, sock')
    | some (.ok buf, sock') =>
      match parseUdevData udev buf with
      | .error err =>
        if err = .errNonDeviceEvent then Socket.getNextDeviceUEvent pageSize fuel rounds sock'
        else some (.error err, sock')
      | .ok data => some (.ok data, sock')

/-- On a healthy socket with enough fuel and rounds, `getNextDeviceUEvent` returns what the loop
    over the queued datagrams returns, and blocks where that loop runs out of them. -/
theorem Socket.getNextDeviceUEvent_spec {pageSize fuel : Nat} (hpage : 0 < pageSize)
    (bufs : List Bytes) : ∀ (rounds : Nat) (sock : Socket), sock.queue = bufs →
      sock.fault = none → (∀ d ∈ bufs, d.length / pageSize < fuel) → bufs.length < rounds →
      match DirectPV.getNextDeviceUEvent udev bufs with
      | none => Socket.getNextDeviceUEvent udev pageSize fuel rounds sock = none
      | some (r, rest) => ∃ sock', Socket.getNextDeviceUEvent udev pageSize fuel rounds sock =
          some (r, sock') ∧ sock'.queue = rest ∧ sock'.fault = none := by
  induction bufs with
  | nil =>
    intro rounds sock hq hf _ hrounds
    obtain ⟨rounds, rfl⟩ : ∃ r, rounds = r + 1 := ⟨rounds - 1, by simp at hrounds; omega⟩
    simp [Socket.getNextDeviceUEvent, readMsg_of_empty hq hf, DirectPV.getNextDeviceUEvent]
  | cons d ds ih =>
    intro rounds sock hq hf hfuel hrounds
    obtain ⟨rounds, rfl⟩ : ∃ r, rounds = r + 1 := ⟨rounds - 1, by simp at hrounds; omega⟩
    rw [Socket.getNextDeviceUEvent, readMsg_head hpage hq hf (hfuel d (List.mem_cons_self _ _)),
      DirectPV.getNextDeviceUEvent]
    dsimp only
    cases parseUdevData udev d with
    | error err =>
      dsimp only
      split_ifs
      · exact ih rounds _ rfl hf (fun d hd => hfuel d (List.mem_cons_of_mem _ hd))
          (by simp at hrounds; omega)
      · exact ⟨_, rfl, rfl, hf⟩
    | ok data => exact ⟨_, rfl, rfl, hf⟩

/-- The loop of `Run` on the socket, for at most `reads` calls of `getNextDeviceUEvent`; the
    context is never cancelled. The events pushed onto the queue in order, and the error returned,
    or `none` when a read blocks or the bounds run out. -/
def Socket.run (pageSize fuel rounds : Nat) : Nat → Socket → List Data × Option GoError
  | 0, _ => ([], none)
  | reads + 1, sock =>
    match Socket.getNextDeviceUEvent udev pageSize fuel rounds sock with
    | none => ([], none)
    | some (.error err, _) => ([], some err)
    | some (.ok event, sock') =>
      let r := Socket.run pageSize fuel rounds reads sock'
      (event :: r.1, r.2)

/-- On a healthy socket with enough fuel, rounds and reads, `Run` on the socket pushes the events
    and returns the error that `Run` over the queued datagrams does. -/
theorem Socket.run_eq_run {pageSize fuel rounds : Nat} (hpage : 0 < pageSize) (reads : Nat) :
    ∀ (bufs : List Bytes) (sock : Socket), sock.queue = bufs → sock.fault = none →
      (∀ d ∈ bufs, d.length / pageSize < fuel) → bufs.length < rounds → bufs.length < reads →
      Socket.run udev pageSize fuel rounds reads sock = DirectPV.run udev bufs := by
  induction reads with
  | zero => intro bufs sock _ _ _ _ hreads; omega
  | succ reads ih =>
    intro bufs sock hq hf hfuel hrounds hreads
    have h := Socket.getNextDeviceUEvent_spec udev hpage bufs rounds sock hq hf hfuel hrounds
    rw [Socket.run, DirectPV.run_eq]
    split at h
    · rename_i hnone
      rw [h, hnone]
    · rename_i r rest hsome
      obtain ⟨sock', h, hq', hf'⟩ := h
      rw [h, hsome]
      cases r with
      | error err => rfl
      | ok event =>
        have hsuffix := getNextDeviceUEvent_suffix udev hsome
        have hlen := getNextDeviceUEvent_length udev hsome
        dsimp only
        rw [ih rest sock' hq' hf' (fun d hd => hfuel d (hsuffix.subset hd)) (by omega) (by omega)]

/-- Three datagrams of three bytes on a healthy socket, read with pages of four bytes. -/
theorem Socket.run_eq_run_on_short_datagrams :
    let udev : Udev Unit := ⟨fun _ _ => .ok (), fun _ => .ok ()⟩
    let bufs : List Bytes := [[1, 2, 3], [4, 5, 6], [7, 8, 9]]
    let sock : Socket := { queue := bufs }
    0 < 4 ∧ sock.queue = bufs ∧ sock.fault = none ∧ (∀ d ∈ bufs, d.length / 4 < 1) ∧
      bufs.length < 4 ∧ bufs.length < 4 ∧
      Socket.run udev 4 1 4 4 sock = DirectPV.run udev bufs :=
  ⟨by decide, rfl, rfl, by decide, by decide, by decide,
    Socket.run_eq_run _ (by decide) 4 _ _ rfl rfl (by decide) (by decide) (by decide)⟩

end DirectPV
