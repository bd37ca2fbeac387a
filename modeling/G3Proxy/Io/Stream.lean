import G3Proxy.Io.Stats

/-!
# Streams: sockets, `LimitedStream` and tokio's `BufReader`

A stream is driven one ready poll at a time: a read asks for at most `want` bytes of which
`avail` are ready, so every split of the peer's bytes into socket reads is a sequence of
`avail` values, and a write is accepted `accepted` bytes at a time. `LimitedStream`
(`g3_io_ext`) passes each poll on and gives the transferred length to its stats object;
its rate limit only delays or shortens polls, which those values cover. tokio's
`BufReader` bypasses its buffer for a large read into an empty buffer, refills an empty
buffer by one inner read otherwise, passes writes through, and `into_inner` drops the
buffer.
-/

namespace G3Proxy.Io

/-- The part of tokio's `AsyncRead + AsyncWrite` the escapers drive: one ready
`poll_read` and one ready `poll_write`, each of which may move the counters. -/
class AsyncStream (S : Type) where
  pollRead : S → Nat → Nat → Counters → List UInt8 × S × Counters
  pollWrite : S → List UInt8 → Nat → Counters → Nat × S × Counters

/-- The connected socket: `incoming` is what the peer sent and was not read yet,
`outgoing` what was written so far. -/
structure TcpStream where
  incoming : List UInt8
  outgoing : List UInt8
deriving DecidableEq, Repr

namespace TcpStream

/-- A read of at most `want` bytes, `avail` of which are ready. -/
def pollRead (s : TcpStream) (want avail : Nat) (c : Counters) :
    List UInt8 × TcpStream × Counters :=
  (s.incoming.take (min want avail), { s with incoming := s.incoming.drop (min want avail) }, c)

/-- A write of which the socket accepts `accepted` bytes. -/
def pollWrite (s : TcpStream) (data : List UInt8) (accepted : Nat) (c : Counters) :
    Nat × TcpStream × Counters :=
  (min data.length accepted,
    { s with outgoing := s.outgoing ++ data.take (min data.length accepted) }, c)

end TcpStream

instance : AsyncStream TcpStream :=
  ⟨TcpStream.pollRead, TcpStream.pollWrite⟩

/-- `g3_io_ext::LimitedStream`: a stream with the stats object its polls report to. -/
structure LimitedStream (S : Type) where
  inner : S
  stats : StreamStats
deriving DecidableEq, Repr

namespace LimitedStream

variable {S : Type} [AsyncStream S]

/-- `LimitedStream::reset_stats`: later polls report to `stats`. -/
def resetStats (s : LimitedStream S) (stats : StreamStats) : LimitedStream S :=
  { s with stats := stats }

/-- `poll_read`: the inner read, then `add_read_bytes` of what it returned. -/
def pollRead (s : LimitedStream S) (want avail : Nat) (c : Counters) :
    List UInt8 × LimitedStream S × Counters :=
  let (data, inner, c) := AsyncStream.pollRead s.inner want avail c
  (data, { s with inner := inner }, s.stats.addReadBytes data.length c)

/-- `poll_write`: the inner write, then `add_write_bytes` of what it took. -/
def pollWrite (s : LimitedStream S) (data : List UInt8) (accepted : Nat) (c : Counters) :
    Nat × LimitedStream S × Counters :=
  let (n, inner, c) := AsyncStream.pollWrite s.inner data accepted c
  (n, { s with inner := inner }, s.stats.addWriteBytes n c)

end LimitedStream

instance {S : Type} [AsyncStream S] : AsyncStream (LimitedStream S) :=
  ⟨LimitedStream.pollRead, LimitedStream.pollWrite⟩

/-- A stream whose polls move bytes as a wire does: a read hands out a prefix of the
bytes still to come, a write appends what it took to the bytes sent, and the counters
move only through the stream's own stats object, if it has one. -/
class LawfulStream (S : Type) [AsyncStream S] where
  pending : S → List UInt8
  sent : S → List UInt8
  stats : S → Option StreamStats
  pollRead_pending : ∀ (s : S) (want avail : Nat) (c : Counters), (AsyncStream.pollRead s want avail c).1 ++
    pending (AsyncStream.pollRead s want avail c).2.1 = pending s
  pollRead_sent : ∀ (s : S) (want avail : Nat) (c : Counters), sent (AsyncStream.pollRead s want avail c).2.1 = sent s
  pollRead_stats : ∀ (s : S) (want avail : Nat) (c : Counters), stats (AsyncStream.pollRead s want avail c).2.1 = stats s
  pollRead_counters : ∀ (s : S) (want avail : Nat) (c : Counters), (AsyncStream.pollRead s want avail c).2.2 =
    StreamStats.addReadBytes? (stats s) (AsyncStream.pollRead s want avail c).1.length c
  pollWrite_pending : ∀ (s : S) (data : List UInt8) (accepted : Nat) (c : Counters),
    pending (AsyncStream.pollWrite s data accepted c).2.1 = pending s
  pollWrite_sent : ∀ (s : S) (data : List UInt8) (accepted : Nat) (c : Counters), sent (AsyncStream.pollWrite s data accepted c).2.1 =
    sent s ++ data.take (AsyncStream.pollWrite s data accepted c).1
  pollWrite_stats : ∀ (s : S) (data : List UInt8) (accepted : Nat) (c : Counters),
    stats (AsyncStream.pollWrite s data accepted c).2.1 = stats s
  pollWrite_counters : ∀ (s : S) (data : List UInt8) (accepted : Nat) (c : Counters), (AsyncStream.pollWrite s data accepted c).2.2 =
    StreamStats.addWriteBytes? (stats s) (AsyncStream.pollWrite s data accepted c).1 c
  pollWrite_length : ∀ (s : S) (data : List UInt8) (accepted : Nat) (c : Counters), (AsyncStream.pollWrite s data accepted c).1 ≤
    data.length

instance : LawfulStream TcpStream where
  pending s := s.incoming
  sent s := s.outgoing
  stats _ := none
  pollRead_pending _ _ _ _ := List.take_append_drop _ _
  pollRead_sent _ _ _ _ := rfl
  pollRead_stats _ _ _ _ := rfl
  pollRead_counters _ _ _ _ := rfl
  pollWrite_pending _ _ _ _ := rfl
  pollWrite_sent _ _ _ _ := rfl
  pollWrite_stats _ _ _ _ := rfl
  pollWrite_counters _ _ _ _ := rfl
  pollWrite_length _ _ _ _ := Nat.min_le_left _ _

instance : LawfulStream (LimitedStream TcpStream) where
  pending s := s.inner.incoming
  sent s := s.inner.outgoing
  stats s := some s.stats
  pollRead_pending _ _ _ _ := List.take_append_drop _ _
  pollRead_sent _ _ _ _ := rfl
  pollRead_stats _ _ _ _ := rfl
  pollRead_counters _ _ _ _ := rfl
  pollWrite_pending _ _ _ _ := rfl
  pollWrite_sent _ _ _ _ := rfl
  pollWrite_stats _ _ _ _ := rfl
  pollWrite_counters _ _ _ _ := rfl
  pollWrite_length _ _ _ _ := Nat.min_le_left _ _

@[simp]
theorem TcpStream.pending_eq (s : TcpStream) : LawfulStream.pending s = s.incoming :=
  rfl

@[simp]
theorem TcpStream.sent_eq (s : TcpStream) : LawfulStream.sent s = s.outgoing :=
  rfl

@[simp]
theorem TcpStream.stats_eq (s : TcpStream) : LawfulStream.stats s = none :=
  rfl

@[simp]
theorem LimitedStream.pending_eq (s : LimitedStream TcpStream) :
    LawfulStream.pending s = s.inner.incoming :=
  rfl

@[simp]
theorem LimitedStream.sent_eq (s : LimitedStream TcpStream) :
    LawfulStream.sent s = s.inner.outgoing :=
  rfl

@[simp]
theorem LimitedStream.stats_eq (s : LimitedStream TcpStream) :
    LawfulStream.stats s = some s.stats :=
  rfl

namespace LawfulStream

variable {S : Type} [AsyncStream S] [LawfulStream S]

theorem pollRead_of_eq {s s' : S} {want avail : Nat} {c c' : Counters} {data : List UInt8}
    (polled : AsyncStream.pollRead s want avail c = (data, s', c')) :
    data ++ pending s' = pending s ∧ sent s' = sent s ∧ stats s' = stats s ∧
      c' = StreamStats.addReadBytes? (stats s) data.length c := by
  have pendingLaw := pollRead_pending s want avail c
  have sentLaw := pollRead_sent s want avail c
  have statsLaw := pollRead_stats s want avail c
  have countersLaw := pollRead_counters s want avail c
  rw [polled] at pendingLaw sentLaw statsLaw countersLaw
  exact ⟨pendingLaw, sentLaw, statsLaw, countersLaw⟩

theorem pollWrite_of_eq {s s' : S} {data : List UInt8} {accepted n : Nat} {c c' : Counters}
    (polled : AsyncStream.pollWrite s data accepted c = (n, s', c')) :
    pending s' = pending s ∧ sent s' = sent s ++ data.take n ∧ stats s' = stats s ∧
      c' = StreamStats.addWriteBytes? (stats s) n c ∧ n ≤ data.length := by
  have pendingLaw := pollWrite_pending s data accepted c
  have sentLaw := pollWrite_sent s data accepted c
  have statsLaw := pollWrite_stats s data accepted c
  have countersLaw := pollWrite_counters s data accepted c
  have lengthLaw := pollWrite_length s data accepted c
  rw [polled] at pendingLaw sentLaw statsLaw countersLaw lengthLaw
  exact ⟨pendingLaw, sentLaw, statsLaw, countersLaw, lengthLaw⟩

end LawfulStream

/-- tokio's `BufReader`: `buffer` is `buf[pos..cap]`, the bytes read from `inner` and
not consumed yet; `capacity` is the length of the boxed buffer. -/
structure BufReader (R : Type) where
  inner : R
  buffer : List UInt8
  capacity : Nat
deriving DecidableEq, Repr

/-- tokio's `DEFAULT_BUF_SIZE`. -/
def defaultBufSize : Nat := 8 * 1024

namespace BufReader

variable {R : Type} [AsyncStream R]

def new (inner : R) : BufReader R :=
  ⟨inner, [], defaultBufSize⟩

/-- `BufReader::into_inner`: the buffered bytes are lost. -/
def intoInner (b : BufReader R) : R :=
  b.inner

def consume (b : BufReader R) (amt : Nat) : BufReader R :=
  { b with buffer := b.buffer.drop amt }

/-- `poll_fill_buf`: an empty buffer is refilled by one inner read of `capacity` bytes. -/
def pollFillBuf (b : BufReader R) (avail : Nat) (c : Counters) : BufReader R × Counters :=
  if b.buffer.isEmpty then
    let (data, inner, c) := AsyncStream.pollRead b.inner b.capacity avail c
    ({ b with inner := inner, buffer := data }, c)
  else (b, c)

/-- `poll_read`: bypass the buffer for a large read into an empty buffer, otherwise
fill the buffer and copy out of it. -/
def pollRead (b : BufReader R) (want avail : Nat) (c : Counters) :
    List UInt8 × BufReader R × Counters :=
  if b.buffer.isEmpty ∧ b.capacity ≤ want then
    let (data, inner, c) := AsyncStream.pollRead b.inner want avail c
    (data, { b with inner := inner }, c)
  else
    let (b, c) := b.pollFillBuf avail c
    let amt := min b.buffer.length want
    (b.buffer.take amt, b.consume amt, c)

/-- `poll_write` goes to the inner stream. -/
def pollWrite (b : BufReader R) (data : List UInt8) (accepted : Nat) (c : Counters) :
    Nat × BufReader R × Counters :=
  let (n, inner, c) := AsyncStream.pollWrite b.inner data accepted c
  (n, { b with inner := inner }, c)

end BufReader

instance {R : Type} [AsyncStream R] : AsyncStream (BufReader R) :=
  ⟨BufReader.pollRead, BufReader.pollWrite⟩

namespace BufReader

variable {R : Type} [AsyncStream R]

@[simp]
theorem asyncPollRead_eq (b : BufReader R) (want avail : Nat) (c : Counters) :
    AsyncStream.pollRead b want avail c = b.pollRead want avail c :=
  rfl

@[simp]
theorem asyncPollWrite_eq (b : BufReader R) (data : List UInt8) (accepted : Nat)
    (c : Counters) :
    AsyncStream.pollWrite b data accepted c = b.pollWrite data accepted c :=
  rfl

theorem pollWrite_eq (b : BufReader R) (data : List UInt8) (accepted : Nat) (c : Counters) :
    b.pollWrite data accepted c =
      ((AsyncStream.pollWrite b.inner data accepted c).1,
        { b with inner := (AsyncStream.pollWrite b.inner data accepted c).2.1 },
        (AsyncStream.pollWrite b.inner data accepted c).2.2) :=
  rfl

/-- What one buffered read does: either it copies out of the buffer without touching
the inner stream, or the buffer was empty and one inner read of some size produced
exactly what the caller got plus what the buffer now holds. -/
theorem pollRead_spec (b : BufReader R) (want avail : Nat) (c : Counters) :
    ((b.pollRead want avail c).1 ++ (b.pollRead want avail c).2.1.buffer = b.buffer ∧
        (b.pollRead want avail c).2.1.inner = b.inner ∧
        (b.pollRead want avail c).2.2 = c) ∨
      ∃ size, b.buffer = [] ∧
        (b.pollRead want avail c).1 ++ (b.pollRead want avail c).2.1.buffer =
          (AsyncStream.pollRead b.inner size avail c).1 ∧
        (b.pollRead want avail c).2.1.inner = (AsyncStream.pollRead b.inner size avail c).2.1 ∧
        (b.pollRead want avail c).2.2 = (AsyncStream.pollRead b.inner size avail c).2.2 := by
  unfold pollRead
  by_cases empty : b.buffer = []
  · by_cases large : b.capacity ≤ want
    · exact Or.inr ⟨want, empty, by simp [empty, large]⟩
    · refine Or.inr ⟨b.capacity, empty, ?_⟩
      simp [empty, large, pollFillBuf, consume]
  · refine Or.inl ?_
    have nonEmpty : b.buffer.isEmpty = false := by simpa using empty
    simp [nonEmpty, pollFillBuf, consume]

/-! ## Buffered reads over a lawful stream -/

variable [LawfulStream R]

open LawfulStream

/-- `b'` and `c'` are what is left of `b` and `c` after `consumed` was taken out of the
buffered reader: the inner stream lost some prefix `pulled` of its pending bytes,
`consumed` and the new buffer together are the old buffer and `pulled`, and only the
inner stream's stats object counted, and only `pulled`. -/
def Consumes (b : BufReader R) (c : Counters) (consumed : List UInt8) (b' : BufReader R)
    (c' : Counters) : Prop :=
  ∃ pulled, pending b.inner = pulled ++ pending b'.inner ∧
    consumed ++ b'.buffer = b.buffer ++ pulled ∧
    sent b'.inner = sent b.inner ∧ stats b'.inner = stats b.inner ∧
    c' = StreamStats.addReadBytes? (stats b.inner) pulled.length c ∧ b'.capacity = b.capacity

theorem Consumes.refl (b : BufReader R) (c : Counters) : Consumes b c [] b c :=
  ⟨[], rfl, by simp, rfl, rfl, by simp, rfl⟩

theorem Consumes.trans {b b' b'' : BufReader R} {c c' c'' : Counters} {first second : List UInt8}
    (firstStep : Consumes b c first b' c') (secondStep : Consumes b' c' second b'' c'') :
    Consumes b c (first ++ second) b'' c'' := by
  obtain ⟨pulled, pending₁, buffer₁, sent₁, stats₁, counters₁, capacity₁⟩ := firstStep
  obtain ⟨pulled', pending₂, buffer₂, sent₂, stats₂, counters₂, capacity₂⟩ := secondStep
  refine ⟨pulled ++ pulled', ?_, ?_, sent₂.trans sent₁, stats₂.trans stats₁, ?_,
    capacity₂.trans capacity₁⟩
  · rw [pending₁, pending₂, List.append_assoc]
  · rw [List.append_assoc, buffer₂, ← List.append_assoc, buffer₁, List.append_assoc]
  · rw [counters₂, counters₁, stats₁, List.length_append, StreamStats.addReadBytes?_add]

theorem consume_consumes (b : BufReader R) (c : Counters) (amt : Nat) :
    Consumes b c (b.buffer.take amt) (b.consume amt) c :=
  ⟨[], by simp [consume], by simp [consume], rfl, rfl, by simp, rfl⟩

theorem consume_window (b : BufReader R) (c : Counters) {window n : Nat}
    (inWindow : n ≤ (b.buffer.take window).length) :
    Consumes b c ((b.buffer.take window).take n) (b.consume n) c := by
  have sameTake : (b.buffer.take window).take n = b.buffer.take n := by
    rw [List.take_take, List.length_take] at *
    congr 1
    omega
  rw [sameTake]
  exact consume_consumes b c n

theorem consume_window_all (b : BufReader R) (c : Counters) (window : Nat) :
    Consumes b c (b.buffer.take window) (b.consume (b.buffer.take window).length) c := by
  have whole := consume_window b c (le_refl (b.buffer.take window).length)
  rw [List.take_length] at whole
  exact whole

theorem pollFillBuf_consumes (b : BufReader R) (avail : Nat) (c : Counters) :
    Consumes b c [] (b.pollFillBuf avail c).1 (b.pollFillBuf avail c).2 := by
  unfold pollFillBuf
  by_cases empty : b.buffer = []
  · simp only [empty, List.isEmpty_nil, ↓reduceIte]
    exact ⟨_, (pollRead_pending _ _ _ _).symm, by simp [empty], pollRead_sent _ _ _ _,
      pollRead_stats _ _ _ _, pollRead_counters _ _ _ _, rfl⟩
  · have nonEmpty : b.buffer.isEmpty = false := by simpa using empty
    simpa [nonEmpty] using Consumes.refl b c

theorem pollRead_consumes (b : BufReader R) (want avail : Nat) (c : Counters) :
    Consumes b c (b.pollRead want avail c).1 (b.pollRead want avail c).2.1
      (b.pollRead want avail c).2.2 := by
  unfold pollRead
  split_ifs with bypass
  · have empty : b.buffer = [] := by simpa using bypass.1
    refine ⟨(AsyncStream.pollRead b.inner want avail c).1, (pollRead_pending _ _ _ _).symm,
      by simp [empty], pollRead_sent _ _ _ _, pollRead_stats _ _ _ _,
      pollRead_counters _ _ _ _, rfl⟩
  · simpa using (pollFillBuf_consumes b avail c).trans (consume_consumes _ _ _)

end BufReader

end G3Proxy.Io
