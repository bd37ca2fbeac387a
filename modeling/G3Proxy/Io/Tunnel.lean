import G3Proxy.Io.Stream

/-!
# The reader and writer handed back to the relay

A successful `TcpConnectResult` is a boxed `(reader, writer)` pair made by
`tokio::io::split` of one stream, each half maybe wrapped in a `LimitedReader` or
`LimitedWriter` with a stats object. The relay then polls the two halves in any
order; a run is a list of such polls. The caller's view of a run, the bytes it got
from the reader and the bytes the writer took, is kept beside the stream so that
accounting laws can compare the counters with it.
-/

namespace G3Proxy.Io

/-- The two halves of one split stream and the stats objects of the
`LimitedReader`/`LimitedWriter` over them, if any. -/
structure Tunnel (S : Type) where
  stream : S
  readStats : Option StreamStats
  writeStats : Option StreamStats
deriving DecidableEq, Repr

/-- One poll of the relay on the reader or on the writer. -/
inductive TunnelOp where
  | read (want avail : Nat)
  | write (data : List UInt8) (accepted : Nat)
deriving DecidableEq, Repr

/-- A stream under a `LimitedReader` and `LimitedWriter` pair: its own polls leave the
task and user counters alone, and a write takes at most what it was offered. -/
structure TaskSilent (S : Type) [AsyncStream S] : Prop where
  pollRead_taskSide : ∀ (s : S) (want avail : Nat) (c : Counters),
    Counters.TaskSide c (AsyncStream.pollRead s want avail c).2.2
  pollWrite_taskSide : ∀ (s : S) (data : List UInt8) (accepted : Nat) (c : Counters),
    Counters.TaskSide c (AsyncStream.pollWrite s data accepted c).2.2
  pollWrite_length : ∀ (s : S) (data : List UInt8) (accepted : Nat) (c : Counters),
    (AsyncStream.pollWrite s data accepted c).1 ≤ data.length

theorem TaskSilent.of_lawful {S : Type} [AsyncStream S] [LawfulStream S]
    (noStats : ∀ s : S, LawfulStream.stats s = none) : TaskSilent S where
  pollRead_taskSide s want avail c := by
    rw [LawfulStream.pollRead_counters, noStats]
    exact Counters.TaskSide.refl c
  pollWrite_taskSide s data accepted c := by
    rw [LawfulStream.pollWrite_counters, noStats]
    exact Counters.TaskSide.refl c
  pollWrite_length := LawfulStream.pollWrite_length

theorem TaskSilent.bufReader {R : Type} [AsyncStream R] [LawfulStream R]
    (noStats : ∀ s : R, LawfulStream.stats s = none) : TaskSilent (BufReader R) where
  pollRead_taskSide b want avail c := by
    obtain ⟨_, -, -, -, -, counters, -⟩ := BufReader.pollRead_consumes b want avail c
    rw [BufReader.asyncPollRead_eq, counters, noStats]
    exact Counters.TaskSide.refl c
  pollWrite_taskSide b data accepted c := by
    rw [BufReader.asyncPollWrite_eq, BufReader.pollWrite_eq, LawfulStream.pollWrite_counters,
      noStats]
    exact Counters.TaskSide.refl c
  pollWrite_length b data accepted c := LawfulStream.pollWrite_length b.inner data accepted c

/-- A tunnel in use: the shared stream, the counters, and what the caller has read
from the reader and written through the writer so far. -/
structure TunnelState (S : Type) where
  tunnel : Tunnel S
  counters : Counters
  delivered : List UInt8
  written : List UInt8

namespace TunnelState

variable {S : Type} [AsyncStream S]

def start (tunnel : Tunnel S) (counters : Counters) : TunnelState S :=
  ⟨tunnel, counters, [], []⟩

/-- One poll: `LimitedReader::poll_read` over the read half, or
`LimitedWriter::poll_write` over the write half. -/
def step (st : TunnelState S) : TunnelOp → TunnelState S
  | .read want avail =>
    let (data, stream, c) := AsyncStream.pollRead st.tunnel.stream want avail st.counters
    { tunnel := { st.tunnel with stream := stream },
      counters := StreamStats.addReadBytes? st.tunnel.readStats data.length c,
      delivered := st.delivered ++ data,
      written := st.written }
  | .write data accepted =>
    let (n, stream, c) := AsyncStream.pollWrite st.tunnel.stream data accepted st.counters
    { tunnel := { st.tunnel with stream := stream },
      counters := StreamStats.addWriteBytes? st.tunnel.writeStats n c,
      delivered := st.delivered,
      written := st.written ++ data.take n }

def run (st : TunnelState S) (ops : List TunnelOp) : TunnelState S :=
  ops.foldl step st

@[simp]
theorem run_nil (st : TunnelState S) : st.run [] = st :=
  rfl

@[simp]
theorem run_cons (st : TunnelState S) (op : TunnelOp) (ops : List TunnelOp) :
    st.run (op :: ops) = (st.step op).run ops :=
  rfl

theorem run_append (st : TunnelState S) (first second : List TunnelOp) :
    st.run (first ++ second) = (st.run first).run second :=
  List.foldl_append _ _ _ _

theorem run_invariant {Inv : TunnelState S → Prop}
    (preserved : ∀ st op, Inv st → Inv (st.step op)) :
    ∀ (ops : List TunnelOp) (st : TunnelState S), Inv st → Inv (st.run ops)
  | [], _, holds => holds
  | op :: ops, st, holds => run_invariant preserved ops (st.step op) (preserved st op holds)

/-! ## Runs over a buffered reader -/

section Buffered

variable {R : Type} [AsyncStream R] [LawfulStream R]

open LawfulStream

theorem step_consumes (st : TunnelState (BufReader R)) (op : TunnelOp) :
    ∃ pulled, pending st.tunnel.stream.inner = pulled ++ pending (st.step op).tunnel.stream.inner ∧
      (st.step op).delivered ++ (st.step op).tunnel.stream.buffer =
        st.delivered ++ st.tunnel.stream.buffer ++ pulled := by
  cases op with
  | read want avail =>
    obtain ⟨pulled, pendingEq, bufferEq, -⟩ :=
      BufReader.pollRead_consumes st.tunnel.stream want avail st.counters
    exact ⟨pulled, pendingEq, by simp [step, bufferEq]⟩
  | write data accepted =>
    exact ⟨[], by simp [step, BufReader.pollWrite_eq, pollWrite_pending], by simp [step,
      BufReader.pollWrite_eq]⟩

/-- A whole run over a buffered reader, in the same terms: every byte the caller got
came off the old buffer or the front of the inner stream, in order. -/
theorem run_consumes (ops : List TunnelOp) (st : TunnelState (BufReader R)) :
    ∃ pulled, pending st.tunnel.stream.inner = pulled ++ pending (st.run ops).tunnel.stream.inner ∧
      (st.run ops).delivered ++ (st.run ops).tunnel.stream.buffer =
        st.delivered ++ st.tunnel.stream.buffer ++ pulled := by
  induction ops generalizing st with
  | nil => exact ⟨[], by simp, by simp⟩
  | cons op ops inductionHypothesis =>
    obtain ⟨pulled, pendingEq, deliveredEq⟩ := step_consumes st op
    obtain ⟨pulled', pendingEq', deliveredEq'⟩ := inductionHypothesis (st.step op)
    refine ⟨pulled ++ pulled', by rw [run_cons, pendingEq, pendingEq', List.append_assoc], ?_⟩
    rw [run_cons, deliveredEq', deliveredEq, List.append_assoc]

end Buffered

/-! ## Runs through the task's stats wrapper -/

section Wrapped

variable {S : Type} {c : Counters} {credited : Nat}

/-- The accounting invariant of a `TcpConnectionTaskRemoteStatsWrapper` tunnel: the task and
each user counted the `credited` bytes and every byte the caller got or wrote. -/
structure WrapperInv (c : Counters) (credited : Nat) (st : TunnelState S) : Prop where
  readStats : st.tunnel.readStats = some .taskWrapper
  writeStats : st.tunnel.writeStats = some .taskWrapper
  taskRead : st.counters.taskRead = c.taskRead + (credited + st.delivered.length)
  userIn : st.counters.userIn = c.userIn.map (· + (credited + st.delivered.length))
  taskWrite : st.counters.taskWrite = c.taskWrite + st.written.length
  userOut : st.counters.userOut = c.userOut.map (· + st.written.length)

theorem wrapperInv_start {c' : Counters} (stream : S)
    (taskRead : c'.taskRead = c.taskRead + credited)
    (userIn : c'.userIn = c.userIn.map (· + credited))
    (taskWrite : c'.taskWrite = c.taskWrite) (userOut : c'.userOut = c.userOut) :
    WrapperInv c credited (start ⟨stream, some .taskWrapper, some .taskWrapper⟩ c') :=
  ⟨rfl, rfl, by simpa [start] using taskRead, by simpa [start] using userIn,
    by simpa [start] using taskWrite, by simpa [start] using userOut⟩

theorem WrapperInv.of_taskSide {c' : Counters} {st : TunnelState S} (same : Counters.TaskSide c c')
    (holds : WrapperInv c' credited st) : WrapperInv c credited st := by
  obtain ⟨taskRead, taskWrite, userIn, userOut⟩ := same
  exact ⟨holds.readStats, holds.writeStats, taskRead ▸ holds.taskRead, userIn ▸ holds.userIn,
    taskWrite ▸ holds.taskWrite, userOut ▸ holds.userOut⟩

variable [AsyncStream S]

theorem wrapperInv_read (silent : TaskSilent S) {st : TunnelState S}
    (holds : WrapperInv c credited st) (want avail : Nat) :
    WrapperInv c credited (st.step (.read want avail)) := by
  have quiet := silent.pollRead_taskSide st.tunnel.stream want avail st.counters
  rcases reading : AsyncStream.pollRead st.tunnel.stream want avail st.counters
    with ⟨data, stream, c'⟩
  rw [reading] at quiet
  obtain ⟨taskRead, taskWrite, userIn, userOut⟩ := quiet
  dsimp only at taskRead taskWrite userIn userOut
  simp only [step, reading, holds.readStats, StreamStats.addReadBytes?,
    StreamStats.addReadBytes]
  refine ⟨rfl, holds.writeStats, ?_, ?_, by simp [taskWrite, holds.taskWrite],
    by simp [userOut, holds.userOut]⟩
  · simp only [Counters.addUserIn, Counters.addTaskRead, taskRead, holds.taskRead,
      List.length_append]
    omega
  · simp only [Counters.addUserIn, Counters.addTaskRead, userIn, holds.userIn, map_add_map_add,
      List.length_append, Nat.add_assoc]

theorem wrapperInv_write (silent : TaskSilent S) {st : TunnelState S}
    (holds : WrapperInv c credited st) (data : List UInt8) (accepted : Nat) :
    WrapperInv c credited (st.step (.write data accepted)) := by
  have quiet := silent.pollWrite_taskSide st.tunnel.stream data accepted st.counters
  have fits := silent.pollWrite_length st.tunnel.stream data accepted st.counters
  rcases writing : AsyncStream.pollWrite st.tunnel.stream data accepted st.counters
    with ⟨n, stream, c'⟩
  rw [writing] at quiet fits
  obtain ⟨taskRead, taskWrite, userIn, userOut⟩ := quiet
  dsimp only at taskRead taskWrite userIn userOut fits
  have writtenLength : (st.written ++ data.take n).length = st.written.length + n := by
    rw [List.length_append, List.length_take_of_le fits]
  simp only [step, writing, holds.writeStats, StreamStats.addWriteBytes?,
    StreamStats.addWriteBytes]
  refine ⟨holds.readStats, rfl, by simp [taskRead, holds.taskRead],
    by simp [userIn, holds.userIn], ?_, ?_⟩
  · simp only [Counters.addUserOut, Counters.addTaskWrite, taskWrite, holds.taskWrite,
      writtenLength]
    omega
  · simp only [Counters.addUserOut, Counters.addTaskWrite, userOut, holds.userOut,
      map_add_map_add, writtenLength]

theorem wrapperInv_run (silent : TaskSilent S) {st : TunnelState S}
    (holds : WrapperInv c credited st) (ops : List TunnelOp) :
    WrapperInv c credited (st.run ops) := by
  refine run_invariant (fun st op holds => ?_) ops st holds
  cases op with
  | read want avail => exact wrapperInv_read silent holds want avail
  | write data accepted => exact wrapperInv_write silent holds data accepted

end Wrapped

end TunnelState

end G3Proxy.Io
