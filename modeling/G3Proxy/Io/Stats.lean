import Mathlib.Data.List.Basic

/-!
# Byte counters of one upstream connection

Every byte of an upstream connection is counted by some of: the escaper's own `tcp.io`,
the task's `TcpConnectionTaskRemoteStats`, and the `io.tcp` counters of each user stats
object `fetch_user_upstream_io_stats` returned. The model keeps each `u64` counter as the
natural number it holds modulo `2^64`. The stats objects the escapers hand to
`LimitedStream`, `LimitedReader` and `LimitedWriter` are the cases of `StreamStats`.
-/

namespace G3Proxy.Io

/-- The counters one upstream connection can reach. `userIn` and `userOut` hold the
`io.tcp` in and out counters of each fetched user stats object, in fetch order. -/
structure Counters where
  escaperIn : Nat
  escaperOut : Nat
  taskRead : Nat
  taskWrite : Nat
  userIn : List Nat
  userOut : List Nat
deriving DecidableEq, Repr

namespace Counters

/-- `escaper.tcp.io.add_in_bytes`. -/
@[simp]
def addEscaperIn (c : Counters) (n : Nat) : Counters :=
  { c with escaperIn := c.escaperIn + n }

/-- `escaper.tcp.io.add_out_bytes`. -/
@[simp]
def addEscaperOut (c : Counters) (n : Nat) : Counters :=
  { c with escaperOut := c.escaperOut + n }

/-- `task_stats.add_read_bytes`. -/
@[simp]
def addTaskRead (c : Counters) (n : Nat) : Counters :=
  { c with taskRead := c.taskRead + n }

/-- `task_stats.add_write_bytes`. -/
@[simp]
def addTaskWrite (c : Counters) (n : Nat) : Counters :=
  { c with taskWrite := c.taskWrite + n }

/-- `for s in &user_stats { s.io.tcp.add_in_bytes(n) }`. -/
@[simp]
def addUserIn (c : Counters) (n : Nat) : Counters :=
  { c with userIn := c.userIn.map (· + n) }

/-- `for s in &user_stats { s.io.tcp.add_out_bytes(n) }`. -/
@[simp]
def addUserOut (c : Counters) (n : Nat) : Counters :=
  { c with userOut := c.userOut.map (· + n) }

/-- The counters a task and its users own, the ones a failed connection must leave alone. -/
def TaskSide (c c' : Counters) : Prop :=
  c'.taskRead = c.taskRead ∧ c'.taskWrite = c.taskWrite ∧
    c'.userIn = c.userIn ∧ c'.userOut = c.userOut

theorem TaskSide.refl (c : Counters) : TaskSide c c :=
  ⟨rfl, rfl, rfl, rfl⟩

theorem TaskSide.trans {c c' c'' : Counters} (first : TaskSide c c')
    (second : TaskSide c' c'') : TaskSide c c'' :=
  ⟨second.1.trans first.1, second.2.1.trans first.2.1,
    second.2.2.1.trans first.2.2.1, second.2.2.2.trans first.2.2.2⟩

theorem taskSide_addEscaperIn (c : Counters) (n : Nat) : TaskSide c (c.addEscaperIn n) :=
  TaskSide.refl c

theorem taskSide_addEscaperOut (c : Counters) (n : Nat) : TaskSide c (c.addEscaperOut n) :=
  TaskSide.refl c

end Counters

@[simp]
theorem map_add_map_add (counts : List Nat) (m n : Nat) :
    (counts.map (· + m)).map (· + n) = counts.map (· + (m + n)) := by
  simp only [List.map_map]
  congr 1
  funext count
  simp only [Function.comp_apply]
  omega

/-- The stats objects the escapers give to `LimitedStream`, `LimitedReader` and
`LimitedWriter`. -/
inductive StreamStats where
  /-- `ProxyHttpEscaperStats`, whose `LimitedReaderStats` impl adds to `tcp.io` only. -/
  | escaper
  /-- `TcpConnectRemoteWrapperStats::new(&self.stats, task_stats)` with the user stats
  pushed: the escaper, the task and every user. -/
  | remoteWrapper
  /-- `TcpConnectionTaskRemoteStatsWrapper::new(task_stats)` with the user stats pushed
  as other stats: the task and every user, not the escaper. -/
  | taskWrapper
deriving DecidableEq, Repr

namespace StreamStats

/-- `add_read_bytes` of each stats object. The wrappers are modelled from the spec
(§4.E, a wrapper adds the transferred length to each of its sinks); the escaper case
follows the `LimitedReaderStats` impl of the escaper stats. -/
def addReadBytes : StreamStats → Nat → Counters → Counters
  | .escaper, n, c => c.addEscaperIn n
  | .remoteWrapper, n, c => ((c.addEscaperIn n).addTaskRead n).addUserIn n
  | .taskWrapper, n, c => (c.addTaskRead n).addUserIn n

def addWriteBytes : StreamStats → Nat → Counters → Counters
  | .escaper, n, c => c.addEscaperOut n
  | .remoteWrapper, n, c => ((c.addEscaperOut n).addTaskWrite n).addUserOut n
  | .taskWrapper, n, c => (c.addTaskWrite n).addUserOut n

def addReadBytes? : Option StreamStats → Nat → Counters → Counters
  | none, _, c => c
  | some stats, n, c => stats.addReadBytes n c

def addWriteBytes? : Option StreamStats → Nat → Counters → Counters
  | none, _, c => c
  | some stats, n, c => stats.addWriteBytes n c

theorem addReadBytes_add (stats : StreamStats) (m n : Nat) (c : Counters) :
    stats.addReadBytes n (stats.addReadBytes m c) = stats.addReadBytes (m + n) c := by
  cases stats <;> simp [addReadBytes, Nat.add_assoc]

theorem addWriteBytes_add (stats : StreamStats) (m n : Nat) (c : Counters) :
    stats.addWriteBytes n (stats.addWriteBytes m c) = stats.addWriteBytes (m + n) c := by
  cases stats <;> simp [addWriteBytes, Nat.add_assoc]

theorem addReadBytes?_add (stats : Option StreamStats) (m n : Nat) (c : Counters) :
    addReadBytes? stats n (addReadBytes? stats m c) = addReadBytes? stats (m + n) c := by
  cases stats <;> simp [addReadBytes?, addReadBytes_add]

theorem addWriteBytes?_add (stats : Option StreamStats) (m n : Nat) (c : Counters) :
    addWriteBytes? stats n (addWriteBytes? stats m c) = addWriteBytes? stats (m + n) c := by
  cases stats <;> simp [addWriteBytes?, addWriteBytes_add]

@[simp]
theorem addReadBytes_zero (stats : StreamStats) (c : Counters) :
    stats.addReadBytes 0 c = c := by
  cases c
  cases stats <;> simp [addReadBytes]

@[simp]
theorem addWriteBytes_zero (stats : StreamStats) (c : Counters) :
    stats.addWriteBytes 0 c = c := by
  cases c
  cases stats <;> simp [addWriteBytes]

@[simp]
theorem addReadBytes?_zero (stats : Option StreamStats) (c : Counters) :
    addReadBytes? stats 0 c = c := by
  cases stats <;> simp [addReadBytes?]

@[simp]
theorem addWriteBytes?_zero (stats : Option StreamStats) (c : Counters) :
    addWriteBytes? stats 0 c = c := by
  cases stats <;> simp [addWriteBytes?]

@[simp]
theorem addReadBytes_write (stats : StreamStats) (n : Nat) (c : Counters) :
    (stats.addReadBytes n c).escaperOut = c.escaperOut ∧
      (stats.addReadBytes n c).taskWrite = c.taskWrite ∧
      (stats.addReadBytes n c).userOut = c.userOut := by
  cases stats <;> simp [addReadBytes]

@[simp]
theorem addWriteBytes_read (stats : StreamStats) (n : Nat) (c : Counters) :
    (stats.addWriteBytes n c).escaperIn = c.escaperIn ∧
      (stats.addWriteBytes n c).taskRead = c.taskRead ∧
      (stats.addWriteBytes n c).userIn = c.userIn := by
  cases stats <;> simp [addWriteBytes]

end StreamStats

theorem Counters.taskSide_escaper (c : Counters) (read written : Nat) :
    Counters.TaskSide c (StreamStats.addReadBytes? (some .escaper) read
      (StreamStats.addWriteBytes? (some .escaper) written c)) :=
  Counters.TaskSide.refl c

end G3Proxy.Io
