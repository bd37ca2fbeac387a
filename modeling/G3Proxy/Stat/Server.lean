import G3Proxy.Stat.Statsd

/-!
# `emit_server_stats` and the emitters it calls

One emission reads a server's stats object and, for each cumulative counter, sends the
`u64` difference `new_value.wrapping_sub(snap)` as a count and stores the value read in
the snapshot. The forbidden counters are sent one by one only when the value read or the
snapshot is nonzero; the TCP, UDP and untrusted groups return early, sending nothing for
the whole group, when their first counter and its snapshot are both zero.

The snapshot types of `g3_types` and the server stats object are not among the sources:
they are kept with the fields these functions read, and `Default` gives zeros.
-/

namespace G3Proxy.Stat

open StatsdClient

structure ServerForbiddenSnapshot where
  authFailed : UInt64 := 0
  destDenied : UInt64 := 0
  userBlocked : UInt64 := 0
deriving DecidableEq, Repr

structure TcpIoSnapshot where
  inBytes : UInt64 := 0
  outBytes : UInt64 := 0
deriving DecidableEq, Repr

structure UdpIoSnapshot where
  inPackets : UInt64 := 0
  inBytes : UInt64 := 0
  outPackets : UInt64 := 0
  outBytes : UInt64 := 0
deriving DecidableEq, Repr

structure UntrustedTaskStatsSnapshot where
  taskTotal : UInt64 := 0
  taskAlive : Int := 0
  inBytes : UInt64 := 0
deriving DecidableEq, Repr

/-- `ServerSnapshot`, with `#[derive(Default)]`. -/
structure ServerSnapshot where
  connTotal : UInt64 := 0
  taskTotal : UInt64 := 0
  forbidden : ServerForbiddenSnapshot := {}
  tcp : TcpIoSnapshot := {}
  udp : UdpIoSnapshot := {}
  untrusted : UntrustedTaskStatsSnapshot := {}
deriving DecidableEq, Repr

/-- What `emit_server_stats` reads from an `ArcServerStats`: its name, state, id and extra
tags, its counters, and the snapshots of the groups the server has. -/
structure ServerStats where
  name : String
  isOnline : Bool
  statId : StatId
  extraTags : List (String × String)
  connTotal : UInt64
  taskTotal : UInt64
  aliveCount : Int
  forbidden : ServerForbiddenSnapshot
  tcpIo : Option TcpIoSnapshot
  udpIo : Option UdpIoSnapshot
  untrusted : Option UntrustedTaskStatsSnapshot
deriving DecidableEq, Repr

/-! ## Metric names -/

def metricNameServerConnTotal : String := "server.connection.total"
def metricNameServerTaskTotal : String := "server.task.total"
def metricNameServerTaskAlive : String := "server.task.alive"
def metricNameServerForbiddenAuthFailed : String := "server.forbidden.auth_failed"
def metricNameServerForbiddenDestDenied : String := "server.forbidden.dest_denied"
def metricNameServerForbiddenUserBlocked : String := "server.forbidden.user_blocked"
def metricNameServerIoInBytes : String := "server.traffic.in.bytes"
def metricNameServerIoInPackets : String := "server.traffic.in.packets"
def metricNameServerIoOutBytes : String := "server.traffic.out.bytes"
def metricNameServerIoOutPackets : String := "server.traffic.out.packets"
def metricNameServerUntrustedTaskTotal : String := "server.task.untrusted_total"
def metricNameServerUntrustedTaskAlive : String := "server.task.untrusted_alive"
def metricNameServerIoUntrustedInBytes : String := "server.traffic.untrusted_in.bytes"

/-! ## The emitters -/

/-- The body of `emit_forbid_stats_u64!` for one field: the value read, its snapshot,
the metric name. Returns the snapshot the field is left with. -/
def emitForbidStatsU64 (client : StatsdClient) (newValue snapValue : UInt64) (name : String)
    (commonTags : StatsdTagGroup) : StatsdClient × UInt64 :=
  if newValue ≠ 0 ∨ snapValue ≠ 0 then
    let diffValue := newValue - snapValue
    (client.send (countWithTags name diffValue commonTags), newValue)
  else (client, snapValue)

def emitForbiddenStats (client : StatsdClient) (stats snap : ServerForbiddenSnapshot)
    (commonTags : StatsdTagGroup) : StatsdClient × ServerForbiddenSnapshot :=
  let (client, authFailed) := emitForbidStatsU64 client stats.authFailed snap.authFailed
    metricNameServerForbiddenAuthFailed commonTags
  let (client, destDenied) := emitForbidStatsU64 client stats.destDenied snap.destDenied
    metricNameServerForbiddenDestDenied commonTags
  let (client, userBlocked) := emitForbidStatsU64 client stats.userBlocked snap.userBlocked
    metricNameServerForbiddenUserBlocked commonTags
  (client, ⟨authFailed, destDenied, userBlocked⟩)

def emitTcpIoToStatsd (client : StatsdClient) (stats snap : TcpIoSnapshot)
    (commonTags : StatsdTagGroup) : StatsdClient × TcpIoSnapshot :=
  let newValue := stats.inBytes
  if newValue = 0 ∧ snap.inBytes = 0 then (client, snap)
  else
    let diffValue := newValue - snap.inBytes
    let client := client.send
      ((countWithTags metricNameServerIoInBytes diffValue commonTags).withTag .tcp)
    let snap := { snap with inBytes := newValue }
    let newValue := stats.outBytes
    let diffValue := newValue - snap.outBytes
    let client := client.send
      ((countWithTags metricNameServerIoOutBytes diffValue commonTags).withTag .tcp)
    (client, { snap with outBytes := newValue })

def emitUdpIoToStatsd (client : StatsdClient) (stats snap : UdpIoSnapshot)
    (commonTags : StatsdTagGroup) : StatsdClient × UdpIoSnapshot :=
  let newValue := stats.inPackets
  if newValue = 0 ∧ snap.inPackets = 0 then (client, snap)
  else
    let diffValue := newValue - snap.inPackets
    let client := client.send
      ((countWithTags metricNameServerIoInPackets diffValue commonTags).withTag .udp)
    let snap := { snap with inPackets := newValue }
    let newValue := stats.inBytes
    let diffValue := newValue - snap.inBytes
    let client := client.send
      ((countWithTags metricNameServerIoInBytes diffValue commonTags).withTag .udp)
    let snap := { snap with inBytes := newValue }
    let newValue := stats.outPackets
    let diffValue := newValue - snap.outPackets
    let client := client.send
      ((countWithTags metricNameServerIoOutPackets diffValue commonTags).withTag .udp)
    let snap := { snap with outPackets := newValue }
    let newValue := stats.outBytes
    let diffValue := newValue - snap.outBytes
    let client := client.send
      ((countWithTags metricNameServerIoOutBytes diffValue commonTags).withTag .udp)
    (client, { snap with outBytes := newValue })

def emitUntrustedStats (client : StatsdClient) (stats snap : UntrustedTaskStatsSnapshot)
    (commonTags : StatsdTagGroup) : StatsdClient × UntrustedTaskStatsSnapshot :=
  let newValue := stats.taskTotal
  if newValue = 0 ∧ snap.taskTotal = 0 then (client, snap)
  else
    let diffValue := newValue - snap.taskTotal
    let client := client.send
      (countWithTags metricNameServerUntrustedTaskTotal diffValue commonTags)
    let snap := { snap with taskTotal := newValue }
    let client := client.send
      (gaugeWithTags metricNameServerUntrustedTaskAlive stats.taskAlive commonTags)
    let newValue := stats.inBytes
    let diffValue := newValue - snap.inBytes
    let client := client.send
      ((countWithTags metricNameServerIoUntrustedInBytes diffValue commonTags).withTag .tcp)
    (client, { snap with inBytes := newValue })

/-- The tags `emit_server_stats` puts on every metric of one server. -/
def ServerStats.commonTags (stats : ServerStats) : StatsdTagGroup :=
  ⟨stats.name, stats.isOnline, stats.statId, stats.extraTags⟩

def emitServerStats (client : StatsdClient) (stats : ServerStats) (snap : ServerSnapshot) :
    StatsdClient × ServerSnapshot :=
  let commonTags := stats.commonTags
  let newValue := stats.connTotal
  let diffValue := newValue - snap.connTotal
  let client := client.send (countWithTags metricNameServerConnTotal diffValue commonTags)
  let snap := { snap with connTotal := newValue }
  let newValue := stats.taskTotal
  let diffValue := newValue - snap.taskTotal
  let client := client.send (countWithTags metricNameServerTaskTotal diffValue commonTags)
  let snap := { snap with taskTotal := newValue }
  let client := client.send (gaugeWithTags metricNameServerTaskAlive stats.aliveCount commonTags)
  let (client, forbidden) := emitForbiddenStats client stats.forbidden snap.forbidden commonTags
  let snap := { snap with forbidden := forbidden }
  let (client, snap) := match stats.tcpIo with
    | some tcpIoStats =>
      let (client, tcp) := emitTcpIoToStatsd client tcpIoStats snap.tcp commonTags
      (client, { snap with tcp := tcp })
    | none => (client, snap)
  let (client, snap) := match stats.udpIo with
    | some udpIoStats =>
      let (client, udp) := emitUdpIoToStatsd client udpIoStats snap.udp commonTags
      (client, { snap with udp := udp })
    | none => (client, snap)
  match stats.untrusted with
  | some untrustedStats =>
    let (client, untrusted) := emitUntrustedStats client untrustedStats snap.untrusted commonTags
    (client, { snap with untrusted := untrusted })
  | none => (client, snap)

end G3Proxy.Stat
