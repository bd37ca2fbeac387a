import G3Proxy.Stat.Server

/-!
# One cumulative field at a time

`Field` names the thirteen cumulative counters `emit_server_stats` reports, and
`Field.emitted` what one emission does with one of them: the value it reads and sends the
difference of, or nothing when the group is absent or its early exit fires.
-/

namespace G3Proxy.Stat

open StatsdClient

/-- The cumulative counters of a server, in the order `emit_server_stats` sends them. -/
inductive Field where
  | connTotal
  | taskTotal
  | authFailed
  | destDenied
  | userBlocked
  | tcpInBytes
  | tcpOutBytes
  | udpInPackets
  | udpInBytes
  | udpOutPackets
  | udpOutBytes
  | untrustedTaskTotal
  | untrustedInBytes
deriving DecidableEq, Repr

namespace Field

def all : List Field :=
  [connTotal, taskTotal, authFailed, destDenied, userBlocked, tcpInBytes, tcpOutBytes,
    udpInPackets, udpInBytes, udpOutPackets, udpOutBytes, untrustedTaskTotal, untrustedInBytes]

def metricName : Field → String
  | connTotal => metricNameServerConnTotal
  | taskTotal => metricNameServerTaskTotal
  | authFailed => metricNameServerForbiddenAuthFailed
  | destDenied => metricNameServerForbiddenDestDenied
  | userBlocked => metricNameServerForbiddenUserBlocked
  | tcpInBytes => metricNameServerIoInBytes
  | tcpOutBytes => metricNameServerIoOutBytes
  | udpInPackets => metricNameServerIoInPackets
  | udpInBytes => metricNameServerIoInBytes
  | udpOutPackets => metricNameServerIoOutPackets
  | udpOutBytes => metricNameServerIoOutBytes
  | untrustedTaskTotal => metricNameServerUntrustedTaskTotal
  | untrustedInBytes => metricNameServerIoUntrustedInBytes

def transport : Field → Option Transport
  | tcpInBytes | tcpOutBytes | untrustedInBytes => some .tcp
  | udpInPackets | udpInBytes | udpOutPackets | udpOutBytes => some .udp
  | _ => none

def metric (f : Field) (value : UInt64) (tags : StatsdTagGroup) : StatsdMetric :=
  ⟨f.metricName, .count value, tags, f.transport⟩

/-- The field a count sent under `name` with `transport` reports, if any. -/
def ofKey (name : String) (transport : Option Transport) : Option Field :=
  all.find? fun f => f.metricName = name ∧ f.transport = transport

theorem ofKey_key (f : Field) : ofKey f.metricName f.transport = some f := by
  cases f <;> decide

/-- Whether `metric` is a count of field `f` of the stats object `id`. -/
def reports (f : Field) (id : StatId) (metric : StatsdMetric) : Bool :=
  ofKey metric.name metric.transport = some f ∧ metric.tags.statId = id ∧
    metric.value.isCount

@[simp]
theorem reports_metric (f g : Field) (id : StatId) (value : UInt64) (tags : StatsdTagGroup) :
    f.reports id (g.metric value tags) = (g = f ∧ tags.statId = id : Bool) := by
  simp [reports, metric, ofKey_key, MetricValue.isCount]

@[simp]
theorem reports_gauge (f : Field) (id : StatId) (name : String) (value : Int)
    (tags : StatsdTagGroup) : f.reports id (gaugeWithTags name value tags) = false := by
  simp [reports, gaugeWithTags, MetricValue.isCount]

def snap : Field → ServerSnapshot → UInt64
  | connTotal, s => s.connTotal
  | taskTotal, s => s.taskTotal
  | authFailed, s => s.forbidden.authFailed
  | destDenied, s => s.forbidden.destDenied
  | userBlocked, s => s.forbidden.userBlocked
  | tcpInBytes, s => s.tcp.inBytes
  | tcpOutBytes, s => s.tcp.outBytes
  | udpInPackets, s => s.udp.inPackets
  | udpInBytes, s => s.udp.inBytes
  | udpOutPackets, s => s.udp.outPackets
  | udpOutBytes, s => s.udp.outBytes
  | untrustedTaskTotal, s => s.untrusted.taskTotal
  | untrustedInBytes, s => s.untrusted.inBytes

@[simp]
theorem snap_default (f : Field) : f.snap {} = 0 := by
  cases f <;> rfl

/-- The value of a field in a stats object, when the server has the field's group. -/
def read : Field → ServerStats → Option UInt64
  | connTotal, s => some s.connTotal
  | taskTotal, s => some s.taskTotal
  | authFailed, s => some s.forbidden.authFailed
  | destDenied, s => some s.forbidden.destDenied
  | userBlocked, s => some s.forbidden.userBlocked
  | tcpInBytes, s => s.tcpIo.map (·.inBytes)
  | tcpOutBytes, s => s.tcpIo.map (·.outBytes)
  | udpInPackets, s => s.udpIo.map (·.inPackets)
  | udpInBytes, s => s.udpIo.map (·.inBytes)
  | udpOutPackets, s => s.udpIo.map (·.outPackets)
  | udpOutBytes, s => s.udpIo.map (·.outBytes)
  | untrustedTaskTotal, s => s.untrusted.map (·.taskTotal)
  | untrustedInBytes, s => s.untrusted.map (·.inBytes)

/-- `value`, unless the gating counter and its snapshot are both zero. -/
def gated (gate gateSnap value : UInt64) : Option UInt64 :=
  if gate = 0 ∧ gateSnap = 0 then none else some value

/-- What one emission does with a field: the value it reads and sends the difference of,
or `none` when it sends nothing for the field. -/
def emitted (f : Field) (stats : ServerStats) (snap : ServerSnapshot) : Option UInt64 :=
  match f with
  | connTotal | taskTotal => f.read stats
  | authFailed | destDenied | userBlocked =>
    (f.read stats).bind fun value => gated value (f.snap snap) value
  | tcpInBytes | tcpOutBytes =>
    stats.tcpIo.bind fun tcp => gated tcp.inBytes snap.tcp.inBytes ((f.read stats).getD 0)
  | udpInPackets | udpInBytes | udpOutPackets | udpOutBytes =>
    stats.udpIo.bind fun udp => gated udp.inPackets snap.udp.inPackets ((f.read stats).getD 0)
  | untrustedTaskTotal | untrustedInBytes =>
    stats.untrusted.bind fun untrusted =>
      gated untrusted.taskTotal snap.untrusted.taskTotal ((f.read stats).getD 0)

/-- The counts an emission sends for a field, with the tags of the stats object. -/
def emission (f : Field) (stats : ServerStats) (snap : ServerSnapshot) : List StatsdMetric :=
  ((f.emitted stats snap).map fun value => f.metric (value - f.snap snap) stats.commonTags).toList

theorem snap_add_countSum_emission (f : Field) (stats : ServerStats) (snap : ServerSnapshot) :
    f.snap snap + countSum (f.emission stats snap) = (f.emitted stats snap).getD (f.snap snap) := by
  unfold emission
  cases f.emitted stats snap with
  | none => simp
  | some value => simp [metric, MetricValue.countValue, add_sub_cancel]

theorem read_of_emitted {f : Field} {stats : ServerStats} {snap : ServerSnapshot} {value : UInt64}
    (sent : f.emitted stats snap = some value) : f.read stats = some value := by
  cases f <;> simp only [emitted, read, gated, Option.bind_eq_some, Option.map_eq_some',
    Option.getD_map] at sent ⊢ <;> aesop

@[simp]
theorem filter_emission (f g : Field) (id : StatId) (stats : ServerStats) (snap : ServerSnapshot) :
    (g.emission stats snap).filter (f.reports id) =
      if g = f ∧ stats.statId = id then g.emission stats snap else [] := by
  unfold emission
  cases g.emitted stats snap <;> by_cases same : g = f <;> by_cases owned : stats.statId = id <;>
    simp [same, owned, ServerStats.commonTags]

end Field

/-! ## What each emitter does, field by field -/

section Emitters

variable (client : StatsdClient) (stats : ServerStats) (snap : ServerSnapshot)

open Field

theorem emitForbidStatsU64_eq (newValue snapValue : UInt64) (name : String)
    (commonTags : StatsdTagGroup) :
    emitForbidStatsU64 client newValue snapValue name commonTags =
      (⟨client.sent ++ ((gated newValue snapValue newValue).map fun value =>
          countWithTags name (value - snapValue) commonTags).toList⟩,
        (gated newValue snapValue newValue).getD snapValue) := by
  unfold emitForbidStatsU64 gated
  by_cases closed : newValue = 0 ∧ snapValue = 0
  · simp [closed]
  · have opened : newValue ≠ 0 ∨ snapValue ≠ 0 := by tauto
    simp [closed, opened, send]

theorem emitForbiddenStats_eq :
    emitForbiddenStats client stats.forbidden snap.forbidden stats.commonTags =
      (⟨client.sent ++ authFailed.emission stats snap ++ destDenied.emission stats snap ++
          userBlocked.emission stats snap⟩,
        ⟨(authFailed.emitted stats snap).getD snap.forbidden.authFailed,
          (destDenied.emitted stats snap).getD snap.forbidden.destDenied,
          (userBlocked.emitted stats snap).getD snap.forbidden.userBlocked⟩) := by
  simp [emitForbiddenStats, emitForbidStatsU64_eq, Field.emission, Field.emitted, Field.read,
    Field.snap, Field.metric, Field.metricName, Field.transport, countWithTags, Function.comp_def]

theorem emitTcpIoToStatsd_eq (tcp : TcpIoSnapshot) (hasTcp : stats.tcpIo = some tcp) :
    emitTcpIoToStatsd client tcp snap.tcp stats.commonTags =
      (⟨client.sent ++ tcpInBytes.emission stats snap ++ tcpOutBytes.emission stats snap⟩,
        ⟨(tcpInBytes.emitted stats snap).getD snap.tcp.inBytes,
          (tcpOutBytes.emitted stats snap).getD snap.tcp.outBytes⟩) := by
  unfold emitTcpIoToStatsd
  by_cases closed : tcp.inBytes = 0 ∧ snap.tcp.inBytes = 0
  · simp [closed, hasTcp, Field.emission, Field.emitted, Field.read, Field.snap, gated]
    rw [← closed.2]
  · simp [closed, hasTcp, Field.emission, Field.emitted, Field.read, Field.snap, gated,
      Field.metric, Field.metricName, Field.transport, countWithTags, gaugeWithTags,
      StatsdMetric.withTag, send]

theorem emitUdpIoToStatsd_eq (udp : UdpIoSnapshot) (hasUdp : stats.udpIo = some udp) :
    emitUdpIoToStatsd client udp snap.udp stats.commonTags =
      (⟨client.sent ++ udpInPackets.emission stats snap ++ udpInBytes.emission stats snap ++
          udpOutPackets.emission stats snap ++ udpOutBytes.emission stats snap⟩,
        ⟨(udpInPackets.emitted stats snap).getD snap.udp.inPackets,
          (udpInBytes.emitted stats snap).getD snap.udp.inBytes,
          (udpOutPackets.emitted stats snap).getD snap.udp.outPackets,
          (udpOutBytes.emitted stats snap).getD snap.udp.outBytes⟩) := by
  unfold emitUdpIoToStatsd
  by_cases closed : udp.inPackets = 0 ∧ snap.udp.inPackets = 0
  · simp [closed, hasUdp, Field.emission, Field.emitted, Field.read, Field.snap, gated]
    rw [← closed.2]
  · simp [closed, hasUdp, Field.emission, Field.emitted, Field.read, Field.snap, gated,
      Field.metric, Field.metricName, Field.transport, countWithTags, gaugeWithTags,
      StatsdMetric.withTag, send]

theorem emitUntrustedStats_eq (untrusted : UntrustedTaskStatsSnapshot)
    (hasUntrusted : stats.untrusted = some untrusted) :
    emitUntrustedStats client untrusted snap.untrusted stats.commonTags =
      (⟨client.sent ++ untrustedTaskTotal.emission stats snap ++
          ((untrustedTaskTotal.emitted stats snap).map fun _ =>
            gaugeWithTags metricNameServerUntrustedTaskAlive untrusted.taskAlive
              stats.commonTags).toList ++
          untrustedInBytes.emission stats snap⟩,
        ⟨(untrustedTaskTotal.emitted stats snap).getD snap.untrusted.taskTotal,
          snap.untrusted.taskAlive,
          (untrustedInBytes.emitted stats snap).getD snap.untrusted.inBytes⟩) := by
  unfold emitUntrustedStats
  by_cases closed : untrusted.taskTotal = 0 ∧ snap.untrusted.taskTotal = 0
  · simp [closed, hasUntrusted, Field.emission, Field.emitted, Field.read, Field.snap, gated]
    rw [← closed.2]
  · simp [closed, hasUntrusted, Field.emission, Field.emitted, Field.read, Field.snap, gated,
      Field.metric, Field.metricName, Field.transport, countWithTags, gaugeWithTags,
      StatsdMetric.withTag, send]

/-- What `emit_server_stats` sends and leaves, in terms of each field's emission: the
counts of the fields in order, with the `task_alive` gauge after the task count and the
untrusted `task_alive` gauge when the untrusted group does not exit early. -/
theorem emitServerStats_eq :
    emitServerStats client stats snap =
      (⟨client.sent ++ connTotal.emission stats snap ++ taskTotal.emission stats snap ++
          [gaugeWithTags metricNameServerTaskAlive stats.aliveCount stats.commonTags] ++
          authFailed.emission stats snap ++ destDenied.emission stats snap ++
          userBlocked.emission stats snap ++
          tcpInBytes.emission stats snap ++ tcpOutBytes.emission stats snap ++
          udpInPackets.emission stats snap ++ udpInBytes.emission stats snap ++
          udpOutPackets.emission stats snap ++ udpOutBytes.emission stats snap ++
          untrustedTaskTotal.emission stats snap ++
          (stats.untrusted.bind fun untrusted => (untrustedTaskTotal.emitted stats snap).map
            fun _ => gaugeWithTags metricNameServerUntrustedTaskAlive untrusted.taskAlive
              stats.commonTags).toList ++
          untrustedInBytes.emission stats snap⟩,
        { connTotal := stats.connTotal
          taskTotal := stats.taskTotal
          forbidden := ⟨(authFailed.emitted stats snap).getD snap.forbidden.authFailed,
            (destDenied.emitted stats snap).getD snap.forbidden.destDenied,
            (userBlocked.emitted stats snap).getD snap.forbidden.userBlocked⟩
          tcp := ⟨(tcpInBytes.emitted stats snap).getD snap.tcp.inBytes,
            (tcpOutBytes.emitted stats snap).getD snap.tcp.outBytes⟩
          udp := ⟨(udpInPackets.emitted stats snap).getD snap.udp.inPackets,
            (udpInBytes.emitted stats snap).getD snap.udp.inBytes,
            (udpOutPackets.emitted stats snap).getD snap.udp.outPackets,
            (udpOutBytes.emitted stats snap).getD snap.udp.outBytes⟩
          untrusted := ⟨(untrustedTaskTotal.emitted stats snap).getD snap.untrusted.taskTotal,
            snap.untrusted.taskAlive,
            (untrustedInBytes.emitted stats snap).getD snap.untrusted.inBytes⟩ }) := by
  unfold emitServerStats
  rcases hasTcp : stats.tcpIo with _ | tcp <;> rcases hasUdp : stats.udpIo with _ | udp <;>
    rcases hasUntrusted : stats.untrusted with _ | untrusted <;>
    simp [emitForbiddenStats_eq, emitTcpIoToStatsd_eq, emitUdpIoToStatsd_eq, emitUntrustedStats_eq,
      Field.emission, Field.emitted, hasTcp, hasUdp, hasUntrusted, send, Field.metric,
      Field.metricName, Field.transport, countWithTags, Field.read, Field.snap]

theorem emitServerStats_reports (f : Field) (id : StatId) :
    (emitServerStats client stats snap).1.sent.filter (f.reports id) =
      client.sent.filter (f.reports id) ++ if stats.statId = id then f.emission stats snap else [] := by
  have gauges : ((stats.untrusted.bind fun untrusted => (untrustedTaskTotal.emitted stats snap).map
      fun _ => gaugeWithTags metricNameServerUntrustedTaskAlive untrusted.taskAlive
        stats.commonTags).toList).filter (f.reports id) = [] := by
    rcases stats.untrusted with _ | untrusted <;>
      rcases untrustedTaskTotal.emitted stats snap with _ | value <;> simp
  rw [emitServerStats_eq]
  simp only [List.filter_append, filter_emission, gauges, List.filter_cons, reports_gauge,
    List.filter_nil]
  by_cases owned : stats.statId = id <;> cases f <;> simp [owned]

theorem emitServerStats_snap (f : Field) :
    f.snap (emitServerStats client stats snap).2 = (f.emitted stats snap).getD (f.snap snap) := by
  rw [emitServerStats_eq]
  cases f <;> simp [Field.snap, Field.emitted, Field.read]

end Emitters

end G3Proxy.Stat
