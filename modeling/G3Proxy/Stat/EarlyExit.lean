import G3Proxy.Stat.Registry

/-!
# The zero-value early exits of the emitters

`emit_forbid_stats_u64!` skips a field only when its value and snapshot are both zero, and
loses nothing. The TCP, UDP and untrusted emitters test their first counter only and skip
the whole group: when the last emission of a stats object no server holds any more skips
a counter that moved, what it counted is never sent (`emitTcpIoToStatsd_skipsOutBytes`).
-/

namespace G3Proxy.Stat

open StatsdClient

/-- The counts of a list of metrics that are not zero. -/
def nonzeroCounts (metrics : List StatsdMetric) : List StatsdMetric :=
  metrics.filter fun metric => metric.value.isCount && metric.value.countValue != 0

/-! ## The emitters without their early exits -/

/-- `emit_tcp_io_to_statsd` without its early exit. -/
def emitTcpIoToStatsdUngated (client : StatsdClient) (stats snap : TcpIoSnapshot)
    (commonTags : StatsdTagGroup) : StatsdClient × TcpIoSnapshot :=
  let client := client.send ((countWithTags metricNameServerIoInBytes
    (stats.inBytes - snap.inBytes) commonTags).withTag .tcp)
  let client := client.send ((countWithTags metricNameServerIoOutBytes
    (stats.outBytes - snap.outBytes) commonTags).withTag .tcp)
  (client, stats)

/-! ## What is sent for a dropped stats object -/

/-- The counter whose zero test skips a field along with the rest of its group, for the
fields that are not themselves tested. -/
def Field.gate : Field → Option Field
  | .tcpOutBytes => some .tcpInBytes
  | .udpInBytes | .udpOutPackets | .udpOutBytes => some .udpInPackets
  | .untrustedInBytes => some .untrustedTaskTotal
  | _ => none

theorem Field.gated_self_getD (value snapValue : UInt64) :
    (Field.gated value snapValue value).getD snapValue = value := by
  unfold Field.gated
  split_ifs with closed
  · exact closed.2.trans closed.1.symm
  · rfl

theorem Field.gated_getD_of_open {gate gateSnap : UInt64} (value snapValue : UInt64)
    (opened : ¬(gate = 0 ∧ gateSnap = 0)) : (Field.gated gate gateSnap value).getD snapValue = value := by
  simp [Field.gated, opened]

theorem Field.emitted_getD_eq_read (f : Field) (stats : ServerStats) (snap : ServerSnapshot)
    {value : UInt64} (read : f.read stats = some value)
    (opened : ∀ g, f.gate = some g → ¬(g.read stats = some 0 ∧ g.snap snap = 0)) :
    (f.emitted stats snap).getD (f.snap snap) = value := by
  have tested : ∀ g, f.gate = some g → ∀ test, g.read stats = some test →
      ¬(test = 0 ∧ g.snap snap = 0) := by
    rintro g gate test testRead ⟨rfl, zero⟩
    exact opened g gate ⟨testRead, zero⟩
  cases f <;> simp only [Field.read, Option.map_eq_some', Option.some.injEq] at read
  case connTotal | taskTotal => simp [Field.emitted, Field.read, read]
  case authFailed | destDenied | userBlocked =>
    subst read
    exact Field.gated_self_getD _ _
  case tcpInBytes | udpInPackets | untrustedTaskTotal =>
    obtain ⟨group, present, rfl⟩ := read
    simp only [Field.emitted, Field.read, Field.snap, present, Option.some_bind, Option.map_some',
      Option.getD_some]
    exact Field.gated_self_getD _ _
  all_goals
    obtain ⟨group, present, rfl⟩ := read
    simp only [Field.emitted, Field.read, Field.snap, present, Option.some_bind, Option.map_some',
      Option.getD_some]
    exact Field.gated_getD_of_open _ _
      (tested _ rfl _ (by simp [Field.read, present]))

namespace Registry

/-- Once `emit_stats` drops an entry, the total sent for each field of its stats object
is what that last emission stored, and no later step changes it or the object. -/
theorem RegistryInv.emittedSum_of_dropped {r : Registry} (holds : RegistryInv r) {id : StatId}
    {snap : ServerSnapshot} (present : (id, snap) ∈ r.map) (dropped : id ∉ (r.step .emit).keys)
    (post : List RegistryOp) (f : Field) :
    ((r.step .emit).exec post).emittedSum id f = f.snap (r.emittedSnap (id, snap)) ∧
      ((r.step .emit).exec post).object id = r.object id := by
  obtain ⟨sameSent, sameObject⟩ := Gone.exec _ post (holds.gone_of_dropped present dropped)
  refine ⟨?_, sameObject⟩
  rw [emittedSum, sameSent f, ← emittedSum]
  exact holds.emittedSum_emit present f

/-- One `emit_stats` brings the total sent for each field of each entry's stats object to
the value it reads, unless the zero test of another counter of the field's group fires. -/
theorem exec_emit_totalsUpToDate (ops : List RegistryOp) :
    ∀ id snap stats f value, (id, snap) ∈ (init.exec ops).map →
      (init.exec ops).object id = some stats → f.read stats = some value →
      (∀ g, f.gate = some g → ¬(g.read stats = some 0 ∧ g.snap snap = 0)) →
      ((init.exec ops).step .emit).emittedSum id f = value := by
  intro id snap stats f value present found read opened
  rw [Registry.step, (registryInv_exec ops).emittedSum_emit present f, snap_emittedSnap _ found]
  exact Field.emitted_getD_eq_read f stats snap read opened

/-- A server that has received one byte and sent two, emitted once while running. -/
theorem exec_emit_totalsUpToDate_tcpOutBytes :
    ((init.exec [.spawn ⟨"server", true, 0, [], 0, 0, 0, {}, some ⟨1, 2⟩, none, none⟩, .sync]).step
      .emit).emittedSum 0 .tcpOutBytes = 2 :=
  exec_emit_totalsUpToDate [.spawn ⟨"server", true, 0, [], 0, 0, 0, {}, some ⟨1, 2⟩, none, none⟩, .sync]
    0 {} ⟨"server", true, 0, [], 0, 0, 0, {}, some ⟨1, 2⟩, none, none⟩ .tcpOutBytes 2 (by decide)
    (by decide) rfl (by rintro g ⟨⟩; decide)

end Registry

/-- A server whose TCP `in_bytes` is still zero but whose `out_bytes` is one. The
emission stores neither and sends nothing, where the form without the early exit sends the
byte out. When the server stops and `emit_stats` drops its entry, the byte is never sent:
whatever runs after, the total sent for `out_bytes` stays zero while the object reads one. -/
theorem emitTcpIoToStatsd_skipsOutBytes :
    (emitTcpIoToStatsd ⟨[]⟩ ⟨0, 1⟩ ⟨0, 0⟩ ⟨"server", true, 0, []⟩).2 ≠ ⟨0, 1⟩ ∧
    nonzeroCounts (emitTcpIoToStatsd ⟨[]⟩ ⟨0, 1⟩ ⟨0, 0⟩ ⟨"server", true, 0, []⟩).1.sent ≠
      nonzeroCounts (emitTcpIoToStatsdUngated ⟨[]⟩ ⟨0, 1⟩ ⟨0, 0⟩ ⟨"server", true, 0, []⟩).1.sent ∧
    (0, ({} : ServerSnapshot)) ∈
      (Registry.init.exec [.spawn ⟨"server", true, 0, [], 0, 0, 0, {}, some ⟨0, 1⟩, none, none⟩, .sync, .remove 0]).map ∧
    0 ∉ (Registry.init.exec [.spawn ⟨"server", true, 0, [], 0, 0, 0, {}, some ⟨0, 1⟩, none, none⟩, .sync, .remove 0, .emit]).keys ∧
    ∀ post, ((Registry.init.exec ([.spawn ⟨"server", true, 0, [], 0, 0, 0, {}, some ⟨0, 1⟩, none, none⟩, .sync, .remove 0, .emit] ++ post)).object 0).bind
        Field.tcpOutBytes.read = some 1 ∧
      (Registry.init.exec ([.spawn ⟨"server", true, 0, [], 0, 0, 0, {}, some ⟨0, 1⟩, none, none⟩, .sync, .remove 0, .emit] ++ post)).emittedSum 0
        .tcpOutBytes = 0 := by
  have present : (0, ({} : ServerSnapshot)) ∈
      (Registry.init.exec [.spawn ⟨"server", true, 0, [], 0, 0, 0, {}, some ⟨0, 1⟩, none, none⟩, .sync, .remove 0]).map := by decide
  have dropped : 0 ∉ ((Registry.init.exec [.spawn ⟨"server", true, 0, [], 0, 0, 0, {}, some ⟨0, 1⟩, none, none⟩, .sync, .remove 0]).step .emit).keys := by
    decide
  refine ⟨by decide, by decide, present, dropped, fun post => ?_⟩
  obtain ⟨total, sameObject⟩ :=
    (Registry.registryInv_exec _).emittedSum_of_dropped present dropped post .tcpOutBytes
  simp only [Registry.exec_cons, Registry.exec_nil, List.cons_append, List.nil_append]
    at total sameObject ⊢
  rw [total, sameObject]
  exact ⟨by decide, by decide⟩

end G3Proxy.Stat
