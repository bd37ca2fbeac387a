import G3Proxy.Stat.Fields

/-!
# `SERVER_STATS_MAP` over whole runs

The registry holds the stats objects, the running servers with the stats object each
returns from `get_server_stats`, `SERVER_STATS_MAP` from ids to snapshots, and what the
statsd client has sent. A run interleaves server creation and removal, counter
increments, `sync_stats` and `emit_stats` in any order. The map is an association list:
`AHashMap` iterates in no specified order, and every result here holds whatever order the
list has. The listen half of the two functions is `G3Proxy.Stat.Listen`.

The invariant `RegistryInv` says, for every entry of the map and every field, that the
counts sent for that field of that stats object add up, modulo `2^64`, to the snapshot.
-/

namespace G3Proxy.Stat

/-- A cumulative counter growing by a wrapping add, when the server has its group. -/
def Field.add (f : Field) (amount : UInt64) (stats : ServerStats) : ServerStats :=
  match f with
  | .connTotal => { stats with connTotal := stats.connTotal + amount }
  | .taskTotal => { stats with taskTotal := stats.taskTotal + amount }
  | .authFailed => { stats with forbidden :=
      { stats.forbidden with authFailed := stats.forbidden.authFailed + amount } }
  | .destDenied => { stats with forbidden :=
      { stats.forbidden with destDenied := stats.forbidden.destDenied + amount } }
  | .userBlocked => { stats with forbidden :=
      { stats.forbidden with userBlocked := stats.forbidden.userBlocked + amount } }
  | .tcpInBytes => { stats with tcpIo := stats.tcpIo.map fun s =>
      { s with inBytes := s.inBytes + amount } }
  | .tcpOutBytes => { stats with tcpIo := stats.tcpIo.map fun s =>
      { s with outBytes := s.outBytes + amount } }
  | .udpInPackets => { stats with udpIo := stats.udpIo.map fun s =>
      { s with inPackets := s.inPackets + amount } }
  | .udpInBytes => { stats with udpIo := stats.udpIo.map fun s =>
      { s with inBytes := s.inBytes + amount } }
  | .udpOutPackets => { stats with udpIo := stats.udpIo.map fun s =>
      { s with outPackets := s.outPackets + amount } }
  | .udpOutBytes => { stats with udpIo := stats.udpIo.map fun s =>
      { s with outBytes := s.outBytes + amount } }
  | .untrustedTaskTotal => { stats with untrusted := stats.untrusted.map fun s =>
      { s with taskTotal := s.taskTotal + amount } }
  | .untrustedInBytes => { stats with untrusted := stats.untrusted.map fun s =>
      { s with inBytes := s.inBytes + amount } }

/-- The stats objects, the running servers, `SERVER_STATS_MAP`, the statsd client, and the
next fresh id. -/
structure Registry where
  objects : List ServerStats
  servers : List (Option StatId)
  map : List (StatId × ServerSnapshot)
  client : StatsdClient
  nextId : StatId
deriving DecidableEq, Repr

/-- What can happen between two steps: a new server with a new stats object under a fresh
id, or without server stats; a new server keeping the stats object of running server
`index`, as on reload; a server stopping; a counter of running server `index`'s object
growing, or its alive gauge changing; `sync_stats` and `emit_stats`. -/
inductive RegistryOp where
  | spawn (stats : ServerStats)
  | spawnWithoutStats
  | share (index : Nat)
  | remove (index : Nat)
  | increment (index : Nat) (f : Field) (amount : UInt64)
  | setAlive (index : Nat) (aliveCount : Int)
  | sync
  | emit
deriving DecidableEq, Repr

/-- The steps that only move servers: neither the map, the client nor the next id change,
and no stats object gets a new holder. -/
def RegistryOp.movesServersOnly : RegistryOp → Bool
  | .spawn _ | .sync | .emit => false
  | _ => true

namespace Registry

def init : Registry :=
  ⟨[], [], [], ⟨[]⟩, 0⟩

def object (r : Registry) (id : StatId) : Option ServerStats :=
  r.objects.find? (·.statId = id)

/-- `Arc::strong_count` of the stats object `id` while the map holds it: the map's
reference and one for each running server holding it. -/
def strongCount (r : Registry) (id : StatId) : Nat :=
  1 + r.servers.count (some id)

/-- `entry(stat_id).or_insert_with(|| (stats, ServerSnapshot::default()))`. -/
def orInsertDefault (map : List (StatId × ServerSnapshot)) (id : StatId) :
    List (StatId × ServerSnapshot) :=
  if id ∈ map.map Prod.fst then map else map ++ [(id, ({} : ServerSnapshot))]

/-- The body of the server loop of `sync_stats`. -/
def insertServer (map : List (StatId × ServerSnapshot)) : Option StatId →
    List (StatId × ServerSnapshot)
  | some id => orInsertDefault map id
  | none => map

/-- The server half of `sync_stats`: every running server with stats gets an entry. -/
def syncStats (r : Registry) : Registry :=
  { r with map := r.servers.foldl insertServer r.map }

/-- The `retain` of `emit_stats`: emit each entry, and keep it while a server still holds
its stats object. -/
def emitEntries (r : Registry) :
    List (StatId × ServerSnapshot) → StatsdClient → List (StatId × ServerSnapshot) × StatsdClient
  | [], client => ([], client)
  | (id, snap) :: rest, client =>
    let (client, snap) := match r.object id with
      | some stats => emitServerStats client stats snap
      | none => (client, snap)
    let (rest, client) := r.emitEntries rest client
    (if 1 < r.strongCount id then (id, snap) :: rest else rest, client)

def emitStats (r : Registry) : Registry :=
  let (map, client) := r.emitEntries r.map r.client
  { r with map := map, client := client }

/-- Change the stats object of running server `index`, if it has one. -/
def updateHeld (r : Registry) (index : Nat) (change : ServerStats → ServerStats) : Registry :=
  match r.servers.getD index none with
  | some id => { r with objects := r.objects.map fun s => if s.statId = id then change s else s }
  | none => r

def step (r : Registry) : RegistryOp → Registry
  | .spawn stats =>
    { r with objects := r.objects ++ [{ stats with statId := r.nextId }],
             servers := r.servers ++ [some r.nextId],
             nextId := r.nextId + 1 }
  | .spawnWithoutStats => { r with servers := r.servers ++ [none] }
  | .share index =>
    match r.servers.getD index none with
    | some id => { r with servers := r.servers ++ [some id] }
    | none => r
  | .remove index => { r with servers := r.servers.eraseIdx index }
  | .increment index f amount => r.updateHeld index (f.add amount)
  | .setAlive index aliveCount => r.updateHeld index fun s => { s with aliveCount := aliveCount }
  | .sync => r.syncStats
  | .emit => r.emitStats

def exec (r : Registry) (ops : List RegistryOp) : Registry :=
  ops.foldl step r

@[simp]
theorem exec_nil (r : Registry) : r.exec [] = r :=
  rfl

@[simp]
theorem exec_cons (r : Registry) (op : RegistryOp) (ops : List RegistryOp) :
    r.exec (op :: ops) = (r.step op).exec ops :=
  rfl

theorem exec_append (r : Registry) (first second : List RegistryOp) :
    r.exec (first ++ second) = (r.exec first).exec second :=
  List.foldl_append _ _ _ _

/-- The counts sent so far for field `f` of the stats object `id`. -/
def sentFor (r : Registry) (id : StatId) (f : Field) : List StatsdMetric :=
  r.client.sent.filter (f.reports id)

/-- Their sum modulo `2^64`. -/
def emittedSum (r : Registry) (id : StatId) (f : Field) : UInt64 :=
  countSum (r.sentFor id f)

def keys (r : Registry) : List StatId :=
  r.map.map Prod.fst

theorem object_statId {r : Registry} {id : StatId} {stats : ServerStats}
    (found : r.object id = some stats) : stats.statId = id := by
  simpa using List.find?_some found

/-! ## One emission of the map -/

/-- What emitting one entry sends for field `f`. -/
def entryEmission (r : Registry) (f : Field) (entry : StatId × ServerSnapshot) :
    List StatsdMetric :=
  match r.object entry.1 with
  | some stats => f.emission stats entry.2
  | none => []

/-- The snapshot emitting one entry leaves. -/
def emittedSnap (r : Registry) (entry : StatId × ServerSnapshot) : ServerSnapshot :=
  match r.object entry.1 with
  | some stats => (emitServerStats ⟨[]⟩ stats entry.2).2
  | none => entry.2

theorem emitServerStats_snd (client client' : StatsdClient) (stats : ServerStats)
    (snap : ServerSnapshot) :
    (emitServerStats client stats snap).2 = (emitServerStats client' stats snap).2 := by
  rw [emitServerStats_eq, emitServerStats_eq]

variable (r : Registry)

theorem emitEntries_reports (entries : List (StatId × ServerSnapshot)) (client : StatsdClient)
    (id : StatId) (f : Field) :
    (r.emitEntries entries client).2.sent.filter (f.reports id) =
      client.sent.filter (f.reports id) ++
        (entries.filter (·.1 = id)).flatMap (r.entryEmission f) := by
  induction entries generalizing client with
  | nil => simp [emitEntries]
  | cons entry rest inductionHypothesis =>
    obtain ⟨id', snap⟩ := entry
    by_cases same : id' = id
    · subst same
      rcases found : r.object id' with _ | stats
      · simp [emitEntries, found, inductionHypothesis, entryEmission]
      · simp [emitEntries, found, inductionHypothesis, entryEmission, emitServerStats_reports,
          object_statId found]
    · rcases found : r.object id' with _ | stats
      · simp [emitEntries, found, inductionHypothesis, same]
      · simp [emitEntries, found, inductionHypothesis, same, emitServerStats_reports,
          object_statId found]

theorem emitEntries_fst (entries : List (StatId × ServerSnapshot)) (client : StatsdClient) :
    (r.emitEntries entries client).1 = entries.filterMap fun entry =>
      if 1 < r.strongCount entry.1 then some (entry.1, r.emittedSnap entry) else none := by
  induction entries generalizing client with
  | nil => rfl
  | cons entry rest inductionHypothesis =>
    obtain ⟨id', snap⟩ := entry
    rcases found : r.object id' with _ | stats <;>
      by_cases kept : 1 < r.strongCount id' <;>
      simp [emitEntries, found, inductionHypothesis, emittedSnap, kept,
        emitServerStats_snd _ ⟨[]⟩]

/-! ## One synchronisation of the map -/

section Sync

variable {map : List (StatId × ServerSnapshot)}

theorem keys_insertServer (map : List (StatId × ServerSnapshot)) (server : Option StatId) :
    map.map Prod.fst ⊆ (insertServer map server).map Prod.fst := by
  cases server with
  | none => exact List.Subset.refl _
  | some id =>
    simp only [insertServer, orInsertDefault]
    split_ifs <;> simp

theorem nodup_insertServer (nodup : (map.map Prod.fst).Nodup) (server : Option StatId) :
    ((insertServer map server).map Prod.fst).Nodup := by
  cases server with
  | none => exact nodup
  | some id =>
    simp only [insertServer, orInsertDefault]
    split_ifs with present
    · exact nodup
    · simpa [List.nodup_append, present] using nodup

theorem mem_insertServer {entry : StatId × ServerSnapshot} {server : Option StatId}
    (present : entry ∈ insertServer map server) :
    entry ∈ map ∨ (entry.2 = {} ∧ server = some entry.1 ∧ entry.1 ∉ map.map Prod.fst) := by
  cases server with
  | none => exact Or.inl present
  | some id =>
    simp only [insertServer, orInsertDefault] at present
    split_ifs at present with known
    · exact Or.inl present
    · rcases List.mem_append.mp present with old | added
      · exact Or.inl old
      · obtain rfl := List.mem_singleton.mp added
        exact Or.inr ⟨rfl, rfl, known⟩

theorem held_insertServer (map : List (StatId × ServerSnapshot)) (id : StatId) :
    id ∈ (insertServer map (some id)).map Prod.fst := by
  simp only [insertServer, orInsertDefault]
  split_ifs with present
  · exact present
  · simp

variable (servers : List (Option StatId))

theorem mem_insertServer_of_mem {entry : StatId × ServerSnapshot} (present : entry ∈ map)
    (server : Option StatId) : entry ∈ insertServer map server := by
  cases server with
  | none => exact present
  | some id =>
    simp only [insertServer, orInsertDefault]
    split_ifs
    · exact present
    · exact List.mem_append_left _ present

theorem keys_foldl_insertServer (map : List (StatId × ServerSnapshot)) :
    map.map Prod.fst ⊆ (servers.foldl insertServer map).map Prod.fst := by
  induction servers generalizing map with
  | nil => exact List.Subset.refl _
  | cons server rest inductionHypothesis =>
    exact (keys_insertServer map server).trans (inductionHypothesis _)

theorem nodup_foldl_insertServer (nodup : (map.map Prod.fst).Nodup) :
    ((servers.foldl insertServer map).map Prod.fst).Nodup := by
  induction servers generalizing map with
  | nil => exact nodup
  | cons server rest inductionHypothesis =>
    exact inductionHypothesis (nodup_insertServer nodup server)

theorem mem_foldl_insertServer_of_mem {entry : StatId × ServerSnapshot} (present : entry ∈ map) :
    entry ∈ servers.foldl insertServer map := by
  induction servers generalizing map with
  | nil => exact present
  | cons server rest inductionHypothesis =>
    exact inductionHypothesis (mem_insertServer_of_mem present server)

/-- Every entry after `sync_stats` was there before, or is a fresh default entry for a
running server's stats object the map did not have. -/
theorem mem_foldl_insertServer {entry : StatId × ServerSnapshot}
    (present : entry ∈ servers.foldl insertServer map) :
    entry ∈ map ∨ (entry.2 = {} ∧ some entry.1 ∈ servers ∧ entry.1 ∉ map.map Prod.fst) := by
  induction servers generalizing map with
  | nil => exact Or.inl present
  | cons server rest inductionHypothesis =>
    rcases inductionHypothesis present with inserted | ⟨isDefault, held, absent⟩
    · rcases mem_insertServer inserted with old | ⟨isDefault, rfl, absent⟩
      · exact Or.inl old
      · exact Or.inr ⟨isDefault, List.mem_cons_self _ _, absent⟩
    · exact Or.inr ⟨isDefault, List.mem_cons_of_mem _ held,
        fun known => absent (keys_insertServer map server known)⟩

theorem held_foldl_insertServer {id : StatId} (held : some id ∈ servers)
    (map : List (StatId × ServerSnapshot)) :
    id ∈ (servers.foldl insertServer map).map Prod.fst := by
  induction servers generalizing map with
  | nil => cases held
  | cons server rest inductionHypothesis =>
    rcases List.mem_cons.mp held with rfl | later
    · exact keys_foldl_insertServer rest _ (held_insertServer map id)
    · exact inductionHypothesis later _

end Sync

theorem snap_add_countSum_entryEmission (f : Field) (entry : StatId × ServerSnapshot) :
    f.snap entry.2 + countSum (r.entryEmission f entry) = f.snap (r.emittedSnap entry) := by
  unfold entryEmission emittedSnap
  cases r.object entry.1 with
  | none => simp
  | some stats => rw [emitServerStats_snap, Field.snap_add_countSum_emission]

theorem snap_emittedSnap {id : StatId} {stats : ServerStats} (found : r.object id = some stats)
    (snap : ServerSnapshot) (f : Field) :
    f.snap (r.emittedSnap (id, snap)) = (f.emitted stats snap).getD (f.snap snap) := by
  simp only [emittedSnap, found, emitServerStats_snap]

theorem flatMap_filter_key {β : Type} {map : List (StatId × ServerSnapshot)}
    (nodup : (map.map Prod.fst).Nodup) {id : StatId} {snap : ServerSnapshot}
    (present : (id, snap) ∈ map) (g : StatId × ServerSnapshot → List β) :
    (map.filter (·.1 = id)).flatMap g = g (id, snap) := by
  induction map with
  | nil => cases present
  | cons entry rest inductionHypothesis =>
    obtain ⟨fresh, nodupRest⟩ := List.nodup_cons.mp nodup
    rcases List.mem_cons.mp present with rfl | later
    · have absent : rest.filter (·.1 = id) = [] := by
        rw [List.filter_eq_nil_iff]
        intro other member same
        exact fresh (List.mem_map.mpr ⟨other, member, by simpa using same⟩)
      simp [absent]
    · have other : entry.1 ≠ id := by
        rintro rfl
        exact fresh (List.mem_map.mpr ⟨_, later, rfl⟩)
      simp [other, inductionHypothesis nodupRest later]

theorem filter_key_absent {map : List (StatId × ServerSnapshot)} {id : StatId}
    (absent : id ∉ map.map Prod.fst) : map.filter (·.1 = id) = [] := by
  rw [List.filter_eq_nil_iff]
  intro entry member same
  exact absent (List.mem_map.mpr ⟨entry, member, by simpa using same⟩)

theorem sentFor_emitStats (id : StatId) (f : Field) :
    r.emitStats.sentFor id f =
      r.sentFor id f ++ (r.map.filter (·.1 = id)).flatMap (r.entryEmission f) :=
  emitEntries_reports r r.map r.client id f

theorem keys_emitStats :
    r.emitStats.keys = (r.map.filter fun entry => 1 < r.strongCount entry.1).map Prod.fst := by
  simp only [keys, emitStats, emitEntries_fst]
  induction r.map with
  | nil => rfl
  | cons entry rest inductionHypothesis =>
    by_cases kept : 1 < r.strongCount entry.1 <;> simp [kept, inductionHypothesis]

theorem mem_emitStats {id : StatId} {snap : ServerSnapshot} (present : (id, snap) ∈ r.emitStats.map) :
    ∃ old, (id, old) ∈ r.map ∧ snap = r.emittedSnap (id, old) := by
  simp only [emitStats, emitEntries_fst, List.mem_filterMap] at present
  obtain ⟨⟨id', old⟩, member, kept⟩ := present
  split_ifs at kept
  cases kept
  exact ⟨old, member, rfl⟩

theorem mem_of_getD_eq_some {servers : List (Option StatId)} {index : Nat} {id : StatId}
    (shared : servers.getD index none = some id) : some id ∈ servers := by
  rw [List.getD_eq_getElem?_getD] at shared
  cases lookup : servers[index]? with
  | none => simp [lookup] at shared
  | some server =>
    simp only [lookup, Option.getD_some] at shared
    exact shared ▸ List.getElem?_mem lookup

/-! ## Steps that only move servers -/

@[simp]
theorem updateHeld_map (index : Nat) (change : ServerStats → ServerStats) :
    (r.updateHeld index change).map = r.map := by
  unfold updateHeld
  split <;> rfl

@[simp]
theorem updateHeld_client (index : Nat) (change : ServerStats → ServerStats) :
    (r.updateHeld index change).client = r.client := by
  unfold updateHeld
  split <;> rfl

@[simp]
theorem updateHeld_nextId (index : Nat) (change : ServerStats → ServerStats) :
    (r.updateHeld index change).nextId = r.nextId := by
  unfold updateHeld
  split <;> rfl

@[simp]
theorem updateHeld_servers (index : Nat) (change : ServerStats → ServerStats) :
    (r.updateHeld index change).servers = r.servers := by
  unfold updateHeld
  split <;> rfl

theorem find?_map_of_fixes {objects : List ServerStats} {g : ServerStats → ServerStats}
    {id : StatId} (keepsId : ∀ s, (g s).statId = s.statId) (fixes : ∀ s, s.statId = id → g s = s) :
    (objects.map g).find? (·.statId = id) = objects.find? (·.statId = id) := by
  induction objects with
  | nil => rfl
  | cons s rest inductionHypothesis =>
    by_cases own : s.statId = id
    · simp [own, keepsId, fixes s own]
    · simp [own, keepsId, inductionHypothesis]

theorem Field.add_statId (f : Field) (amount : UInt64) (stats : ServerStats) :
    (f.add amount stats).statId = stats.statId := by
  cases f <;> rfl

theorem object_updateHeld {id : StatId} (index : Nat) (change : ServerStats → ServerStats)
    (keepsId : ∀ s, (change s).statId = s.statId) (notHeld : some id ∉ r.servers) :
    (r.updateHeld index change).object id = r.object id := by
  unfold updateHeld
  split
  · rename_i id' held
    have other : id' ≠ id := by
      rintro rfl
      exact notHeld (mem_of_getD_eq_some held)
    refine find?_map_of_fixes (fun s => ?_) (fun s own => ?_)
    · split_ifs
      · exact keepsId s
      · rfl
    · simp [own, other.symm]
  · rfl

theorem step_servers {op : RegistryOp} (only : op.movesServersOnly) :
    (r.step op).map = r.map ∧ (r.step op).client = r.client ∧ (r.step op).nextId = r.nextId ∧
    (∀ id, some id ∈ (r.step op).servers → some id ∈ r.servers) ∧
    (∀ id, some id ∉ r.servers → (r.step op).object id = r.object id) := by
  cases op with
  | spawnWithoutStats =>
    refine ⟨rfl, rfl, rfl, fun id held => ?_, fun _ _ => rfl⟩
    rcases List.mem_append.mp held with old | new
    · exact old
    · cases List.mem_singleton.mp new
  | share index =>
    simp only [Registry.step]
    split
    · rename_i id shared
      refine ⟨rfl, rfl, rfl, fun id' held => ?_, fun _ _ => rfl⟩
      rcases List.mem_append.mp held with old | new
      · exact old
      · rw [List.mem_singleton.mp new]
        exact mem_of_getD_eq_some shared
    · exact ⟨rfl, rfl, rfl, fun _ held => held, fun _ _ => rfl⟩
  | remove index =>
    exact ⟨rfl, rfl, rfl, fun _ held => List.mem_of_mem_eraseIdx held, fun _ _ => rfl⟩
  | increment index f amount =>
    exact ⟨updateHeld_map r index _, updateHeld_client r index _, updateHeld_nextId r index _,
      fun _ held => (updateHeld_servers r index _).subst held,
      fun _ => object_updateHeld r index _ (Field.add_statId f amount)⟩
  | setAlive index aliveCount =>
    exact ⟨updateHeld_map r index _, updateHeld_client r index _, updateHeld_nextId r index _,
      fun _ held => (updateHeld_servers r index _).subst held,
      fun _ => object_updateHeld r index _ fun _ => rfl⟩
  | spawn _ => cases only
  | sync => cases only
  | emit => cases only

/-! ## The invariant of every run -/

/-- What holds of every registry a run reaches: ids below the fresh id; one entry per id;
nothing sent for a fresh id, or for a held stats object the map has no entry for; and
for every entry and field, the counts sent add up to the snapshot. -/
structure RegistryInv (r : Registry) : Prop where
  keysBelow : ∀ id ∈ r.keys, id < r.nextId
  serversBelow : ∀ id, some id ∈ r.servers → id < r.nextId
  freshUnsent : ∀ id f, r.nextId ≤ id → r.sentFor id f = []
  keysNodup : r.keys.Nodup
  heldUnsent : ∀ id f, some id ∈ r.servers → id ∉ r.keys → r.sentFor id f = []
  snapshotSum : ∀ id snap, (id, snap) ∈ r.map → ∀ f, r.emittedSum id f = f.snap snap

theorem registryInv_init : RegistryInv init :=
  ⟨by simp [keys, init], by simp [init], by simp [sentFor, init], by simp [keys, init],
    by simp [init], by simp [init]⟩

namespace RegistryInv

variable {r}

theorem of_servers {r' : Registry} (holds : RegistryInv r) (sameMap : r'.map = r.map)
    (sameClient : r'.client = r.client) (sameNext : r'.nextId = r.nextId)
    (held : ∀ id, some id ∈ r'.servers → some id ∈ r.servers) : RegistryInv r' := by
  have sameKeys : r'.keys = r.keys := by rw [keys, keys, sameMap]
  have sameSent : ∀ id f, r'.sentFor id f = r.sentFor id f := by
    intro id f
    rw [sentFor, sentFor, sameClient]
  refine ⟨?_, ?_, ?_, ?_, ?_, ?_⟩
  · rw [sameKeys, sameNext]
    exact holds.keysBelow
  · intro id held'
    rw [sameNext]
    exact holds.serversBelow id (held id held')
  · intro id f fresh
    rw [sameSent]
    exact holds.freshUnsent id f (sameNext ▸ fresh)
  · rw [sameKeys]
    exact holds.keysNodup
  · intro id f held' absent
    rw [sameSent]
    exact holds.heldUnsent id f (held id held') (sameKeys ▸ absent)
  · intro id snap present f
    rw [emittedSum, sameSent]
    exact holds.snapshotSum id snap (sameMap ▸ present) f

theorem spawn (holds : RegistryInv r) (stats : ServerStats) :
    RegistryInv (r.step (.spawn stats)) := by
  refine ⟨fun id known => Nat.lt_succ_of_lt (holds.keysBelow id known), ?_,
    fun id f fresh => holds.freshUnsent id f (Nat.le_of_succ_le fresh), holds.keysNodup, ?_,
    holds.snapshotSum⟩
  · intro id held
    rcases List.mem_append.mp held with old | new
    · exact Nat.lt_succ_of_lt (holds.serversBelow id old)
    · obtain rfl := Option.some.inj (List.mem_singleton.mp new)
      exact Nat.lt_succ_self _
  · intro id f held absent
    rcases List.mem_append.mp held with old | new
    · exact holds.heldUnsent id f old absent
    · obtain rfl := Option.some.inj (List.mem_singleton.mp new)
      exact holds.freshUnsent _ f (le_refl _)

theorem sync (holds : RegistryInv r) : RegistryInv r.syncStats := by
  refine ⟨?_, holds.serversBelow, holds.freshUnsent,
    nodup_foldl_insertServer r.servers holds.keysNodup, ?_, ?_⟩
  · intro id known
    obtain ⟨entry, member, rfl⟩ := List.mem_map.mp known
    rcases mem_foldl_insertServer r.servers member with old | ⟨-, held, -⟩
    · exact holds.keysBelow _ (List.mem_map.mpr ⟨entry, old, rfl⟩)
    · exact holds.serversBelow _ held
  · intro id f held absent
    exact absurd (held_foldl_insertServer r.servers held r.map) absent
  · intro id snap present f
    rcases mem_foldl_insertServer r.servers present with old | ⟨isDefault, held, absent⟩
    · exact holds.snapshotSum id snap old f
    · simp only at isDefault held absent
      rw [isDefault, Field.snap_default, emittedSum]
      rw [show r.syncStats.sentFor id f = r.sentFor id f from rfl,
        holds.heldUnsent id f held absent, countSum_nil]

/-- One `emit_stats` brings the total sent for each field of an entry's stats object to
the snapshot the entry's emission leaves. -/
theorem emittedSum_emit (holds : RegistryInv r) {id : StatId} {snap : ServerSnapshot}
    (present : (id, snap) ∈ r.map) (f : Field) :
    r.emitStats.emittedSum id f = f.snap (r.emittedSnap (id, snap)) := by
  rw [emittedSum, sentFor_emitStats, flatMap_filter_key holds.keysNodup present, countSum_append,
    ← emittedSum, holds.snapshotSum id snap present f]
  exact snap_add_countSum_entryEmission r f (id, snap)

theorem emit (holds : RegistryInv r) : RegistryInv r.emitStats := by
  have keysSub : ∀ id, id ∈ r.emitStats.keys → id ∈ r.keys := by
    intro id known
    rw [keys_emitStats] at known
    exact List.map_subset _ (List.filter_sublist _).subset known
  refine ⟨fun id known => holds.keysBelow id (keysSub id known), holds.serversBelow, ?_, ?_, ?_,
    ?_⟩
  · intro id f fresh
    have absent : id ∉ r.keys := fun known =>
      Nat.not_lt.mpr (show r.nextId ≤ id from fresh) (holds.keysBelow id known)
    rw [sentFor_emitStats, filter_key_absent absent, holds.freshUnsent id f fresh]
    rfl
  · rw [keys_emitStats]
    exact holds.keysNodup.sublist ((List.filter_sublist _).map _)
  · intro id f held absent
    have gone : id ∉ r.keys := by
      intro known
      obtain ⟨⟨id', snap⟩, member, rfl⟩ := List.mem_map.mp known
      apply absent
      rw [keys_emitStats]
      refine List.mem_map.mpr ⟨(id', snap), List.mem_filter.mpr ⟨member, ?_⟩, rfl⟩
      have : 0 < r.servers.count (some id') := List.count_pos_iff.mpr held
      simp only [strongCount, decide_eq_true_eq]
      omega
    rw [sentFor_emitStats, filter_key_absent gone, holds.heldUnsent id f held gone]
    rfl
  · intro id snap present f
    obtain ⟨old, member, rfl⟩ := mem_emitStats r present
    exact holds.emittedSum_emit member f

theorem step (holds : RegistryInv r) (op : RegistryOp) : RegistryInv (r.step op) := by
  cases moves : op.movesServersOnly
  · cases op with
    | spawn stats => exact holds.spawn stats
    | sync => exact holds.sync
    | emit => exact holds.emit
    | _ => cases moves
  · obtain ⟨sameMap, sameClient, sameNext, held, -⟩ := step_servers r moves
    exact holds.of_servers sameMap sameClient sameNext held

end RegistryInv

theorem step_client (op : RegistryOp) (notEmit : op ≠ .emit) : (r.step op).client = r.client := by
  cases moves : op.movesServersOnly
  · cases op with
    | emit => exact absurd rfl notEmit
    | spawn stats => rfl
    | sync => rfl
    | _ => cases moves
  · exact (step_servers r moves).2.1

theorem RegistryInv.emittedSum_of_sent {r : Registry} (holds : RegistryInv r) {op : RegistryOp}
    {id : StatId} {f : Field} (sent : (r.step op).sentFor id f ≠ r.sentFor id f) :
    (r.object id).bind f.read = some ((r.step op).emittedSum id f) := by
  by_cases isEmit : op = .emit
  · subst isEmit
    have grown := sent
    rw [Registry.step, sentFor_emitStats] at grown
    obtain ⟨⟨id', snap⟩, member, emitted⟩ : ∃ entry ∈ r.map.filter (·.1 = id),
        r.entryEmission f entry ≠ [] := by
      by_contra none
      push_neg at none
      exact grown (by rw [List.flatMap_eq_nil_iff.mpr none, List.append_nil])
    obtain ⟨inMap, same⟩ := List.mem_filter.mp member
    obtain rfl : id' = id := by simpa using same
    rw [Registry.step, holds.emittedSum_emit inMap f]
    unfold entryEmission at emitted
    rcases found : r.object id' with _ | stats
    · simp [found] at emitted
    · simp only [found, Field.emission] at emitted
      rcases read : f.emitted stats snap with _ | value
      · simp [read] at emitted
      · simp [snap_emittedSnap r found, read, Field.read_of_emitted read]
  · exact absurd (by rw [sentFor, sentFor, step_client r op isEmit]) sent

theorem registryInv_exec (ops : List RegistryOp) : RegistryInv (init.exec ops) := by
  suffices ∀ r, RegistryInv r → RegistryInv (r.exec ops) from this init registryInv_init
  induction ops with
  | nil => exact fun _ holds => holds
  | cons op ops inductionHypothesis => exact fun r holds => inductionHypothesis _ (holds.step op)

/-! ## After an entry is dropped -/

/-- The stats object `id` is out of reach: no entry and no server holds it, and no new
object can take its id. -/
def Gone (r : Registry) (id : StatId) : Prop :=
  id < r.nextId ∧ id ∉ r.keys ∧ some id ∉ r.servers

theorem Gone.step {id : StatId} (gone : r.Gone id) (op : RegistryOp) :
    (r.step op).Gone id ∧ (∀ f, (r.step op).sentFor id f = r.sentFor id f) ∧
      (r.step op).object id = r.object id := by
  obtain ⟨below, absent, notHeld⟩ := gone
  cases moves : op.movesServersOnly
  · cases op with
    | spawn stats =>
      refine ⟨⟨Nat.lt_succ_of_lt below, absent, ?_⟩, fun _ => rfl, ?_⟩
      · simp only [Registry.step, List.mem_append, List.mem_singleton, Option.some.injEq, not_or]
        exact ⟨notHeld, Nat.ne_of_lt below⟩
      · simp only [Registry.step, object, List.find?_append]
        cases r.objects.find? (·.statId = id) with
        | some s => rfl
        | none => simp [Nat.ne_of_gt below]
    | sync =>
      refine ⟨⟨below, fun known => ?_, notHeld⟩, fun _ => rfl, rfl⟩
      obtain ⟨entry, member, rfl⟩ := List.mem_map.mp known
      rcases mem_foldl_insertServer r.servers member with old | ⟨-, held, -⟩
      · exact absent (List.mem_map.mpr ⟨entry, old, rfl⟩)
      · exact notHeld held
    | emit =>
      refine ⟨⟨below, fun known => ?_, notHeld⟩, fun f => ?_, rfl⟩
      · rw [Registry.step, keys_emitStats] at known
        exact absent (List.map_subset _ (List.filter_sublist _).subset known)
      · rw [Registry.step, sentFor_emitStats, filter_key_absent absent, List.flatMap_nil,
          List.append_nil]
    | _ => cases moves
  · obtain ⟨sameMap, sameClient, sameNext, held, sameObject⟩ := step_servers r moves
    refine ⟨⟨sameNext ▸ below, ?_, fun held' => notHeld (held id held')⟩,
      fun f => by rw [sentFor, sentFor, sameClient], sameObject id notHeld⟩
    rwa [keys, sameMap]

theorem Gone.exec {id : StatId} (ops : List RegistryOp) (gone : r.Gone id) :
    (∀ f, (r.exec ops).sentFor id f = r.sentFor id f) ∧ (r.exec ops).object id = r.object id := by
  induction ops generalizing r with
  | nil => exact ⟨fun _ => rfl, rfl⟩
  | cons op ops inductionHypothesis =>
    obtain ⟨stillGone, sameSent, sameObject⟩ := gone.step r op
    obtain ⟨laterSent, laterObject⟩ := inductionHypothesis (r.step op) stillGone
    exact ⟨fun f => (laterSent f).trans (sameSent f), laterObject.trans sameObject⟩

theorem RegistryInv.gone_of_dropped {r : Registry} (holds : RegistryInv r) {id : StatId}
    {snap : ServerSnapshot} (present : (id, snap) ∈ r.map) (dropped : id ∉ (r.step .emit).keys) :
    (r.step .emit).Gone id := by
  refine ⟨holds.keysBelow id (List.mem_map.mpr ⟨_, present, rfl⟩), dropped, fun held => ?_⟩
  apply dropped
  rw [Registry.step, keys_emitStats]
  refine List.mem_map.mpr ⟨(id, snap), List.mem_filter.mpr ⟨present, ?_⟩, rfl⟩
  have : 0 < r.servers.count (some id) := List.count_pos_iff.mpr held
  simp only [strongCount, decide_eq_true_eq]
  omega

/-- Over every run: the counts sent for each field of each entry's stats object add up,
modulo `2^64`, to its snapshot, which is the value read when the field was last sent;
`sync_stats` keeps every entry. -/
theorem exec_emittedSum_eq_snap :
    (∀ ops id snap, (id, snap) ∈ (init.exec ops).map → ∀ f : Field,
      (init.exec ops).emittedSum id f = f.snap snap) ∧
    (∀ pre op post id f snap,
      ((init.exec pre).step op).sentFor id f ≠ (init.exec pre).sentFor id f →
      (((init.exec pre).step op).exec post).sentFor id f = ((init.exec pre).step op).sentFor id f →
      (id, snap) ∈ (((init.exec pre).step op).exec post).map →
      ((init.exec pre).object id).bind f.read = some (f.snap snap)) ∧
    (∀ ops id snap, (id, snap) ∈ (init.exec ops).map → (id, snap) ∈ ((init.exec ops).step .sync).map) := by
  refine ⟨fun ops id snap present f => (registryInv_exec ops).snapshotSum id snap present f,
    fun pre op post id f snap sent quiet present => ?_,
    fun ops id snap present => mem_foldl_insertServer_of_mem _ present⟩
  have final := (registryInv_exec (pre ++ op :: post)).snapshotSum id snap
    (by rwa [exec_append, exec_cons]) f
  rw [exec_append, exec_cons, emittedSum, quiet, ← emittedSum] at final
  rw [(registryInv_exec pre).emittedSum_of_sent sent, final]

/-- A server whose stats object has counted five connections, synchronised and emitted
once: the snapshot left holds the five read. -/
theorem exec_emittedSum_eq_snap_spawned :
    ((init.exec [.spawn ⟨"server", true, 0, [], 5, 0, 0, {}, none, none, none⟩, .sync]).object
      0).bind Field.connTotal.read = some 5 :=
  exec_emittedSum_eq_snap.2.1 [.spawn ⟨"server", true, 0, [], 5, 0, 0, {}, none, none, none⟩, .sync]
    .emit [] 0 .connTotal { connTotal := 5 } (by decide) rfl (by decide)

end Registry

end G3Proxy.Stat
