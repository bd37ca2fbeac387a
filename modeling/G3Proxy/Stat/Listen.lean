import G3Proxy.Stat.Statsd

/-!
# `LISTEN_STATS_MAP`: the listen half of `sync_stats` and `emit_stats`

`sync_stats` gives every running server's listen stats object an entry with a default
snapshot, unless its id already has one. `emit_stats` calls
`g3_daemon::metric::emit_listen_stats` on every entry and keeps the entry while
`Arc::strong_count` says a server still holds the object. `g3_daemon` is not among the
sources: the object and snapshot types are parameters, and the emission is the field of
`ListenStatsEnv`.

The `retain` walk emits and filters in one pass; `emitInOrder` says what it is for, every
entry emitted in map order with the client passed along (`listenExec_finalEmission`).
-/

namespace G3Proxy.Stat

/-- `g3_daemon::metric::emit_listen_stats` and `ListenSnapshot::default()`. -/
structure ListenStatsEnv (Stats Snap : Type) where
  emitListenStats : StatsdClient → Stats → Snap → StatsdClient × Snap
  snapDefault : Snap

/-- The listen stats objects by id, each running server's object, `LISTEN_STATS_MAP`,
the statsd client and the next fresh id. -/
structure ListenRegistry (Stats Snap : Type) where
  objects : List (StatId × Stats)
  servers : List StatId
  map : List (StatId × Snap)
  client : StatsdClient
  nextId : StatId

/-- What can happen between two steps: a new server with a new object under a fresh id,
a new server keeping the object of running server `index`, a server stopping, an object
reading new counters, `sync_stats` and `emit_stats`. -/
inductive ListenOp (Stats : Type) where
  | spawn (stats : Stats)
  | share (index : Nat)
  | remove (index : Nat)
  | record (index : Nat) (stats : Stats)
  | sync
  | emit

/-- The steps that change only which server holds which object, or what an object
reads. -/
def ListenOp.movesServersOnly {Stats : Type} : ListenOp Stats → Bool
  | .spawn _ | .sync | .emit => false
  | _ => true

namespace ListenRegistry

variable {Stats Snap : Type} (env : ListenStatsEnv Stats Snap)

def init (client : StatsdClient) : ListenRegistry Stats Snap :=
  ⟨[], [], [], client, 0⟩

def object (r : ListenRegistry Stats Snap) (id : StatId) : Option Stats :=
  (r.objects.find? (·.1 = id)).map Prod.snd

/-- `Arc::strong_count` of the object `id` while the map holds it: the map's reference and
one for each running server holding it. -/
def strongCount (r : ListenRegistry Stats Snap) (id : StatId) : Nat :=
  1 + r.servers.count id

def keys (r : ListenRegistry Stats Snap) : List StatId :=
  r.map.map Prod.fst

/-- `entry(stat_id).or_insert_with(|| (stats, ListenSnapshot::default()))`. -/
def orInsertDefault (map : List (StatId × Snap)) (id : StatId) : List (StatId × Snap) :=
  if id ∈ map.map Prod.fst then map else map ++ [(id, env.snapDefault)]

def syncStats (r : ListenRegistry Stats Snap) : ListenRegistry Stats Snap :=
  { r with map := r.servers.foldl (orInsertDefault env) r.map }

/-- The `retain` of the listen half of `emit_stats`: emit each entry, and keep it, with
the snapshot the emission returned, while a server still holds its object. -/
def emitEntries (r : ListenRegistry Stats Snap) :
    List (StatId × Snap) → StatsdClient → List (StatId × Snap) × StatsdClient
  | [], client => ([], client)
  | (id, snap) :: rest, client =>
    let emitted := match r.object id with
      | some stats => env.emitListenStats client stats snap
      | none => (client, snap)
    let later := r.emitEntries rest emitted.1
    (if 1 < r.strongCount id then (id, emitted.2) :: later.1 else later.1, later.2)

def emitStats (r : ListenRegistry Stats Snap) : ListenRegistry Stats Snap :=
  let walked := r.emitEntries env r.map r.client
  { r with map := walked.1, client := walked.2 }

def step (r : ListenRegistry Stats Snap) : ListenOp Stats → ListenRegistry Stats Snap
  | .spawn stats =>
    { r with objects := r.objects ++ [(r.nextId, stats)], servers := r.servers ++ [r.nextId],
             nextId := r.nextId + 1 }
  | .share index =>
    match r.servers[index]? with
    | some id => { r with servers := r.servers ++ [id] }
    | none => r
  | .remove index => { r with servers := r.servers.eraseIdx index }
  | .record index stats =>
    match r.servers[index]? with
    | some id => { r with objects := r.objects.map fun entry =>
        if entry.1 = id then (id, stats) else entry }
    | none => r
  | .sync => r.syncStats env
  | .emit => r.emitStats env

def exec (r : ListenRegistry Stats Snap) (ops : List (ListenOp Stats)) : ListenRegistry Stats Snap :=
  ops.foldl (step env) r

@[simp]
theorem exec_nil (r : ListenRegistry Stats Snap) : r.exec env [] = r :=
  rfl

@[simp]
theorem exec_cons (r : ListenRegistry Stats Snap) (op : ListenOp Stats) (ops : List (ListenOp Stats)) :
    r.exec env (op :: ops) = (r.step env op).exec env ops :=
  rfl

/-! ## One emission of the map -/

/-- What the listen half of `emit_stats` is for: `emit_listen_stats` on each object and
snapshot in order, the client passed from one call to the next, with the snapshots the
calls return. -/
def emitInOrder : StatsdClient → List (Stats × Snap) → StatsdClient × List Snap
  | client, [] => (client, [])
  | client, (stats, snap) :: rest =>
    let emitted := env.emitListenStats client stats snap
    let later := emitInOrder emitted.1 rest
    (later.1, emitted.2 :: later.2)

variable (r : ListenRegistry Stats Snap)

theorem strongCount_gt_one {id : StatId} : 1 < r.strongCount id ↔ id ∈ r.servers := by
  simp only [strongCount, ← List.count_pos_iff]
  omega

theorem emitEntries_keys (entries : List (StatId × Snap)) (client : StatsdClient) :
    (r.emitEntries env entries client).1.map Prod.fst =
      (entries.map Prod.fst).filter fun id => id ∈ r.servers := by
  induction entries generalizing client with
  | nil => rfl
  | cons entry rest inductionHypothesis =>
    obtain ⟨id, snap⟩ := entry
    by_cases held : id ∈ r.servers <;>
      simp [emitEntries, held, inductionHypothesis, (strongCount_gt_one r).mpr,
        mt (strongCount_gt_one r).mp]

/-- When every entry's object is known, the `retain` walk is `emitInOrder` over the
entries' objects and snapshots, followed by keeping the returned snapshots of the entries
a server holds. -/
theorem emitEntries_eq_emitInOrder {entries : List (StatId × Snap)} {objects : List Stats}
    (found : List.Forall₂ (fun entry stats => r.object entry.1 = some stats) entries objects)
    (client : StatsdClient) :
    r.emitEntries env entries client =
      (((entries.map Prod.fst).zip (emitInOrder env client (objects.zip (entries.map Prod.snd))).2).filter
          (fun entry => entry.1 ∈ r.servers),
        (emitInOrder env client (objects.zip (entries.map Prod.snd))).1) := by
  induction found generalizing client with
  | nil => rfl
  | @cons entry stats rest objects foundHere _ inductionHypothesis =>
    obtain ⟨id, snap⟩ := entry
    by_cases held : id ∈ r.servers <;>
      simp [emitEntries, emitInOrder, foundHere, inductionHypothesis, held,
        (strongCount_gt_one r).mpr, mt (strongCount_gt_one r).mp, List.zip_eq_zipWith]

theorem keys_emitStats : (r.emitStats env).keys = r.keys.filter fun id => id ∈ r.servers :=
  emitEntries_keys env r r.map r.client

theorem object_isSome_iff {id : StatId} :
    (r.object id).isSome ↔ id ∈ r.objects.map Prod.fst := by
  simp [object, List.find?_isSome]

theorem forall₂_object_of_isSome :
    ∀ {entries : List (StatId × Snap)}, (∀ entry ∈ entries, (r.object entry.1).isSome) →
      ∃ objects, List.Forall₂ (fun entry stats => r.object entry.1 = some stats) entries objects
  | [], _ => ⟨[], .nil⟩
  | entry :: _, known => by
    obtain ⟨stats, found⟩ := Option.isSome_iff_exists.mp (known entry (.head _))
    obtain ⟨objects, rest⟩ := forall₂_object_of_isSome fun other member => known other (.tail _ member)
    exact ⟨stats :: objects, .cons found rest⟩

/-! ## One synchronisation of the map -/

/-- `sync_stats` appends a default snapshot for each server's object the map has no entry
for, each once, and overwrites no snapshot. -/
theorem foldl_orInsertDefault (servers : List StatId) (map : List (StatId × Snap)) :
    ∃ fresh : List StatId, servers.foldl (orInsertDefault env) map =
        map ++ fresh.map (·, env.snapDefault) ∧
      ∀ id, id ∈ fresh ↔ id ∈ servers ∧ id ∉ map.map Prod.fst := by
  induction servers generalizing map with
  | nil => exact ⟨[], by simp, by simp⟩
  | cons server rest inductionHypothesis =>
    by_cases known : server ∈ map.map Prod.fst
    · obtain ⟨fresh, appended, mem⟩ := inductionHypothesis map
      refine ⟨fresh, by rw [List.foldl_cons, orInsertDefault, if_pos known, appended], fun id => ?_⟩
      by_cases same : id = server <;> simp [same, mem, known]
    · obtain ⟨fresh, appended, mem⟩ := inductionHypothesis (map ++ [(server, env.snapDefault)])
      refine ⟨server :: fresh, by simp [orInsertDefault, known, appended], fun id => ?_⟩
      by_cases same : id = server <;> simp [same, mem, known]

theorem keys_syncStats (id : StatId) :
    id ∈ (r.syncStats env).keys ↔ id ∈ r.keys ∨ id ∈ r.servers := by
  obtain ⟨fresh, appended, mem⟩ := foldl_orInsertDefault env r.servers r.map
  rw [keys, syncStats, appended, List.map_append, List.map_map, List.mem_append]
  by_cases known : id ∈ r.keys <;> simp_all [keys, Function.comp_def]

/-! ## Steps that only move servers -/

theorem step_servers {op : ListenOp Stats} (only : op.movesServersOnly) :
    (r.step env op).map = r.map ∧ (r.step env op).client = r.client ∧
      (r.step env op).nextId = r.nextId ∧
      (r.step env op).objects.map Prod.fst = r.objects.map Prod.fst ∧
      ∀ id ∈ (r.step env op).servers, id ∈ r.servers := by
  cases op with
  | share index =>
    simp only [step]
    split
    · rename_i id shared
      refine ⟨rfl, rfl, rfl, rfl, fun id' held => ?_⟩
      rcases List.mem_append.mp held with old | new
      · exact old
      · exact List.mem_singleton.mp new ▸ List.getElem?_mem shared
    · exact ⟨rfl, rfl, rfl, rfl, fun _ held => held⟩
  | remove index => exact ⟨rfl, rfl, rfl, rfl, fun _ held => List.mem_of_mem_eraseIdx held⟩
  | record index stats =>
    simp only [step]
    split
    · rename_i id _
      refine ⟨rfl, rfl, rfl, ?_, fun _ held => held⟩
      simp only [List.map_map]
      congr 1
      funext entry
      by_cases own : entry.1 = id <;> simp [own]
    · exact ⟨rfl, rfl, rfl, rfl, fun _ held => held⟩
  | spawn _ => cases only
  | sync => cases only
  | emit => cases only

/-! ## The invariant of every run -/

/-- What holds of every registry a run reaches: the ids of entries and servers are below
the fresh id, and every id below it names an object. -/
structure ListenInv (r : ListenRegistry Stats Snap) : Prop where
  keysBelow : ∀ id ∈ r.keys, id < r.nextId
  serversBelow : ∀ id ∈ r.servers, id < r.nextId
  known : ∀ id, id < r.nextId → id ∈ r.objects.map Prod.fst

theorem listenInv_init (client : StatsdClient) : ListenInv (init client : ListenRegistry Stats Snap) :=
  ⟨by simp [keys, init], by simp [init], by simp [init]⟩

namespace ListenInv

variable {r}

theorem spawn (holds : ListenInv r) (stats : Stats) : ListenInv (r.step env (.spawn stats)) := by
  refine ⟨fun id known => Nat.lt_succ_of_lt (holds.keysBelow id known), fun id held => ?_,
    fun id below => ?_⟩
  · rcases List.mem_append.mp held with old | new
    · exact Nat.lt_succ_of_lt (holds.serversBelow id old)
    · exact List.mem_singleton.mp new ▸ Nat.lt_succ_self _
  · simp only [step, List.map_append, List.mem_append, List.map_singleton, List.mem_singleton]
    rcases Nat.lt_succ_iff_lt_or_eq.mp below with old | rfl
    · exact .inl (holds.known id old)
    · exact .inr rfl

theorem sync (holds : ListenInv r) : ListenInv (r.step env .sync) := by
  refine ⟨fun id known => ?_, holds.serversBelow, holds.known⟩
  rcases (keys_syncStats env r id).mp known with old | held
  · exact holds.keysBelow id old
  · exact holds.serversBelow id held

theorem emit (holds : ListenInv r) : ListenInv (r.step env .emit) := by
  refine ⟨fun id known => holds.keysBelow id ?_, holds.serversBelow, holds.known⟩
  rw [step, keys_emitStats] at known
  exact List.mem_of_mem_filter known

theorem step (holds : ListenInv r) (op : ListenOp Stats) : ListenInv (r.step env op) := by
  cases moves : op.movesServersOnly
  · cases op with
    | spawn stats => exact holds.spawn env stats
    | sync => exact holds.sync env
    | emit => exact holds.emit env
    | _ => cases moves
  · obtain ⟨sameMap, -, sameNext, sameObjects, held⟩ := step_servers env r moves
    have sameKeys : (r.step env op).keys = r.keys := by rw [keys, keys, sameMap]
    exact ⟨sameKeys ▸ sameNext ▸ holds.keysBelow,
      fun id held' => sameNext ▸ holds.serversBelow id (held id held'),
      sameObjects ▸ sameNext ▸ holds.known⟩

theorem objects_found (holds : ListenInv r) :
    ∃ objects, List.Forall₂ (fun entry stats => r.object entry.1 = some stats) r.map objects :=
  forall₂_object_of_isSome r fun _ member =>
    (object_isSome_iff r).mpr (holds.known _ (holds.keysBelow _ (List.mem_map_of_mem _ member)))

end ListenInv

theorem listenInv_exec (client : StatsdClient) (ops : List (ListenOp Stats)) :
    ListenInv ((init client : ListenRegistry Stats Snap).exec env ops) := by
  suffices ∀ r : ListenRegistry Stats Snap, ListenInv r → ListenInv (r.exec env ops) from
    this _ (listenInv_init client)
  induction ops with
  | nil => exact fun _ holds => holds
  | cons op ops inductionHypothesis =>
    exact fun r holds => inductionHypothesis _ (holds.step env op)

/-! ## After an entry is dropped -/

/-- The listen stats object `id` is out of reach: no entry and no server holds it, and no
new object can take its id. -/
def Gone (r : ListenRegistry Stats Snap) (id : StatId) : Prop :=
  id < r.nextId ∧ id ∉ r.keys ∧ id ∉ r.servers

theorem Gone.step {id : StatId} (gone : r.Gone id) (op : ListenOp Stats) : (r.step env op).Gone id := by
  obtain ⟨below, absent, notHeld⟩ := gone
  cases moves : op.movesServersOnly
  · cases op with
    | spawn stats =>
      refine ⟨Nat.lt_succ_of_lt below, absent, ?_⟩
      simp only [ListenRegistry.step, List.mem_append, List.mem_singleton, not_or]
      exact ⟨notHeld, Nat.ne_of_lt below⟩
    | sync => exact ⟨below, fun known => ((keys_syncStats env r id).mp known).elim absent notHeld, notHeld⟩
    | emit =>
      refine ⟨below, fun known => ?_, notHeld⟩
      rw [ListenRegistry.step, keys_emitStats] at known
      exact absent (List.mem_of_mem_filter known)
    | _ => cases moves
  · obtain ⟨sameMap, -, sameNext, -, held⟩ := step_servers env r moves
    refine ⟨sameNext ▸ below, ?_, fun held' => notHeld (held id held')⟩
    rwa [keys, sameMap]

theorem Gone.exec {id : StatId} (ops : List (ListenOp Stats)) (gone : r.Gone id) :
    (r.exec env ops).Gone id := by
  induction ops generalizing r with
  | nil => exact gone
  | cons op ops inductionHypothesis => exact inductionHypothesis (r.step env op) (gone.step env r op)

theorem ListenInv.gone_of_dropped {r : ListenRegistry Stats Snap} (holds : ListenInv r)
    {id : StatId} (known : id ∈ r.keys) (dropped : id ∉ (r.step env .emit).keys) :
    id ∉ r.servers ∧ (r.step env .emit).Gone id := by
  have notHeld : id ∉ r.servers := fun held => dropped (by
    rw [ListenRegistry.step, keys_emitStats]
    exact List.mem_filter.mpr ⟨known, decide_eq_true held⟩)
  exact ⟨notHeld, holds.keysBelow id known, dropped, notHeld⟩

/-- Over every run: `emit_stats` is `emitInOrder` over every entry's object and snapshot,
keeping the returned snapshots of the entries a server holds; `sync_stats` only appends
default snapshots; and an entry is dropped only when no server holds its object, for good. -/
theorem listenExec_finalEmission (client : StatsdClient) (ops : List (ListenOp Stats)) :
    let r := (init client : ListenRegistry Stats Snap).exec env ops
    (∃ objects, List.Forall₂ (fun entry stats => r.object entry.1 = some stats) r.map objects ∧
      (r.step env .emit).client = (emitInOrder env r.client (objects.zip (r.map.map Prod.snd))).1 ∧
      (r.step env .emit).map =
        (r.keys.zip (emitInOrder env r.client (objects.zip (r.map.map Prod.snd))).2).filter
          fun entry => entry.1 ∈ r.servers) ∧
    (∃ fresh : List StatId, (r.step env .sync).map = r.map ++ fresh.map (·, env.snapDefault) ∧
      ∀ id, id ∈ fresh ↔ id ∈ r.servers ∧ id ∉ r.keys) ∧
    ∀ id ∈ r.keys, id ∉ (r.step env .emit).keys → id ∉ r.servers ∧
      ∀ later, id ∉ ((r.step env .emit).exec env later).keys := by
  intro r
  have holds : ListenInv r := listenInv_exec env client ops
  obtain ⟨objects, found⟩ := holds.objects_found
  have walked := emitEntries_eq_emitInOrder env r found r.client
  refine ⟨⟨objects, found, congrArg Prod.snd walked, congrArg Prod.fst walked⟩,
    foldl_orInsertDefault env r.servers r.map, fun id known dropped => ?_⟩
  obtain ⟨notHeld, gone⟩ := holds.gone_of_dropped env known dropped
  exact ⟨notHeld, fun later => (gone.exec env _ later).2.1⟩

end ListenRegistry

end G3Proxy.Stat
