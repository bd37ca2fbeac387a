import G3Proxy.Config.Yaml

/-!
# `UnaidedRuntimeConfig::parse_yaml`: the runtime config as the setter calls it makes

For each key of a YAML map, `parse_yaml` decodes the value and calls a setter on the
default config, which is modelled from its use as the list of those calls. A
`sched_affinity` map calls `set_sched_affinity` once per entry, while a boolean there only
sets a flag, and `set_mapped_sched_affinity` runs last when the flag is up. Both
`openssl_async_job` keys call `set_openssl_async_job_init_size`.

`schedAffinity` is `cfg(all(unix, not(target_os = "openbsd")))` and `opensslAsyncJob` the
`openssl-async-job` feature, under which their keys exist.
-/

namespace G3Proxy.Config

/-- A call `parse_yaml` makes on the config it builds. -/
inductive UnaidedRuntimeCall (Cpu : Type) where
  | setThreadNumber (value : Nat)
  | setThreadStackSize (value : Nat)
  | setSchedAffinity (id : Nat) (cpu : Cpu)
  | setMaxIoEventsPerTick (capacity : Nat)
  | setOpensslAsyncJobInitSize (size : Nat)
  | setMappedSchedAffinity
deriving DecidableEq, Repr

/-- The init size a call sets, if it sets one. -/
def UnaidedRuntimeCall.opensslAsyncJobInitSize? {Cpu : Type} : UnaidedRuntimeCall Cpu → Option Nat
  | .setOpensslAsyncJobInitSize size => some size
  | _ => none

/-- Modelled from its use: `UnaidedRuntimeConfig`, as the setter calls made on its default. -/
abbrev UnaidedRuntimeConfig (Cpu : Type) := List (UnaidedRuntimeCall Cpu)

/-- The `g3_yaml` decoders and the config method `parse_yaml` calls. `asHash` gives the
entries of a YAML map and nothing for any other value; `asCpu` is `as_cpu_set`, or
`as_cpu_tag` on macOS, and `cpuKind` the word its error uses, "set" or "tag". -/
structure UnaidedRuntimeEnv (Yaml Cpu : Type) where
  normalize : String → String
  asUsize : Yaml → Except AnyhowError Nat
  humanizeAsUsize : Yaml → Except AnyhowError Nat
  asBool : Yaml → Except AnyhowError Bool
  asHash : Yaml → Option (List (Yaml × Yaml))
  asCpu : Yaml → Except AnyhowError Cpu
  cpuKind : String
  setMappedSchedAffinity : UnaidedRuntimeConfig Cpu → Except AnyhowError Unit

namespace UnaidedRuntimeConfig

/-- What the closure of `parse_yaml` works on: the config and the local
`set_mapped_sched_affinity` flag. -/
structure ParseState (Cpu : Type) where
  config : UnaidedRuntimeConfig Cpu
  setMappedSchedAffinity : Bool
deriving DecidableEq, Repr

variable {Yaml Cpu : Type} (env : UnaidedRuntimeEnv Yaml Cpu)

/-- A setter arm: decode the value, then call the setter with it. -/
def callWith (decoded : Except AnyhowError Nat) (call : Nat → UnaidedRuntimeCall Cpu)
    (state : ParseState Cpu) : Except AnyhowError (ParseState Cpu) := do
  let value ← decoded
  pure { state with config := state.config ++ [call value] }

/-- The loop over a `sched_affinity` map: one `set_sched_affinity` per entry, stopping at
the first key or CPU value that does not decode. -/
def setSchedAffinities (k : String) :
    List (Yaml × Yaml) → UnaidedRuntimeConfig Cpu → Except AnyhowError (UnaidedRuntimeConfig Cpu)
  | [], config => .ok config
  | (ik, iv) :: rest, config => do
    let id ← context ("the keys for " ++ k ++ " should be usize value") (env.asUsize ik)
    let cpu ← context ("invalid cpu " ++ env.cpuKind ++ " value for " ++ k ++ "/" ++ toString id)
      (env.asCpu iv)
    setSchedAffinities k rest (config ++ [.setSchedAffinity id cpu])

variable (schedAffinity opensslAsyncJob : Bool)

/-- The closure `parse_yaml` runs on each key of the map. -/
def setKey (state : ParseState Cpu) (k : String) (v : Yaml) : Except AnyhowError (ParseState Cpu) :=
  let key := env.normalize k
  if key = "thread_number" then callWith (env.asUsize v) .setThreadNumber state
  else if key = "thread_stack_size" then
    callWith (context ("invalid humanize usize value for key " ++ k) (env.humanizeAsUsize v))
      .setThreadStackSize state
  else if schedAffinity ∧ key = "sched_affinity" then
    match env.asHash v with
    | some map => do
      let config ← setSchedAffinities env k map state.config
      pure { state with config := config }
    | none => match env.asBool v with
      | .ok mapAll => .ok { state with setMappedSchedAffinity := mapAll }
      | .error _ => .error (anyhow ("invalid map value for key " ++ k))
  else if key = "max_io_events_per_tick" then callWith (env.asUsize v) .setMaxIoEventsPerTick state
  else if opensslAsyncJob ∧ key = "openssl_async_job_init_size" then
    callWith (env.asUsize v) .setOpensslAsyncJobInitSize state
  else if opensslAsyncJob ∧ key = "openssl_async_job_max_size" then
    callWith (env.asUsize v) .setOpensslAsyncJobInitSize state
  else .error (anyhow ("invalid key " ++ k))

/-- `UnaidedRuntimeConfig::parse_yaml`. The flag is only ever raised under
`schedAffinity`, so testing it alone is the source's `cfg`-guarded test. -/
def parseYaml (v : YamlShape Yaml) : Except AnyhowError (UnaidedRuntimeConfig Cpu) :=
  match v with
  | .hash map => do
    let parsed ← foreachKv (setKey env schedAffinity opensslAsyncJob) ⟨[], false⟩ map
    if parsed.setMappedSchedAffinity then do
      context "failed to set all mapped sched affinity" (env.setMappedSchedAffinity parsed.config)
      pure (parsed.config ++ [.setMappedSchedAffinity])
    else pure parsed.config
  | _ => .error (anyhow "yaml value type for \x27unaided runtime config\x27 should be \x27map\x27")

def knownKeys : List String :=
  ["thread_number", "thread_stack_size"] ++ (if schedAffinity then ["sched_affinity"] else []) ++
    ["max_io_events_per_tick"] ++
    (if opensslAsyncJob then ["openssl_async_job_init_size", "openssl_async_job_max_size"]
      else [])

/-! ## What one key adds to the config -/

theorem callWith_eq_ok {decoded : Except AnyhowError Nat} {call : Nat → UnaidedRuntimeCall Cpu}
    {state state' : ParseState Cpu} :
    callWith decoded call state = .ok state' ↔
      ∃ value, decoded = .ok value ∧ state' = { state with config := state.config ++ [call value] } := by
  cases decoded <;> simp [callWith, bind, Except.bind, pure, Except.pure, eq_comm]

theorem setSchedAffinities_ok {k : String} {map : List (Yaml × Yaml)}
    {config config' : UnaidedRuntimeConfig Cpu}
    (looped : setSchedAffinities env k map config = .ok config') :
    ∃ affinities : List (Nat × Cpu),
      List.Forall₂ (fun entry affinity => env.asUsize entry.1 = .ok affinity.1 ∧
        env.asCpu entry.2 = .ok affinity.2) map affinities ∧
      config' = config ++ affinities.map fun (id, cpu) => .setSchedAffinity id cpu := by
  induction map generalizing config with
  | nil => exact ⟨[], .nil, by simp [← Except.ok.inj looped, setSchedAffinities]⟩
  | cons entry rest inductionHypothesis =>
    obtain ⟨ik, iv⟩ := entry
    obtain ⟨id, decodedId, looped⟩ := (bind_eq_ok _ _ _).mp looped
    obtain ⟨cpu, decodedCpu, looped⟩ := (bind_eq_ok _ _ _).mp looped
    rw [context_eq_ok] at decodedId decodedCpu
    obtain ⟨affinities, corresponds, rfl⟩ := inductionHypothesis looped
    exact ⟨(id, cpu) :: affinities, .cons ⟨decodedId, decodedCpu⟩ corresponds, by simp⟩

theorem setKey_opensslInitSizes {state state' : ParseState Cpu} {k : String} {v : Yaml}
    (stepped : setKey env schedAffinity opensslAsyncJob state k v = .ok state') :
    state'.config.filterMap UnaidedRuntimeCall.opensslAsyncJobInitSize? =
      state.config.filterMap UnaidedRuntimeCall.opensslAsyncJobInitSize? ++
        if opensslAsyncJob ∧ (env.normalize k = "openssl_async_job_init_size" ∨
            env.normalize k = "openssl_async_job_max_size")
        then (env.asUsize v).toOption.toList else [] := by
  dsimp only [setKey] at stepped
  split_ifs at stepped with isThread isStack isSched isEvents isInit isMax
  -- the five setter arms
  all_goals try
    obtain ⟨value, decoded, rfl⟩ := callWith_eq_ok.mp stepped
    simp_all [UnaidedRuntimeCall.opensslAsyncJobInitSize?, Except.toOption]
  · split at stepped
    · obtain ⟨config, looped, made⟩ := (bind_eq_ok _ _ _).mp stepped
      cases made
      obtain ⟨affinities, -, rfl⟩ := setSchedAffinities_ok env looped
      simp_all [List.filterMap_map, Function.comp_def, UnaidedRuntimeCall.opensslAsyncJobInitSize?]
    · split at stepped
      · cases stepped
        simp_all
      · cases stepped

/-! ## What a whole parse records -/

/-- The init sizes an accepted config records are, in the order of the map, the decoded
values of its `openssl_async_job_init_size` and `openssl_async_job_max_size` keys, and none
without the `openssl-async-job` feature. A max size is recorded as an init size. A key that
normalises to none of the keys the build knows makes the parse fail. -/
theorem parseYaml_opensslInitSizes (map : List (String × Yaml)) :
    (∀ config, parseYaml env schedAffinity opensslAsyncJob (.hash map) = .ok config →
      config.filterMap UnaidedRuntimeCall.opensslAsyncJobInitSize? =
        map.flatMap fun (k, v) =>
          if opensslAsyncJob ∧ (env.normalize k = "openssl_async_job_init_size" ∨
              env.normalize k = "openssl_async_job_max_size")
          then (env.asUsize v).toOption.toList else []) ∧
    (∀ k v, (k, v) ∈ map → env.normalize k ∉ knownKeys schedAffinity opensslAsyncJob →
      ∃ err, parseYaml env schedAffinity opensslAsyncJob (.hash map) = .error err) := by
  refine ⟨fun config parsed => ?_, fun k v present unknown => ?_⟩
  · obtain ⟨final, run, finished⟩ := (bind_eq_ok _ _ _).mp parsed
    have recorded := foreachKv_trace
      (fun state => state.config.filterMap UnaidedRuntimeCall.opensslAsyncJobInitSize?) _
      (fun _ _ _ _ stepped => setKey_opensslInitSizes env schedAffinity opensslAsyncJob stepped) run
    split at finished
    · obtain ⟨_, -, made⟩ := (bind_eq_ok _ _ _).mp finished
      cases made
      simpa [UnaidedRuntimeCall.opensslAsyncJobInitSize?] using recorded
    · cases finished
      simpa using recorded
  · have rejected : ∀ state, ∃ err, setKey env schedAffinity opensslAsyncJob state k v = .error err := by
      intro state
      simp only [knownKeys, List.mem_append, List.mem_cons, List.mem_singleton] at unknown
      split_ifs at unknown <;> simp_all [setKey]
    obtain ⟨err, failed⟩ := foreachKv_error_of_mem present rejected ⟨[], false⟩
    exact ⟨err, by simp [parseYaml, failed, bind, Except.bind]⟩

/-! ## The mapped sched affinity flag -/

/-- The setter calls a key makes when its value decodes, the calls its normalised key
names: one per key, except that a `sched_affinity` map makes one `set_sched_affinity` per
entry and a `sched_affinity` boolean makes none. -/
inductive KeyCalls (k : String) (v : Yaml) : UnaidedRuntimeConfig Cpu → Prop
  | setThreadNumber {value : Nat} (key : env.normalize k = "thread_number")
      (decoded : env.asUsize v = .ok value) : KeyCalls k v [.setThreadNumber value]
  | setThreadStackSize {value : Nat} (key : env.normalize k = "thread_stack_size")
      (decoded : env.humanizeAsUsize v = .ok value) : KeyCalls k v [.setThreadStackSize value]
  | setSchedAffinity {map : List (Yaml × Yaml)} {affinities : List (Nat × Cpu)}
      (enabled : schedAffinity) (key : env.normalize k = "sched_affinity")
      (isMap : env.asHash v = some map)
      (decoded : List.Forall₂ (fun entry affinity => env.asUsize entry.1 = .ok affinity.1 ∧
        env.asCpu entry.2 = .ok affinity.2) map affinities) :
      KeyCalls k v (affinities.map fun (id, cpu) => .setSchedAffinity id cpu)
  | mapAll {mapAll : Bool} (enabled : schedAffinity) (key : env.normalize k = "sched_affinity")
      (notMap : env.asHash v = none) (decoded : env.asBool v = .ok mapAll) : KeyCalls k v []
  | setMaxIoEventsPerTick {capacity : Nat} (key : env.normalize k = "max_io_events_per_tick")
      (decoded : env.asUsize v = .ok capacity) : KeyCalls k v [.setMaxIoEventsPerTick capacity]
  | setOpensslAsyncJobInitSize {size : Nat} (enabled : opensslAsyncJob)
      (key : env.normalize k = "openssl_async_job_init_size" ∨
        env.normalize k = "openssl_async_job_max_size")
      (decoded : env.asUsize v = .ok size) : KeyCalls k v [.setOpensslAsyncJobInitSize size]

theorem KeyCalls.mappedSchedAffinity_not_mem {k : String} {v : Yaml}
    {calls : UnaidedRuntimeConfig Cpu} (made : KeyCalls env schedAffinity opensslAsyncJob k v calls) :
    .setMappedSchedAffinity ∉ calls := by
  cases made <;> simp

theorem setKey_ok {state state' : ParseState Cpu} {k : String} {v : Yaml}
    (stepped : setKey env schedAffinity opensslAsyncJob state k v = .ok state') :
    ∃ calls, KeyCalls env schedAffinity opensslAsyncJob k v calls ∧
      state'.config = state.config ++ calls ∧
      ((((schedAffinity ∧ env.normalize k = "sched_affinity") ∧ (env.asHash v).isNone) ∧
          env.asBool v = .ok state'.setMappedSchedAffinity) ∨
        (¬((schedAffinity ∧ env.normalize k = "sched_affinity") ∧ (env.asHash v).isNone) ∧
          state'.setMappedSchedAffinity = state.setMappedSchedAffinity)) := by
  dsimp only [setKey] at stepped
  split_ifs at stepped with isThread isStack isSched isEvents isInit isMax
  -- the sched_affinity arm, then the five setter arms
  pick_goal 3
  · split at stepped
    · rename_i map isMap
      obtain ⟨config, looped, made⟩ := (bind_eq_ok _ _ _).mp stepped
      cases made
      obtain ⟨affinities, decoded, rfl⟩ := setSchedAffinities_ok env looped
      exact ⟨_, .setSchedAffinity isSched.1 isSched.2 isMap decoded, rfl, .inr ⟨by simp [isMap], rfl⟩⟩
    · rename_i notMap
      split at stepped
      · rename_i mapAll decoded
        cases stepped
        exact ⟨[], .mapAll isSched.1 isSched.2 notMap decoded, by simp,
          .inl ⟨⟨isSched, by simp [notMap]⟩, decoded⟩⟩
      · cases stepped
  all_goals
    obtain ⟨value, decoded, rfl⟩ := callWith_eq_ok.mp stepped
    try rw [context_eq_ok] at decoded
  · exact ⟨_, .setThreadNumber isThread decoded, rfl, .inr ⟨by simp [isThread], rfl⟩⟩
  · exact ⟨_, .setThreadStackSize isStack decoded, rfl, .inr ⟨by simp [isStack], rfl⟩⟩
  · exact ⟨_, .setMaxIoEventsPerTick isEvents decoded, rfl, .inr ⟨by simp [isEvents], rfl⟩⟩
  · exact ⟨_, .setOpensslAsyncJobInitSize isInit.1 (.inl isInit.2) decoded, rfl,
      .inr ⟨by simp [isInit.2], rfl⟩⟩
  · exact ⟨_, .setOpensslAsyncJobInitSize isMax.1 (.inr isMax.2) decoded, rfl,
      .inr ⟨by simp [isMax.2], rfl⟩⟩

/-- An accepted config is the calls each key of the map names, in order, then
`set_mapped_sched_affinity` once exactly when the last `sched_affinity` key whose value is
not a map holds `true`. -/
theorem parseYaml_mappedSchedAffinityLast (map : List (String × Yaml))
    (config : UnaidedRuntimeConfig Cpu)
    (parsed : parseYaml env schedAffinity opensslAsyncJob (.hash map) = .ok config) :
    ∃ mapAll perKey, LastWins map
        (fun k v => decide (schedAffinity ∧ env.normalize k = "sched_affinity") &&
          (env.asHash v).isNone)
        (fun _ v mapAll => env.asBool v = .ok mapAll) false mapAll ∧
      List.Forall₂ (fun entry calls => KeyCalls env schedAffinity opensslAsyncJob entry.1 entry.2 calls)
        map perKey ∧
      .setMappedSchedAffinity ∉ perKey.flatten ∧
      config = perKey.flatten ++ if mapAll then [.setMappedSchedAffinity] else [] := by
  obtain ⟨final, run, finished⟩ := (bind_eq_ok _ _ _).mp parsed
  obtain ⟨perKey, corresponds, recorded⟩ := foreachKv_forall₂ ParseState.config _
    (fun _ _ _ _ stepped =>
      let ⟨calls, made, appended, _⟩ := setKey_ok env schedAffinity opensslAsyncJob stepped
      ⟨calls, made, appended⟩) run
  rw [List.nil_append] at recorded
  have unmapped : .setMappedSchedAffinity ∉ final.config :=
    foreachKv_invariant map (P := fun state : ParseState Cpu => .setMappedSchedAffinity ∉ state.config)
      (fun _ _ _ _ _ absent stepped => by
        obtain ⟨_, made, appended, -⟩ := setKey_ok env schedAffinity opensslAsyncJob stepped
        simp [appended, absent, made.mappedSchedAffinity_not_mem])
      (List.not_mem_nil _) run
  refine ⟨final.setMappedSchedAffinity, perKey,
    foreachKv_lastWins ParseState.setMappedSchedAffinity _ _
      (fun _ _ _ _ other stepped => ?_) (fun _ _ _ _ sets stepped => ?_) run, corresponds,
    recorded ▸ unmapped, ?_⟩
  · obtain ⟨_, -, -, ⟨sets, -⟩ | ⟨-, same⟩⟩ := setKey_ok env schedAffinity opensslAsyncJob stepped
    · simp [sets] at other
    · exact same
  · obtain ⟨_, -, -, ⟨-, decoded⟩ | ⟨other, -⟩⟩ := setKey_ok env schedAffinity opensslAsyncJob stepped
    · exact decoded
    · simp only [Bool.and_eq_true, decide_eq_true_eq] at sets
      exact absurd sets other
  · rw [← recorded]
    split at finished
    · rename_i up
      obtain ⟨_, -, made⟩ := (bind_eq_ok _ _ _).mp finished
      rw [if_pos up]
      exact (Except.ok.inj made).symm
    · rename_i down
      rw [if_neg down, List.append_nil]
      exact (Except.ok.inj finished).symm

/-- Decoders over naturals: every value decodes as itself, no value is a map or a boolean,
and the key normaliser is the identity. -/
def natEnv : UnaidedRuntimeEnv Nat Nat where
  normalize := id
  asUsize := .ok
  humanizeAsUsize := .ok
  asBool := fun _ => .error (anyhow "invalid boolean value")
  asHash := fun _ => none
  asCpu := .ok
  cpuKind := "set"
  setMappedSchedAffinity := fun _ => .ok ()

theorem parseYaml_opensslInitSizes_maxSize :
    parseYaml natEnv true true (.hash [("openssl_async_job_max_size", 64)]) =
        .ok [.setOpensslAsyncJobInitSize 64] ∧
      ([.setOpensslAsyncJobInitSize 64] : UnaidedRuntimeConfig Nat).filterMap
          UnaidedRuntimeCall.opensslAsyncJobInitSize? = [64] :=
  ⟨rfl, ((parseYaml_opensslInitSizes natEnv true true [("openssl_async_job_max_size", 64)]).1
    [.setOpensslAsyncJobInitSize 64] rfl).trans rfl⟩

/-- `natEnv` with booleans: 1 decodes as `true`, any other number as `false`. -/
def boolEnv : UnaidedRuntimeEnv Nat Nat :=
  { natEnv with asBool := fun n => .ok (n = 1) }

theorem parseYaml_mappedSchedAffinityLast_afterThreadNumber :
    parseYaml boolEnv true true (.hash [("sched_affinity", 1), ("thread_number", 4)]) =
        .ok [.setThreadNumber 4, .setMappedSchedAffinity] ∧
      ∃ mapAll perKey, LastWins [("sched_affinity", 1), ("thread_number", 4)]
          (fun k v => decide (true ∧ boolEnv.normalize k = "sched_affinity") &&
            (boolEnv.asHash v).isNone)
          (fun _ v mapAll => boolEnv.asBool v = .ok mapAll) false mapAll ∧
        List.Forall₂ (fun entry calls => KeyCalls boolEnv true true entry.1 entry.2 calls)
          [("sched_affinity", 1), ("thread_number", 4)] perKey ∧
        .setMappedSchedAffinity ∉ perKey.flatten ∧
        ([.setThreadNumber 4, .setMappedSchedAffinity] : UnaidedRuntimeConfig Nat) =
          perKey.flatten ++ if mapAll then [.setMappedSchedAffinity] else [] :=
  ⟨rfl, parseYaml_mappedSchedAffinityLast boolEnv true true
    [("sched_affinity", 1), ("thread_number", 4)] [.setThreadNumber 4, .setMappedSchedAffinity] rfl⟩

end UnaidedRuntimeConfig

end G3Proxy.Config
