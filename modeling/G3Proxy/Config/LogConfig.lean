import G3Proxy.Config.Yaml

/-!
# `LogConfig`: the daemon's logger configuration

A log config is a driver name, or a map that starts from the discard driver and sets the
driver, the async channel size, the async thread number and the I/O error sampling offset.
The offset is at most `IO_ERROR_SAMPLING_OFFSET_MAX` (16) and is kept as the mask
`(1 << offset) - 1`, so every config holds a mask one below a power of two. The bound is
inclusive, although the error for a larger offset says the value "should be less than 16".

The driver configs of `g3_journal`, `g3_syslog` and `g3_fluentd` and the `g3_yaml` decoders
are not among the sources: they are the fields of `LogConfigEnv`. A journal driver is kept
as the identifier it was made with. `targetLinux` is `cfg!(target_os = "linux")`, on which
the journal driver exists.
-/

namespace G3Proxy.Config

/-- The `g3_yaml` decoders and driver configs `LogConfig` calls. -/
structure LogConfigEnv (Yaml Syslog Fluentd : Type) where
  normalize : String → String
  asUsize : Yaml → Except AnyhowError Nat
  asSyslogBuilder : Yaml → String → Except AnyhowError Syslog
  asFluentdClientConfig : Yaml → Option String → Except AnyhowError Fluentd
  syslogWithIdent : String → Syslog
  fluentdDefault : Fluentd

inductive LogConfigDriver (Syslog Fluentd : Type) where
  | discard
  | journal (ident : String)
  | syslog (builder : Syslog)
  | fluentd (config : Fluentd)
  | stdout
deriving DecidableEq, Repr

structure LogConfig (Syslog Fluentd : Type) where
  driver : LogConfigDriver Syslog Fluentd
  asyncChannelSize : Nat
  asyncThreadNumber : Nat
  ioErrSamplingMask : Nat
  programName : String
deriving DecidableEq, Repr

def defaultChannelSize : Nat := 4096

def ioErrorSamplingOffsetMax : Nat := 16

def ioErrorSamplingOffsetDefault : Nat := 10

namespace LogConfig

variable {Yaml Syslog Fluentd : Type} (env : LogConfigEnv Yaml Syslog Fluentd)

def withDriver (driver : LogConfigDriver Syslog Fluentd) (programName : String) :
    LogConfig Syslog Fluentd :=
  ⟨driver, defaultChannelSize, 1, (1 <<< ioErrorSamplingOffsetDefault) - 1, programName⟩

def newDiscard (programName : String) : LogConfig Syslog Fluentd :=
  withDriver .discard programName

def newJournal (programName : String) : LogConfig Syslog Fluentd :=
  withDriver (.journal programName) programName

def newSyslog (programName : String) : LogConfig Syslog Fluentd :=
  withDriver (.syslog (env.syslogWithIdent programName)) programName

def newFluentd (programName : String) : LogConfig Syslog Fluentd :=
  withDriver (.fluentd env.fluentdDefault) programName

def newStdout (programName : String) : LogConfig Syslog Fluentd :=
  withDriver .stdout programName

/-- The config named by a driver name, as `with_driver_name` and the string form of
`parse_yaml` pick it; they differ only in the error for an unknown name. -/
def ofDriverName (targetLinux : Bool) (unknown : String) (driver programName : String) :
    Except AnyhowError (LogConfig Syslog Fluentd) :=
  if driver = "discard" then .ok (newDiscard programName)
  else if targetLinux ∧ driver = "journal" then .ok (newJournal programName)
  else if driver = "syslog" then .ok (newSyslog env programName)
  else if driver = "fluentd" then .ok (newFluentd env programName)
  else if driver = "stdout" then .ok (newStdout programName)
  else .error (anyhow unknown)

def withDriverName (targetLinux : Bool) (driver programName : String) :
    Except AnyhowError (LogConfig Syslog Fluentd) :=
  ofDriverName env targetLinux "invalid default log config" driver programName

/-- The closure `parse_yaml` runs on each key of a map. -/
def setKey (targetLinux : Bool) (confDir programName : String) (config : LogConfig Syslog Fluentd)
    (k : String) (v : Yaml) : Except AnyhowError (LogConfig Syslog Fluentd) :=
  let key := env.normalize k
  if targetLinux ∧ key = "journal" then .ok { config with driver := .journal programName }
  else if key = "syslog" then do
    let builder ← context "invalid syslog config" (env.asSyslogBuilder v programName)
    pure { config with driver := .syslog builder }
  else if key = "fluentd" then do
    let client ← context "invalid fluentd config" (env.asFluentdClientConfig v (some confDir))
    pure { config with driver := .fluentd client }
  else if key = "async_channel_size" ∨ key = "channel_size" then do
    let channelSize ← context ("invalid usize value for key " ++ k) (env.asUsize v)
    pure { config with asyncChannelSize := channelSize }
  else if key = "async_thread_number" ∨ key = "thread_number" then do
    let threadNumber ← context ("invalid usize value for key " ++ k) (env.asUsize v)
    pure { config with asyncThreadNumber := threadNumber }
  else if key = "io_error_sampling_offset" then do
    let offset ← context ("invalid value for key " ++ k) (env.asUsize v)
    if offset > ioErrorSamplingOffsetMax then
      .error (anyhow ("value for " ++ k ++ " should be less than " ++
        toString ioErrorSamplingOffsetMax))
    else pure { config with ioErrSamplingMask := (1 <<< offset) - 1 }
  else .error (anyhow ("invalid key " ++ k))

def parseYaml (targetLinux : Bool) (v : YamlShape Yaml) (confDir programName : String) :
    Except AnyhowError (LogConfig Syslog Fluentd) :=
  match v with
  | .string s => ofDriverName env targetLinux "invalid log config" s programName
  | .hash map =>
    foreachKv (setKey env targetLinux confDir programName) (newDiscard programName) map
  | .other => .error (anyhow "invalid value type")

/-! ## What one key does -/

theorem setKey_ok {targetLinux : Bool} {confDir programName : String}
    {config config' : LogConfig Syslog Fluentd} {k : String} {v : Yaml}
    (stepped : setKey env targetLinux confDir programName config k v = .ok config') :
    ((targetLinux ∧ env.normalize k = "journal") ∧
      config' = { config with driver := .journal programName }) ∨
    (env.normalize k = "syslog" ∧ ∃ builder, env.asSyslogBuilder v programName = .ok builder ∧
      config' = { config with driver := .syslog builder }) ∨
    (env.normalize k = "fluentd" ∧ ∃ client,
      env.asFluentdClientConfig v (some confDir) = .ok client ∧
      config' = { config with driver := .fluentd client }) ∨
    ((env.normalize k = "async_channel_size" ∨ env.normalize k = "channel_size") ∧
      ∃ channelSize, env.asUsize v = .ok channelSize ∧
      config' = { config with asyncChannelSize := channelSize }) ∨
    ((env.normalize k = "async_thread_number" ∨ env.normalize k = "thread_number") ∧
      ∃ threadNumber, env.asUsize v = .ok threadNumber ∧
      config' = { config with asyncThreadNumber := threadNumber }) ∨
    (env.normalize k = "io_error_sampling_offset" ∧ ∃ offset ≤ ioErrorSamplingOffsetMax,
      env.asUsize v = .ok offset ∧ config' = { config with ioErrSamplingMask := 2 ^ offset - 1 }) := by
  dsimp only [LogConfig.setKey] at stepped
  split_ifs at stepped with isJournal isSyslog isFluentd isChannel isThread isOffset
  · exact .inl ⟨isJournal, (Except.ok.inj stepped).symm⟩
  · obtain ⟨builder, built, made⟩ := (bind_eq_ok _ _ _).mp stepped
    exact .inr (.inl ⟨isSyslog, builder, (context_eq_ok _ _ _).mp built, (Except.ok.inj made).symm⟩)
  · obtain ⟨client, built, made⟩ := (bind_eq_ok _ _ _).mp stepped
    exact .inr (.inr (.inl ⟨isFluentd, client, (context_eq_ok _ _ _).mp built,
      (Except.ok.inj made).symm⟩))
  · obtain ⟨channelSize, decoded, made⟩ := (bind_eq_ok _ _ _).mp stepped
    exact .inr (.inr (.inr (.inl ⟨isChannel, channelSize, (context_eq_ok _ _ _).mp decoded,
      (Except.ok.inj made).symm⟩)))
  · obtain ⟨threadNumber, decoded, made⟩ := (bind_eq_ok _ _ _).mp stepped
    exact .inr (.inr (.inr (.inr (.inl ⟨isThread, threadNumber, (context_eq_ok _ _ _).mp decoded,
      (Except.ok.inj made).symm⟩))))
  · obtain ⟨offset, decoded, checked⟩ := (bind_eq_ok _ _ _).mp stepped
    split_ifs at checked with tooLarge
    exact .inr (.inr (.inr (.inr (.inr ⟨isOffset, offset, Nat.le_of_not_gt tooLarge,
      (context_eq_ok _ _ _).mp decoded, by rw [← Except.ok.inj checked, Nat.one_shiftLeft]⟩))))

/-! ## What every accepted config holds -/

/-- A config is sound for a program when it is that program's, its sampling mask is one
below a power of two no larger than `2 ^ IO_ERROR_SAMPLING_OFFSET_MAX`, and a journal
driver, which exists on Linux only, carries the program name. -/
structure Sound (targetLinux : Bool) (programName : String) (config : LogConfig Syslog Fluentd) :
    Prop where
  program : config.programName = programName
  mask : ∃ offset ≤ ioErrorSamplingOffsetMax, config.ioErrSamplingMask = 2 ^ offset - 1
  journal : ∀ ident, config.driver = .journal ident → targetLinux = true ∧ ident = programName

theorem sound_withDriver (targetLinux : Bool) {programName : String}
    {driver : LogConfigDriver Syslog Fluentd}
    (journal : ∀ ident, driver = .journal ident → targetLinux = true ∧ ident = programName) :
    Sound targetLinux programName (withDriver driver programName) :=
  ⟨rfl, ⟨ioErrorSamplingOffsetDefault, by decide, rfl⟩, journal⟩

theorem sound_ofDriverName {targetLinux : Bool} {unknown driver programName : String}
    {config : LogConfig Syslog Fluentd}
    (named : ofDriverName env targetLinux unknown driver programName = .ok config) :
    Sound targetLinux programName config := by
  unfold ofDriverName at named
  split_ifs at named with discard journal <;> cases named <;>
    exact sound_withDriver targetLinux (by simp_all)

theorem Sound.setKey {targetLinux : Bool} {confDir programName : String}
    {config config' : LogConfig Syslog Fluentd} {k : String} {v : Yaml}
    (holds : Sound targetLinux programName config)
    (stepped : setKey env targetLinux confDir programName config k v = .ok config') :
    Sound targetLinux programName config' := by
  obtain ⟨program, mask, journal⟩ := holds
  rcases setKey_ok env stepped with ⟨⟨onLinux, -⟩, rfl⟩ | ⟨-, _, -, rfl⟩ | ⟨-, _, -, rfl⟩ |
      ⟨-, _, -, rfl⟩ | ⟨-, _, -, rfl⟩ | ⟨-, offset, small, -, rfl⟩
  · exact ⟨program, mask, fun ident same => by cases same; exact ⟨onLinux, rfl⟩⟩
  · exact ⟨program, mask, fun _ same => by cases same⟩
  · exact ⟨program, mask, fun _ same => by cases same⟩
  · exact ⟨program, mask, journal⟩
  · exact ⟨program, mask, journal⟩
  · exact ⟨program, ⟨offset, small, rfl⟩, journal⟩

/-- Every config `parse_yaml` accepts is the program's, holds a sampling mask
`2 ^ offset - 1` with `offset ≤ 16`, and has a journal driver only on Linux. An offset is
accepted exactly when it is at most 16; a larger one is rejected with an error naming its
key. -/
theorem parseYaml_sound (targetLinux : Bool) (confDir programName : String) :
    (∀ v config, parseYaml env targetLinux v confDir programName = .ok config →
      Sound targetLinux programName config) ∧
    (∀ config k v offset, env.normalize k = "io_error_sampling_offset" →
      env.asUsize v = .ok offset →
      setKey env targetLinux confDir programName config k v =
        if offset ≤ ioErrorSamplingOffsetMax then .ok { config with ioErrSamplingMask := 2 ^ offset - 1 }
        else .error ["value for " ++ k ++ " should be less than 16"]) := by
  refine ⟨fun v config parsed => ?_, fun config k v offset isOffset decoded => ?_⟩
  · rcases v with s | map | _
    · exact sound_ofDriverName env parsed
    · exact foreachKv_invariant map (fun _ _ _ _ _ holds stepped => holds.setKey env stepped)
        (sound_withDriver targetLinux fun _ same => by cases same) parsed
    · cases parsed
  · have message : toString ioErrorSamplingOffsetMax = "16" := rfl
    by_cases small : offset ≤ ioErrorSamplingOffsetMax
    · simp [LogConfig.setKey, isOffset, decoded, small, Nat.not_lt.mpr small, bind, Except.bind,
        pure, Except.pure, Nat.one_shiftLeft]
    · simp only [LogConfig.setKey, isOffset, decoded, small, Nat.lt_of_not_le small, message]
      simp [bind, Except.bind, anyhow, String.append_assoc, small]

/-! ## The last key wins -/

/-- In every map `parse_yaml` accepts, each field of the config is set by the last key for
it, aliases included, or keeps the default of `new_discard` when no key sets it. -/
theorem parseYaml_lastKeyWins (targetLinux : Bool) (confDir programName : String)
    (map : List (String × Yaml)) (config : LogConfig Syslog Fluentd)
    (parsed : parseYaml env targetLinux (.hash map) confDir programName = .ok config) :
    LastWins map
      (fun k _ => decide ((targetLinux ∧ env.normalize k = "journal") ∨ env.normalize k = "syslog" ∨
        env.normalize k = "fluentd"))
      (fun k v driver => (env.normalize k = "journal" ∧ driver = .journal programName) ∨
        (env.normalize k = "syslog" ∧
          ∃ builder, env.asSyslogBuilder v programName = .ok builder ∧ driver = .syslog builder) ∨
        (env.normalize k = "fluentd" ∧ ∃ client,
          env.asFluentdClientConfig v (some confDir) = .ok client ∧ driver = .fluentd client))
      .discard config.driver ∧
    LastWins map
      (fun k _ => decide (env.normalize k = "async_channel_size" ∨ env.normalize k = "channel_size"))
      (fun _ v channelSize => env.asUsize v = .ok channelSize) defaultChannelSize
      config.asyncChannelSize ∧
    LastWins map
      (fun k _ => decide (env.normalize k = "async_thread_number" ∨ env.normalize k = "thread_number"))
      (fun _ v threadNumber => env.asUsize v = .ok threadNumber) 1 config.asyncThreadNumber ∧
    LastWins map (fun k _ => decide (env.normalize k = "io_error_sampling_offset"))
      (fun _ v mask => ∃ offset, env.asUsize v = .ok offset ∧ offset ≤ ioErrorSamplingOffsetMax ∧
        mask = 2 ^ offset - 1)
      ((1 <<< ioErrorSamplingOffsetDefault) - 1) config.ioErrSamplingMask := by
  refine ⟨foreachKv_lastWins (fun config => config.driver) _ _ (fun _ _ _ _ other stepped => ?_)
      (fun _ _ _ _ sets stepped => ?_) parsed,
    foreachKv_lastWins (fun config => config.asyncChannelSize) _ _
      (fun _ _ _ _ other stepped => ?_) (fun _ _ _ _ sets stepped => ?_) parsed,
    foreachKv_lastWins (fun config => config.asyncThreadNumber) _ _
      (fun _ _ _ _ other stepped => ?_) (fun _ _ _ _ sets stepped => ?_) parsed,
    foreachKv_lastWins (fun config => config.ioErrSamplingMask) _ _
      (fun _ _ _ _ other stepped => ?_) (fun _ _ _ _ sets stepped => ?_) parsed⟩ <;>
  rcases setKey_ok env stepped with ⟨key, rfl⟩ | ⟨key, _, decoded, rfl⟩ | ⟨key, _, decoded, rfl⟩ |
      ⟨key | key, _, decoded, rfl⟩ | ⟨key | key, _, decoded, rfl⟩ | ⟨key, _, _, decoded, rfl⟩ <;>
    simp_all

/-- Decoders over naturals: every value decodes as itself, the drivers carry nothing, and
the key normaliser is the identity. -/
def natEnv : LogConfigEnv Nat Unit Unit where
  normalize := id
  asUsize := .ok
  asSyslogBuilder := fun _ _ => .ok ()
  asFluentdClientConfig := fun _ _ => .ok ()
  syslogWithIdent := fun _ => ()
  fluentdDefault := ()

theorem parseYaml_sound_offsetMax :
    parseYaml natEnv true (.hash [("io_error_sampling_offset", 16)]) "" "g3proxy" =
        .ok ⟨.discard, defaultChannelSize, 1, 65535, "g3proxy"⟩ ∧
      Sound true "g3proxy" (⟨.discard, defaultChannelSize, 1, 65535, "g3proxy"⟩ : LogConfig Unit Unit) ∧
      setKey natEnv true "" "g3proxy" (newDiscard "g3proxy") "io_error_sampling_offset" 16 =
        .ok { newDiscard "g3proxy" with ioErrSamplingMask := 2 ^ 16 - 1 } :=
  ⟨rfl, (parseYaml_sound natEnv true "" "g3proxy").1 (.hash [("io_error_sampling_offset", 16)]) _ rfl,
    ((parseYaml_sound natEnv true "" "g3proxy").2 _ _ _ 16 rfl rfl).trans (if_pos (by decide))⟩

theorem parseYaml_lastKeyWins_channelAlias :
    parseYaml natEnv true (.hash [("channel_size", 8), ("syslog", 0), ("async_channel_size", 16)])
        "" "g3proxy" = .ok ⟨.syslog (), 16, 1, 1023, "g3proxy"⟩ ∧
      LastWins [("channel_size", 8), ("syslog", 0), ("async_channel_size", 16)]
        (fun k _ => decide (natEnv.normalize k = "async_channel_size" ∨
          natEnv.normalize k = "channel_size"))
        (fun _ v channelSize => natEnv.asUsize v = .ok channelSize) defaultChannelSize 16 :=
  ⟨rfl, (parseYaml_lastKeyWins natEnv true "" "g3proxy"
    [("channel_size", 8), ("syslog", 0), ("async_channel_size", 16)]
    ⟨.syslog (), 16, 1, 1023, "g3proxy"⟩ rfl).2.1⟩

end LogConfig

end G3Proxy.Config
