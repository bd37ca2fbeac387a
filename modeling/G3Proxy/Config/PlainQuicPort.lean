import G3Proxy.Config.Yaml

/-!
# `PlainQuicPortConfig`: parsing and checking

`parse` runs `set` on every key of the YAML map, in order, and then `check`. `set`
dispatches on the normalised key, decodes the value with a `g3_yaml` function and stores
it in its one field; an unknown key is an error naming it. `check` requires a name and a
server, then runs the listen and TLS checks.

The decoders, the key normaliser, the defaults and the checks of `g3_yaml`, `g3_daemon`
and `g3_types` are not among the sources: they are the fields of `PlainQuicPortEnv`, over
the types `Yaml`, `Listen`, `Tls` and `Filter` they decode to.
-/

namespace G3Proxy.Config

/-- The functions of `g3_yaml`, `g3_daemon` and `g3_types` `PlainQuicPortConfig` calls, and
the two key names of `super`. -/
structure PlainQuicPortEnv (Yaml Listen Tls Filter : Type) where
  normalize : String → String
  configKeyServerType : String
  configKeyServerName : String
  asMetricsName : Yaml → Except AnyhowError String
  asUdpListenConfig : Yaml → Except AnyhowError Listen
  asBool : Yaml → Except AnyhowError Bool
  getLookupDir : Option String → Except AnyhowError String
  asRustlsServerConfigBuilder : Yaml → String → Except AnyhowError Tls
  asIngressNetworkRuleBuilder : Yaml → Except AnyhowError Filter
  listenDefault : Listen
  tlsEmpty : Tls
  listenCheck : Listen → Except AnyhowError Unit
  tlsCheck : Tls → Except AnyhowError Unit

/-- `PlainQuicPortConfig`; a `MetricsName` is its text, and the YAML document position
the text of the position. -/
structure PlainQuicPortConfig (Listen Tls Filter : Type) where
  name : String
  position : Option String
  listen : Listen
  listenInWorker : Bool
  tlsServer : Tls
  ingressNetFilter : Option Filter
  server : String
deriving DecidableEq, Repr

namespace PlainQuicPortConfig

variable {Yaml Listen Tls Filter : Type} (env : PlainQuicPortEnv Yaml Listen Tls Filter)

def new (position : Option String) : PlainQuicPortConfig Listen Tls Filter :=
  ⟨"", position, env.listenDefault, false, env.tlsEmpty, none, ""⟩

def set (config : PlainQuicPortConfig Listen Tls Filter) (k : String) (v : Yaml) :
    Except AnyhowError (PlainQuicPortConfig Listen Tls Filter) :=
  let key := env.normalize k
  if key = env.configKeyServerType then .ok config
  else if key = env.configKeyServerName then do
    let name ← env.asMetricsName v
    pure { config with name := name }
  else if key = "listen" then do
    let listen ← context ("invalid udp listen config value for key " ++ k) (env.asUdpListenConfig v)
    pure { config with listen := listen }
  else if key = "listen_in_worker" then do
    let listenInWorker ← env.asBool v
    pure { config with listenInWorker := listenInWorker }
  else if key = "quic_server" then do
    let lookupDir ← env.getLookupDir config.position
    let tlsServer ← env.asRustlsServerConfigBuilder v lookupDir
    pure { config with tlsServer := tlsServer }
  else if key = "ingress_network_filter" ∨ key = "ingress_net_filter" then do
    let filter ← context ("invalid ingress network acl rule value for key " ++ k)
      (env.asIngressNetworkRuleBuilder v)
    pure { config with ingressNetFilter := some filter }
  else if key = "server" then do
    let server ← env.asMetricsName v
    pure { config with server := server }
  else .error (anyhow ("invalid key " ++ k))

def check (config : PlainQuicPortConfig Listen Tls Filter) : Except AnyhowError Unit :=
  if config.name = "" then .error (anyhow "name is not set")
  else if config.server = "" then .error (anyhow "server is not set")
  else do
    context "invalid listen config" (env.listenCheck config.listen)
    context "invalid quic tls config" (env.tlsCheck config.tlsServer)

def parse (map : List (String × Yaml)) (position : Option String) :
    Except AnyhowError (PlainQuicPortConfig Listen Tls Filter) := do
  let server ← foreachKv (set env) (new env position) map
  check env server
  pure server

def knownKeys : List String :=
  [env.configKeyServerType, env.configKeyServerName, "listen", "listen_in_worker", "quic_server",
    "ingress_network_filter", "ingress_net_filter", "server"]

theorem set_ok {config config' : PlainQuicPortConfig Listen Tls Filter} {k : String} {v : Yaml}
    (done : set env config k v = .ok config') :
    config' = config ∨
    (env.normalize k = env.configKeyServerName ∧
      ∃ name, env.asMetricsName v = .ok name ∧ config' = { config with name := name }) ∨
    (∃ listen, config' = { config with listen := listen }) ∨
    (∃ listenInWorker, config' = { config with listenInWorker := listenInWorker }) ∨
    (∃ tlsServer, config' = { config with tlsServer := tlsServer }) ∨
    (∃ filter, config' = { config with ingressNetFilter := some filter }) ∨
    (env.normalize k = "server" ∧
      ∃ server, env.asMetricsName v = .ok server ∧ config' = { config with server := server }) := by
  dsimp only [set] at done
  split_ifs at done with isType isName isListen isWorker isQuic isFilter isServer
  · exact .inl (Except.ok.inj done).symm
  · obtain ⟨name, decoded, made⟩ := (bind_eq_ok _ _ _).mp done
    obtain rfl := Except.ok.inj made
    exact .inr (.inl ⟨isName, name, decoded, rfl⟩)
  · obtain ⟨listen, -, made⟩ := (bind_eq_ok _ _ _).mp done
    obtain rfl := Except.ok.inj made
    exact .inr (.inr (.inl ⟨listen, rfl⟩))
  · obtain ⟨listenInWorker, -, made⟩ := (bind_eq_ok _ _ _).mp done
    obtain rfl := Except.ok.inj made
    exact .inr (.inr (.inr (.inl ⟨listenInWorker, rfl⟩)))
  · obtain ⟨_, _, built⟩ := (bind_eq_ok _ _ _).mp done
    obtain ⟨tlsServer, -, made⟩ := (bind_eq_ok _ _ _).mp built
    obtain rfl := Except.ok.inj made
    exact .inr (.inr (.inr (.inr (.inl ⟨tlsServer, rfl⟩))))
  · obtain ⟨filter, -, made⟩ := (bind_eq_ok _ _ _).mp done
    obtain rfl := Except.ok.inj made
    exact .inr (.inr (.inr (.inr (.inr (.inl ⟨filter, rfl⟩)))))
  · obtain ⟨server, decoded, made⟩ := (bind_eq_ok _ _ _).mp done
    obtain rfl := Except.ok.inj made
    exact .inr (.inr (.inr (.inr (.inr (.inr ⟨isServer, server, decoded, rfl⟩)))))

theorem set_unknown (config : PlainQuicPortConfig Listen Tls Filter) {k : String} (v : Yaml)
    (unknown : env.normalize k ∉ knownKeys env) :
    set env config k v = .error (anyhow ("invalid key " ++ k)) := by
  simp only [knownKeys, List.mem_cons, List.mem_singleton, List.not_mem_nil, or_false,
    not_or] at unknown
  obtain ⟨isType, isName, isListen, isWorker, isQuic, isNetwork, isNet, isServer⟩ := unknown
  simp [set, isType, isName, isListen, isWorker, isQuic, isNetwork, isNet, isServer]

theorem check_ok {config : PlainQuicPortConfig Listen Tls Filter} {passed : Unit}
    (checked : check env config = .ok passed) :
    config.name ≠ "" ∧ config.server ≠ "" ∧ env.listenCheck config.listen = .ok () ∧
      env.tlsCheck config.tlsServer = .ok () := by
  unfold check at checked
  split_ifs at checked with noName noServer
  obtain ⟨_, listenOk, tlsOk⟩ := (bind_eq_ok _ _ _).mp checked
  exact ⟨noName, noServer, (context_eq_ok _ _ _).mp listenOk, (context_eq_ok _ _ _).mp tlsOk⟩

/-- What a config keeps while `parse` runs over `map`: the position it was made with, and a
name and a server that are empty or were decoded from an entry of `map` under their key. -/
structure Provenance (map : List (String × Yaml)) (position : Option String)
    (config : PlainQuicPortConfig Listen Tls Filter) : Prop where
  position : config.position = position
  name : config.name = "" ∨ ∃ k v, (k, v) ∈ map ∧ env.normalize k = env.configKeyServerName ∧
    env.asMetricsName v = .ok config.name
  server : config.server = "" ∨ ∃ k v, (k, v) ∈ map ∧ env.normalize k = "server" ∧
    env.asMetricsName v = .ok config.server

theorem Provenance.set {map : List (String × Yaml)} {position : Option String}
    {config config' : PlainQuicPortConfig Listen Tls Filter} {k : String} {v : Yaml}
    (present : (k, v) ∈ map) (holds : Provenance env map position config)
    (stepped : set env config k v = .ok config') : Provenance env map position config' := by
  obtain ⟨samePosition, named, served⟩ := holds
  rcases set_ok env stepped with rfl | ⟨isName, _, decoded, rfl⟩ | ⟨_, rfl⟩ | ⟨_, rfl⟩ |
      ⟨_, rfl⟩ | ⟨_, rfl⟩ | ⟨isServer, _, decoded, rfl⟩
  all_goals first
    | exact ⟨samePosition, named, served⟩
    | exact ⟨samePosition, .inr ⟨k, v, present, isName, decoded⟩, served⟩
    | exact ⟨samePosition, named, .inr ⟨k, v, present, isServer, decoded⟩⟩

/-- What `parse` accepts is well formed: it has its position, a name and a server, each
decoded from an entry under its key, and passes the listen and TLS checks. Every key it
does not know makes it fail. -/
theorem parse_wellFormed :
    (∀ map position config, parse env map position = .ok config →
      config.position = position ∧ config.name ≠ "" ∧ config.server ≠ "" ∧
      env.listenCheck config.listen = .ok () ∧ env.tlsCheck config.tlsServer = .ok () ∧
      (∃ k v, (k, v) ∈ map ∧ env.normalize k = env.configKeyServerName ∧
        env.asMetricsName v = .ok config.name) ∧
      (∃ k v, (k, v) ∈ map ∧ env.normalize k = "server" ∧ env.asMetricsName v = .ok config.server)) ∧
    (∀ map position k v, (k, v) ∈ map → env.normalize k ∉ knownKeys env →
      ∃ err, parse env map position = .error err) := by
  refine ⟨fun map position config parsed => ?_, fun map position k v present unknown => ?_⟩
  · obtain ⟨config', folded, checkedThen⟩ := (bind_eq_ok _ _ _).mp parsed
    obtain ⟨_, checked, made⟩ := (bind_eq_ok _ _ _).mp checkedThen
    obtain rfl := Except.ok.inj made
    obtain ⟨samePosition, named, served⟩ := foreachKv_invariant map
      (fun _ _ _ _ present holds stepped => holds.set env present stepped)
      (⟨rfl, .inl rfl, .inl rfl⟩ : Provenance env map position (new env position)) folded
    obtain ⟨noName, noServer, listenOk, tlsOk⟩ := check_ok env checked
    exact ⟨samePosition, noName, noServer, listenOk, tlsOk, named.resolve_left noName,
      served.resolve_left noServer⟩
  · obtain ⟨err, failed⟩ := foreachKv_error_of_mem present
      (fun state => ⟨_, set_unknown env state v unknown⟩) (new env position)
    exact ⟨err, by simp [parse, failed, bind, Except.bind]⟩

/-- Decoders over texts: every value decodes to itself as a metrics name, every other
decoder and check passes, and the key normaliser is the identity. -/
def textEnv : PlainQuicPortEnv String Unit Unit Unit where
  normalize := id
  configKeyServerType := "type"
  configKeyServerName := "name"
  asMetricsName := .ok
  asUdpListenConfig := fun _ => .ok ()
  asBool := fun v => .ok (v = "true")
  getLookupDir := fun _ => .ok ""
  asRustlsServerConfigBuilder := fun _ _ => .ok ()
  asIngressNetworkRuleBuilder := fun _ => .ok ()
  listenDefault := ()
  tlsEmpty := ()
  listenCheck := fun _ => .ok ()
  tlsCheck := fun _ => .ok ()

theorem parse_wellFormed_quicPort :
    parse textEnv [("type", "plain_quic_port"), ("name", "quic"), ("listen", "[::]:443"),
        ("server", "http")] none = .ok ⟨"quic", none, (), false, (), none, "http"⟩ ∧
      (none : Option String) = none ∧ "quic" ≠ "" ∧ "http" ≠ "" ∧ textEnv.listenCheck () = .ok () ∧
      textEnv.tlsCheck () = .ok () ∧
      (∃ k v, (k, v) ∈ [("type", "plain_quic_port"), ("name", "quic"), ("listen", "[::]:443"),
          ("server", "http")] ∧ textEnv.normalize k = textEnv.configKeyServerName ∧
        textEnv.asMetricsName v = .ok "quic") ∧
      (∃ k v, (k, v) ∈ [("type", "plain_quic_port"), ("name", "quic"), ("listen", "[::]:443"),
          ("server", "http")] ∧ textEnv.normalize k = "server" ∧
        textEnv.asMetricsName v = .ok "http") :=
  ⟨rfl, (parse_wellFormed textEnv).1 [("type", "plain_quic_port"), ("name", "quic"),
    ("listen", "[::]:443"), ("server", "http")] none ⟨"quic", none, (), false, (), none, "http"⟩ rfl⟩

end PlainQuicPortConfig

end G3Proxy.Config
