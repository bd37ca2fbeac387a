import G3Proxy.Config.Yaml

/-!
# `g3_yaml::value::geoip`: country codes, continent codes and IP locations

`as_iso_country_code` and `as_continent_code` take a YAML string and parse it with the code
type's `from_str`, giving one error for a value that is not a string and another for a
string that does not parse. `as_ip_location` reads a map into an `IpLocationBuilder`: each
key, once normalised, selects one setter (`network` and `net` the same one, as do
`as_number` and `asn`), and the builder is then built. Any other key is an error naming it.

`g3_geoip_types` and the other `g3_yaml` decoders are not among the sources. The builder is
modelled from its use, as the setter calls made on its default in order, and `build` is a
field of `GeoIpEnv`, as are the decoders.
-/

namespace G3Proxy.Config

/-- A call `as_ip_location` makes on its `IpLocationBuilder`. -/
inductive IpLocationBuilderCall (Net Country Continent : Type) where
  | setNetwork (net : Net)
  | setCountry (country : Country)
  | setContinent (continent : Continent)
  | setAsNumber (asn : UInt32)
  | setIspName (name : String)
  | setIspDomain (domain : String)
deriving DecidableEq, Repr

/-- The `g3_yaml` and `g3_geoip_types` functions the GeoIP decoders call. `asStr` gives the
text of a `Yaml::String`; the two `from_str` errors are dropped by the decoders. -/
structure GeoIpEnv (Yaml Net Country Continent Location : Type) where
  normalize : String → String
  asStr : Yaml → Option String
  isoCountryCodeFromStr : String → Option Country
  continentCodeFromStr : String → Option Continent
  asIpNetwork : Yaml → Except AnyhowError Net
  asU32 : Yaml → Except AnyhowError UInt32
  asString : Yaml → Except AnyhowError String
  build : List (IpLocationBuilderCall Net Country Continent) → Except AnyhowError Location

namespace GeoIp

variable {Yaml Net Country Continent Location : Type}
  (env : GeoIpEnv Yaml Net Country Continent Location)

/-- The shape `as_iso_country_code` and `as_continent_code` share: a YAML string parsed by
`fromStr`, with the two errors naming the code type. -/
def asCode {Code : Type} (fromStr : String → Option Code) (invalid typeName : String)
    (value : Yaml) : Except AnyhowError Code :=
  match env.asStr value with
  | some s => match fromStr s with
    | some code => .ok code
    | none => .error (anyhow invalid)
  | none => .error (anyhow ("yaml value type for \x27" ++ typeName ++ "\x27 should be \x27string\x27"))

def asIsoCountryCode (value : Yaml) : Except AnyhowError Country :=
  asCode env env.isoCountryCodeFromStr "invalid iso country code" "iso country code" value

def asContinentCode (value : Yaml) : Except AnyhowError Continent :=
  asCode env env.continentCodeFromStr "invalid continent code" "continent code" value

/-- A setter arm: decode the value, then call the setter with it. -/
def callWith {α : Type} (decoded : Except AnyhowError α)
    (call : α → IpLocationBuilderCall Net Country Continent)
    (calls : List (IpLocationBuilderCall Net Country Continent)) :
    Except AnyhowError (List (IpLocationBuilderCall Net Country Continent)) := do
  let value ← decoded
  pure (calls ++ [call value])

/-- The closure `as_ip_location` runs on each key of the map. -/
def setKey (calls : List (IpLocationBuilderCall Net Country Continent)) (k : String) (v : Yaml) :
    Except AnyhowError (List (IpLocationBuilderCall Net Country Continent)) :=
  let key := env.normalize k
  if key = "network" ∨ key = "net" then
    callWith (context ("invalid ip network value for key " ++ k) (env.asIpNetwork v)) .setNetwork calls
  else if key = "country" then
    callWith (context ("invalid iso country code value for key " ++ k) (asIsoCountryCode env v))
      .setCountry calls
  else if key = "continent" then
    callWith (context ("invalid continent code value for key " ++ k) (asContinentCode env v))
      .setContinent calls
  else if key = "as_number" ∨ key = "asn" then
    callWith (context ("invalid u32 value for key " ++ k) (env.asU32 v)) .setAsNumber calls
  else if key = "isp_name" then
    callWith (context ("invalid string value for key " ++ k) (env.asString v)) .setIspName calls
  else if key = "isp_domain" then
    callWith (context ("invalid string value for key " ++ k) (env.asString v)) .setIspDomain calls
  else .error (anyhow ("invalid key " ++ k))

def asIpLocation (value : YamlShape Yaml) : Except AnyhowError Location :=
  match value with
  | .hash map => do
    let calls ← foreachKv (setKey env) [] map
    env.build calls
  | _ => .error (anyhow "yaml value type for \x27ip location\x27 should be \x27map\x27")

def knownKeys : List String :=
  ["network", "net", "country", "continent", "as_number", "asn", "isp_name", "isp_domain"]

theorem asCode_eq_ok {Code : Type} {fromStr : String → Option Code} {invalid typeName : String}
    {value : Yaml} {code : Code} :
    asCode env fromStr invalid typeName value = .ok code ↔
      ∃ text, env.asStr value = some text ∧ fromStr text = some code := by
  unfold asCode
  cases env.asStr value with
  | none => simp
  | some text =>
    dsimp only
    cases parsed : fromStr text <;> simp [parsed]

theorem callWith_eq_ok {α : Type} {decoded : Except AnyhowError α}
    {call : α → IpLocationBuilderCall Net Country Continent}
    {calls calls' : List (IpLocationBuilderCall Net Country Continent)} :
    callWith decoded call calls = .ok calls' ↔ ∃ value, decoded = .ok value ∧ calls' = calls ++ [call value] := by
  cases decoded <;> simp [callWith, bind, Except.bind, pure, Except.pure, eq_comm]

/-- The setter call an entry makes when its value decodes: the setter its normalised key
names, given the decoded value. -/
inductive KeySelects (k : String) (v : Yaml) : IpLocationBuilderCall Net Country Continent → Prop
  | setNetwork {net : Net} (key : env.normalize k = "network" ∨ env.normalize k = "net")
      (decoded : env.asIpNetwork v = .ok net) : KeySelects k v (.setNetwork net)
  | setCountry {text : String} {country : Country} (key : env.normalize k = "country")
      (string : env.asStr v = some text) (parsed : env.isoCountryCodeFromStr text = some country) :
      KeySelects k v (.setCountry country)
  | setContinent {text : String} {continent : Continent} (key : env.normalize k = "continent")
      (string : env.asStr v = some text) (parsed : env.continentCodeFromStr text = some continent) :
      KeySelects k v (.setContinent continent)
  | setAsNumber {asn : UInt32} (key : env.normalize k = "as_number" ∨ env.normalize k = "asn")
      (decoded : env.asU32 v = .ok asn) : KeySelects k v (.setAsNumber asn)
  | setIspName {name : String} (key : env.normalize k = "isp_name")
      (decoded : env.asString v = .ok name) : KeySelects k v (.setIspName name)
  | setIspDomain {domain : String} (key : env.normalize k = "isp_domain")
      (decoded : env.asString v = .ok domain) : KeySelects k v (.setIspDomain domain)

theorem setKey_of_keySelects {k : String} {v : Yaml} {call : IpLocationBuilderCall Net Country Continent}
    (selects : KeySelects env k v call) (calls : List (IpLocationBuilderCall Net Country Continent)) :
    setKey env calls k v = .ok (calls ++ [call]) := by
  cases selects with
  | setNetwork key decoded | setAsNumber key decoded =>
    rcases key with key | key <;>
      simp [setKey, key, callWith, decoded, bind, Except.bind, pure, Except.pure]
  | setCountry key string parsed | setContinent key string parsed =>
    simp [setKey, key, callWith, asIsoCountryCode, asContinentCode, asCode, string, parsed, bind,
      Except.bind, pure, Except.pure]
  | setIspName key decoded | setIspDomain key decoded =>
    simp [setKey, key, callWith, decoded, bind, Except.bind, pure, Except.pure]

theorem setKey_eq_ok {calls calls' : List (IpLocationBuilderCall Net Country Continent)} {k : String}
    {v : Yaml} :
    setKey env calls k v = .ok calls' ↔ ∃ call, KeySelects env k v call ∧ calls' = calls ++ [call] := by
  refine ⟨fun stepped => ?_, fun ⟨call, selects, made⟩ => made ▸ setKey_of_keySelects env selects calls⟩
  dsimp only [setKey] at stepped
  split_ifs at stepped with network country continent asNumber ispName ispDomain
  all_goals obtain ⟨value, decoded, rfl⟩ := callWith_eq_ok.mp stepped; rw [context_eq_ok] at decoded
  · exact ⟨_, .setNetwork network decoded, rfl⟩
  · obtain ⟨text, string, parsed⟩ := (asCode_eq_ok env).mp decoded
    exact ⟨_, .setCountry country string parsed, rfl⟩
  · obtain ⟨text, string, parsed⟩ := (asCode_eq_ok env).mp decoded
    exact ⟨_, .setContinent continent string parsed, rfl⟩
  · exact ⟨_, .setAsNumber asNumber decoded, rfl⟩
  · exact ⟨_, .setIspName ispName decoded, rfl⟩
  · exact ⟨_, .setIspDomain ispDomain decoded, rfl⟩

theorem foreachKv_setKey_eq_ok {map : List (String × Yaml)}
    {calls final : List (IpLocationBuilderCall Net Country Continent)} :
    foreachKv (setKey env) calls map = .ok final ↔
      ∃ made, List.Forall₂ (fun entry call => KeySelects env entry.1 entry.2 call) map made ∧
        final = calls ++ made := by
  induction map generalizing calls with
  | nil => simp [foreachKv, eq_comm]
  | cons entry rest inductionHypothesis =>
    simp only [foreachKv, List.forall₂_cons_left_iff]
    split
    · rename_i err failed
      simp only [reduceCtorEq, false_iff]
      rintro ⟨_, ⟨call, _, selects, -⟩, -⟩
      rw [setKey_of_keySelects env selects] at failed
      cases failed
    · rename_i calls' stepped
      obtain ⟨call, selects, rfl⟩ := (setKey_eq_ok env).mp stepped
      rw [inductionHypothesis]
      constructor
      · rintro ⟨made, corresponds, rfl⟩
        exact ⟨call :: made, ⟨call, made, selects, corresponds, rfl⟩, by simp⟩
      · rintro ⟨_, ⟨call', made, selects', corresponds, rfl⟩, rfl⟩
        have same : call' = call := by
          simpa using (setKey_of_keySelects env selects' calls).symm.trans stepped
        exact ⟨made, corresponds, by simp [same]⟩

/-- An IP location `as_ip_location` accepts from a map is exactly what `build` makes of one
setter call per entry, in the map's order, each the call the entry's normalised key selects
with the value decoded. A key that normalises to none of the known keys makes it fail. -/
theorem asIpLocation_oneCallPerEntry (map : List (String × Yaml)) :
    (∀ location, asIpLocation env (.hash map) = .ok location ↔
      ∃ calls, List.Forall₂ (fun entry call => KeySelects env entry.1 entry.2 call) map calls ∧
        env.build calls = .ok location) ∧
    (∀ k v, (k, v) ∈ map → env.normalize k ∉ knownKeys →
      ∃ err, asIpLocation env (.hash map) = .error err) := by
  refine ⟨fun location => ?_, fun k v present unknown => ?_⟩
  · simp only [asIpLocation, bind_eq_ok, foreachKv_setKey_eq_ok, List.nil_append]
    exact ⟨fun ⟨_, ⟨calls, corresponds, same⟩, built⟩ => ⟨calls, corresponds, same ▸ built⟩,
      fun ⟨calls, corresponds, built⟩ => ⟨calls, ⟨calls, corresponds, rfl⟩, built⟩⟩
  · have rejected : ∀ calls, ∃ err, setKey env calls k v = .error err := by
      intro calls
      simp only [knownKeys, List.mem_cons, List.mem_singleton, not_or] at unknown
      exact ⟨anyhow ("invalid key " ++ k), by simp [setKey, unknown]⟩
    obtain ⟨err, failed⟩ := foreachKv_error_of_mem present rejected []
    exact ⟨err, by simp [asIpLocation, failed, bind, Except.bind]⟩

end GeoIp

end G3Proxy.Config
