import Mathlib.Data.UInt

/-!
# The statsd client the stats emitters write to

`StatsdClient` is modelled by the metrics it has sent, in order. A metric is built by
`count_with_tags` or `gauge_with_tags` over a `StatsdTagGroup`, may get the transport tag
by `with_tag(TAG_KEY_TRANSPORT, ..)`, and is queued by `send`.

The tag keys and the text of each tag value live in `g3_daemon` and `g3_statsd_client`,
which are not among the sources: a tag group is kept as the values it is built from.
-/

namespace G3Proxy.Stat

/-- `StatId`: the id of a stats object, fixed when the object is made. -/
abbrev StatId := Nat

/-- The value of `TAG_KEY_TRANSPORT` on the traffic metrics. -/
inductive Transport where
  | tcp
  | udp
deriving DecidableEq, Repr

/-- `StatsdTagGroup` after `add_server_tags(name, is_online, stat_id)` and, when the
server has extra tags, `add_static_tags`. -/
structure StatsdTagGroup where
  serverName : String
  online : Bool
  statId : StatId
  staticTags : List (String × String)
deriving DecidableEq, Repr

/-- A count carries a `u64` difference, a gauge the value read. -/
inductive MetricValue where
  | count (value : UInt64)
  | gauge (value : Int)
deriving DecidableEq, Repr

structure StatsdMetric where
  name : String
  value : MetricValue
  tags : StatsdTagGroup
  transport : Option Transport
deriving DecidableEq, Repr

structure StatsdClient where
  sent : List StatsdMetric
deriving DecidableEq, Repr

namespace StatsdClient

def countWithTags (name : String) (value : UInt64) (tags : StatsdTagGroup) : StatsdMetric :=
  ⟨name, .count value, tags, none⟩

def gaugeWithTags (name : String) (value : Int) (tags : StatsdTagGroup) : StatsdMetric :=
  ⟨name, .gauge value, tags, none⟩

def send (client : StatsdClient) (metric : StatsdMetric) : StatsdClient :=
  ⟨client.sent ++ [metric]⟩

@[simp]
theorem send_sent (client : StatsdClient) (metric : StatsdMetric) :
    (client.send metric).sent = client.sent ++ [metric] :=
  rfl

end StatsdClient

/-- `.with_tag(TAG_KEY_TRANSPORT, transport)`. -/
def StatsdMetric.withTag (metric : StatsdMetric) (transport : Transport) : StatsdMetric :=
  { metric with transport := some transport }

def MetricValue.isCount : MetricValue → Bool
  | .count _ => true
  | .gauge _ => false

/-- What a metric adds to the running total of its series: a count its difference, a
gauge nothing. -/
def MetricValue.countValue : MetricValue → UInt64
  | .count value => value
  | .gauge _ => 0

/-- The sum, modulo `2^64`, of the counts in `metrics`. -/
def countSum (metrics : List StatsdMetric) : UInt64 :=
  (metrics.map (·.value.countValue)).sum

@[simp]
theorem countSum_nil : countSum [] = 0 :=
  rfl

@[simp]
theorem countSum_append (first second : List StatsdMetric) :
    countSum (first ++ second) = countSum first + countSum second := by
  simp [countSum]

@[simp]
theorem countSum_cons (metric : StatsdMetric) (metrics : List StatsdMetric) :
    countSum (metric :: metrics) = metric.value.countValue + countSum metrics := by
  simp [countSum]

end G3Proxy.Stat
