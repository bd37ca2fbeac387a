import G3Proxy.Http.Connect

/-!
# What the CONNECT escapers share

The task notes the flows read, the TLS connector the `http_connect_tls_connect_to`
flows hand the tunnel to, and the record a failed handshake leaves in the escape log.

The TLS engine itself is not modelled: `build_ssl` and `SslConnector::new` either work
or fail, and the handshake ends established, failed or timed out, as the environment
says. An established stream keeps the connector it came from, so the transport the
engine was given stays visible, and offers its plaintext channel to the relay.
-/

namespace G3Proxy.Escape

open G3Proxy.Io G3Proxy.Http

/-- `TcpConnectTaskNotes`: the field the CONNECT flows read. -/
structure TcpConnectTaskNotes where
  upstream : UpstreamAddr
deriving DecidableEq, Repr

/-- `ServerTaskNotes`: the fields the CONNECT flows read. -/
structure ServerTaskNotes where
  id : Nat
  rawUserName : Option String
deriving DecidableEq, Repr

/-! ## The CONNECT exchange -/

/-- The exchange both `http_connect_tcp_connect_to` flows run once the stream to the
proxy is open: `req.send(&mut stream)`, then `HttpConnectResponse::recv` over
`BufReader::new(stream)`. `none` is the exchange still pending when the ready counts
run out. -/
def connectExchange {S : Type} [AsyncStream S] (req : HttpConnectRequest) (rspHdrMaxSize : Nat)
    (ready : List Nat) (stream : S) (c : Counters) :
    Option (Except TcpConnectError (BufReader S)) × Counters :=
  match writeAll ready stream req.encode c with
  | (none, _, c) => (none, c)
  | (some (.error _), _, c) => (some (.error .negotiationWriteFailed), c)
  | (some (.ok ready), stream, c) =>
    match HttpConnectResponse.recv ready (BufReader.new stream) c rspHdrMaxSize with
    | (none, _, c) => (none, c)
    | (some (.error err), _, c) => (some (.error (.ofHttpConnectError err)), c)
    | (some (.ok _), bufStream, c) => (some (.ok bufStream), c)

/-- The `tokio::time::timeout` around a negotiation: one still pending at the deadline is
`NegotiationPeerTimeout`. What the negotiation left besides its result travels along. -/
def timedNegotiation {α β : Type} :
    Option (Except TcpConnectError α) × β → Except TcpConnectError α × β
  | (none, rest) => (.error .negotiationPeerTimeout, rest)
  | (some result, rest) => (result, rest)

@[simp]
theorem timedNegotiation_snd {α β : Type} (result : Option (Except TcpConnectError α) × β) :
    (timedNegotiation result).2 = result.2 := by
  rcases result with ⟨_ | _, _⟩ <;> rfl

@[simp]
theorem timedNegotiation_fst_ok {α β : Type} (result : Option (Except TcpConnectError α) × β)
    (a : α) : (timedNegotiation result).1 = .ok a ↔ result.1 = some (.ok a) := by
  rcases result with ⟨_ | _, _⟩ <;> simp [timedNegotiation]

theorem timedNegotiation_fst_error {α β : Type} (result : Option (Except TcpConnectError α) × β)
    (err : TcpConnectError) (failed : result.1 = some (.error err)) :
    (timedNegotiation result).1 = .error err := by
  rcases result with ⟨_ | _, _⟩ <;> simp_all [timedNegotiation]

section Exchange

variable {S : Type} [AsyncStream S] [LawfulStream S]

open LawfulStream

/-- The exchange moves only the counters of the stream's own stats object; when it
succeeds, the stream held the response head, then what the buffer holds, then what the
inner stream still holds, and the whole request went out. -/
theorem connectExchange_spec (req : HttpConnectRequest) (rspHdrMaxSize : Nat)
    (ready : List Nat) (stream : S) (c : Counters) :
    (∃ read written, (connectExchange req rspHdrMaxSize ready stream c).2 =
      StreamStats.addReadBytes? (stats stream) read
        (StreamStats.addWriteBytes? (stats stream) written c)) ∧
    ∀ bufStream, (connectExchange req rspHdrMaxSize ready stream c).1 = some (.ok bufStream) →
      ∃ header, pending stream = header ++ bufStream.buffer ++ pending bufStream.inner ∧
        sent bufStream.inner = sent stream ++ req.encode ∧
        stats bufStream.inner = stats stream ∧
        (connectExchange req rspHdrMaxSize ready stream c).2 =
          StreamStats.addReadBytes? (stats stream) (header.length + bufStream.buffer.length)
            (StreamStats.addWriteBytes? (stats stream) req.encode.length c) := by
  obtain ⟨pendingSent, statsSent, written, sentSent, countersSent, complete⟩ :=
    writeAll_sends ready stream req.encode c
  unfold connectExchange
  rcases sending : writeAll ready stream req.encode c with ⟨_ | _ | ready', stream', c'⟩
  all_goals simp only [sending] at pendingSent statsSent sentSent countersSent complete ⊢
  · exact ⟨⟨0, _, by rw [countersSent, StreamStats.addReadBytes?_zero]⟩, by simp⟩
  · exact ⟨⟨0, _, by rw [countersSent, StreamStats.addReadBytes?_zero]⟩, by simp⟩
  have sentAll := complete ready' rfl
  obtain ⟨consumed, pulled, pendingRecv, bufferRecv, sentRecv, statsRecv, countersRecv, -⟩ :=
    HttpConnectResponse.recv_consumes ready' (BufReader.new stream') c' rspHdrMaxSize
  rcases receiving : HttpConnectResponse.recv ready' (BufReader.new stream') c' rspHdrMaxSize
    with ⟨_ | _ | rsp, bufStream, c''⟩
  all_goals simp only [receiving] at pendingRecv bufferRecv sentRecv statsRecv countersRecv ⊢
  all_goals simp only [BufReader.new, List.nil_append, statsSent]
    at pendingRecv bufferRecv sentRecv statsRecv countersRecv
  all_goals refine ⟨⟨pulled.length, written.length, by rw [countersRecv, countersSent]⟩, ?_⟩
  · simp
  · simp
  rintro _ ⟨⟩
  refine ⟨consumed, ?_, by rw [sentRecv, sentSent, sentAll], statsRecv, ?_⟩
  · rw [← pendingSent, pendingRecv, ← bufferRecv]
  · have pulledLength := congrArg List.length bufferRecv
    simp only [List.length_append] at pulledLength
    rw [countersRecv, countersSent, sentAll, pulledLength]

end Exchange

/-- `TlsApplication`: which leg a handshake failure record is about. -/
inductive TlsApplication where
  | proxyLeg
  | originLeg
  | tcpStream
deriving DecidableEq, Repr

/-- The `Ssl` object `build_ssl(tls_name, port)` makes. -/
structure Ssl where
  tlsName : String
  port : Nat
deriving DecidableEq, Repr

/-- `SslConnector::new(ssl, stream)`: the handshake will run over `transport`. -/
structure SslConnector (S : Type) where
  ssl : Ssl
  transport : S
deriving DecidableEq, Repr

/-- An established TLS stream: its connector, and the plaintext channel to the origin. -/
structure SslStream (S : Type) where
  connector : SslConnector S
  plain : TcpStream
deriving DecidableEq, Repr

instance {S : Type} : AsyncStream (SslStream S) where
  pollRead s want avail c :=
    let (data, plain, c) := AsyncStream.pollRead s.plain want avail c
    (data, { s with plain := plain }, c)
  pollWrite s data accepted c :=
    let (n, plain, c) := AsyncStream.pollWrite s.plain data accepted c
    (n, { s with plain := plain }, c)

instance {S : Type} : LawfulStream (SslStream S) where
  pending s := s.plain.incoming
  sent s := s.plain.outgoing
  stats _ := none
  pollRead_pending _ _ _ _ := List.take_append_drop _ _
  pollRead_sent _ _ _ _ := rfl
  pollRead_stats _ _ _ _ := rfl
  pollRead_counters _ _ _ _ := rfl
  pollWrite_pending _ _ _ _ := rfl
  pollWrite_sent _ _ _ _ := rfl
  pollWrite_stats _ _ _ _ := rfl
  pollWrite_counters _ _ _ _ := rfl
  pollWrite_length _ _ _ _ := Nat.min_le_left _ _

/-- How the origin handshake ends. -/
inductive HandshakeOutcome where
  | established (plain : TcpStream)
  | failed (reason : String)
  | timedOut
deriving DecidableEq, Repr

/-- What the TLS layer does in one `http_connect_tls_connect_to`. -/
structure TlsEnv where
  buildSsl : Bool
  connectorNew : Bool
  handshake : HandshakeOutcome
deriving DecidableEq, Repr

/-- `EscapeLogForTlsHandshake` with the error it is logged with. -/
structure EscapeLogForTlsHandshake where
  taskId : Nat
  tlsName : String
  tlsPeer : UpstreamAddr
  tlsApplication : TlsApplication
  reason : String
deriving DecidableEq, Repr

/-- The TLS handshake of one leg: build the `Ssl` for the TLS name and the peer's port,
make the connector over the transport, and run the handshake under its timeout, logging one
record for the leg when it fails or times out. -/
def tlsHandshake {S : Type} (taskNotes : ServerTaskNotes) (tlsName : String)
    (tlsPeer : UpstreamAddr) (tlsApplication : TlsApplication) (tls : TlsEnv) (transport : S) :
    Except TcpConnectError (SslStream S) × List EscapeLogForTlsHandshake :=
  if !tls.buildSsl then (.error .internalTlsClientError, [])
  else
    let connector : SslConnector S := ⟨⟨tlsName, tlsPeer.port⟩, transport⟩
    if !tls.connectorNew then (.error .internalTlsClientError, [])
    else
      match tls.handshake with
      | .established plain => (.ok ⟨connector, plain⟩, [])
      | .failed reason =>
        (.error .upstreamTlsHandshakeFailed, [⟨taskNotes.id, tlsName, tlsPeer, tlsApplication, reason⟩])
      | .timedOut =>
        (.error .upstreamTlsHandshakeTimeout,
          [⟨taskNotes.id, tlsName, tlsPeer, tlsApplication, "upstream tls handshake timed out"⟩])

/-- The origin TLS part of both `http_connect_tls_connect_to` flows, run on what the
timed negotiation returned: the handshake for the upstream over `buf_stream.into_inner()`. -/
def tlsConnectAfter {S : Type} (tcpNotes : TcpConnectTaskNotes) (taskNotes : ServerTaskNotes)
    (tlsName : String) (tlsApplication : TlsApplication) (tls : TlsEnv) :
    Except TcpConnectError (BufReader S) × Counters →
      Except TcpConnectError (SslStream S) × List EscapeLogForTlsHandshake × Counters
  | (.error err, c) => (.error err, [], c)
  | (.ok bufStream, c) =>
    let handshake := tlsHandshake taskNotes tlsName tcpNotes.upstream tlsApplication tls
      bufStream.intoInner
    (handshake.1, handshake.2, c)

/-- The tail of both `http_connect_new_tls_connection` flows: split the TLS stream and
put both halves under one `TcpConnectionTaskRemoteStatsWrapper`. -/
def newTlsConnectionAfter {S : Type} :
    Except TcpConnectError (SslStream S) × List EscapeLogForTlsHandshake × Counters →
      Except TcpConnectError (Tunnel (SslStream S)) × List EscapeLogForTlsHandshake × Counters
  | (.error err, logs, c) => (.error err, logs, c)
  | (.ok tlsStream, logs, c) => (.ok ⟨tlsStream, some .taskWrapper, some .taskWrapper⟩, logs, c)

@[simp]
theorem newTlsConnectionAfter_logs {S : Type}
    (connected : Except TcpConnectError (SslStream S) × List EscapeLogForTlsHandshake × Counters) :
    (newTlsConnectionAfter connected).2.1 = connected.2.1 := by
  rcases connected with ⟨_ | _, _, _⟩ <;> rfl

@[simp]
theorem newTlsConnectionAfter_error {S : Type}
    (connected : Except TcpConnectError (SslStream S) × List EscapeLogForTlsHandshake × Counters)
    (err : TcpConnectError) :
    (newTlsConnectionAfter connected).1 = .error err ↔ connected.1 = .error err := by
  rcases connected with ⟨_ | _, _, _⟩ <;> simp [newTlsConnectionAfter]

/-- The failure records of one TLS leg, given whether the leg ran: at most one, and one
exactly when the leg ran, the `Ssl` and the connector were made and the handshake failed or
timed out. The record names the task, the TLS name, the peer and the leg and carries the
handshake's error or the timeout text, and `result` is the matching error. -/
structure FailureLogged {α : Type} (taskNotes : ServerTaskNotes) (tlsName : String)
    (tlsPeer : UpstreamAddr) (tlsApplication : TlsApplication) (tls : TlsEnv) (ran : Prop)
    (result : Except TcpConnectError α) (logs : List EscapeLogForTlsHandshake) : Prop where
  atMostOne : logs.length ≤ 1
  logged : logs ≠ [] ↔ ran ∧ tls.buildSsl ∧ tls.connectorNew ∧
    ∀ plain, tls.handshake ≠ .established plain
  record : ∀ log ∈ logs,
    log.taskId = taskNotes.id ∧ log.tlsName = tlsName ∧ log.tlsPeer = tlsPeer ∧
      log.tlsApplication = tlsApplication ∧
      ((∃ reason, tls.handshake = .failed reason ∧ log.reason = reason ∧
          result = .error .upstreamTlsHandshakeFailed) ∨
        (tls.handshake = .timedOut ∧ log.reason = "upstream tls handshake timed out" ∧
          result = .error .upstreamTlsHandshakeTimeout))

section TlsTail

variable {S : Type} (tcpNotes : TcpConnectTaskNotes) (taskNotes : ServerTaskNotes)
  (tlsName : String) (tlsPeer : UpstreamAddr) (tlsApplication : TlsApplication) (tls : TlsEnv)

theorem FailureLogged.of_error {α β : Type} {ran ran' : Prop} {result : Except TcpConnectError α}
    {result' : Except TcpConnectError β} {logs : List EscapeLogForTlsHandshake}
    (holds : FailureLogged taskNotes tlsName tlsPeer tlsApplication tls ran result logs)
    (same : ran' ↔ ran) (passed : ∀ err, result = .error err → result' = .error err) :
    FailureLogged taskNotes tlsName tlsPeer tlsApplication tls ran' result' logs := by
  obtain ⟨atMostOne, logged, record⟩ := holds
  refine ⟨atMostOne, by rw [same]; exact logged, fun log present => ?_⟩
  obtain ⟨task, name, peer, leg, failedOrTimedOut⟩ := record log present
  refine ⟨task, name, peer, leg, ?_⟩
  rcases failedOrTimedOut with ⟨reason, failed, text, returned⟩ | ⟨timedOut, text, returned⟩
  · exact .inl ⟨reason, failed, text, passed _ returned⟩
  · exact .inr ⟨timedOut, text, passed _ returned⟩

theorem FailureLogged.error_of_ne_nil {α : Type} {ran : Prop} {result : Except TcpConnectError α}
    {logs : List EscapeLogForTlsHandshake}
    (holds : FailureLogged taskNotes tlsName tlsPeer tlsApplication tls ran result logs)
    (logged : logs ≠ []) : ∃ err, result = .error err := by
  obtain ⟨log, present⟩ := List.exists_mem_of_ne_nil logs logged
  rcases (holds.record log present).2.2.2.2 with ⟨_, _, _, returned⟩ | ⟨_, _, returned⟩
  exacts [⟨_, returned⟩, ⟨_, returned⟩]

theorem tlsHandshake_logs (transport : S) :
    FailureLogged taskNotes tlsName tlsPeer tlsApplication tls True
      (tlsHandshake taskNotes tlsName tlsPeer tlsApplication tls transport).1
      (tlsHandshake taskNotes tlsName tlsPeer tlsApplication tls transport).2 := by
  unfold tlsHandshake
  split_ifs with noSsl noConnector
  · exact ⟨by simp, by simp_all, by simp⟩
  · exact ⟨by simp, by simp_all, by simp⟩
  · rcases handshake : tls.handshake with plain | reason | _ <;>
      exact ⟨by simp, by simp_all, by simp_all⟩

theorem tlsHandshake_transport (transport : S) {stream : SslStream S}
    (established : (tlsHandshake taskNotes tlsName tlsPeer tlsApplication tls transport).1 =
      .ok stream) :
    stream.connector.transport = transport := by
  unfold tlsHandshake at established
  split_ifs at established
  split at established
  · cases established
    rfl
  all_goals cases established

/-- What the TLS part does with a finished negotiation: it moves no counter, and an
established stream runs over the buffered reader's inner stream, without the buffer. -/
theorem tlsConnectAfter_spec (negotiated : Except TcpConnectError (BufReader S) × Counters) :
    (tlsConnectAfter tcpNotes taskNotes tlsName tlsApplication tls negotiated).2.2 = negotiated.2 ∧
      ∀ stream, (tlsConnectAfter tcpNotes taskNotes tlsName tlsApplication tls negotiated).1 =
          .ok stream →
        ∃ bufStream, negotiated.1 = .ok bufStream ∧ stream.connector.transport = bufStream.inner := by
  rcases negotiated with ⟨_ | bufStream, c⟩
  · exact ⟨rfl, by rintro _ ⟨⟩⟩
  · exact ⟨rfl, fun stream established =>
      ⟨bufStream, rfl, tlsHandshake_transport taskNotes tlsName _ tlsApplication tls _ established⟩⟩

theorem tlsConnectAfter_logs (negotiated : Except TcpConnectError (BufReader S) × Counters) :
    FailureLogged taskNotes tlsName tcpNotes.upstream tlsApplication tls
      (∃ bufStream, negotiated.1 = .ok bufStream)
      (tlsConnectAfter tcpNotes taskNotes tlsName tlsApplication tls negotiated).1
      (tlsConnectAfter tcpNotes taskNotes tlsName tlsApplication tls negotiated).2.1 := by
  rcases negotiated with ⟨_ | bufStream, c⟩
  · exact ⟨by simp [tlsConnectAfter], by simp [tlsConnectAfter], by simp [tlsConnectAfter]⟩
  · exact (tlsHandshake_logs taskNotes tlsName _ tlsApplication tls bufStream.intoInner).of_error
      taskNotes tlsName _ tlsApplication tls (by simp) fun _ failed => failed

end TlsTail

theorem SslStream.taskSilent {S : Type} : TaskSilent (SslStream S) :=
  TaskSilent.of_lawful fun _ => rfl

theorem newTlsConnectionAfter_accounting {S : Type}
    (connected : Except TcpConnectError (SslStream S) × List EscapeLogForTlsHandshake × Counters) :
    match newTlsConnectionAfter connected with
    | (.error _, _, c) => c = connected.2.2
    | (.ok tunnel, _, c) => ∀ ops, TunnelState.WrapperInv c 0 ((TunnelState.start tunnel c).run ops) := by
  rcases connected with ⟨_ | tlsStream, logs, c⟩
  · rfl
  · intro ops
    exact TunnelState.wrapperInv_run SslStream.taskSilent
      (TunnelState.wrapperInv_start tlsStream (by simp) (by simp) rfl rfl) ops

end G3Proxy.Escape
