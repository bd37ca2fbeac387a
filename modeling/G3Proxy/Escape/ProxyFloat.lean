import G3Proxy.Escape.ProxyHttp

/-!
# `ProxyFloatHttpsPeer`: CONNECT through a floating HTTPS peer

`tls_handshake_with` dials the peer and runs the proxy leg's TLS handshake, which logs its
own record when it fails; the CONNECT exchange runs over that session, which counts to no
task. `http_connect_new_tcp_connection` credits the `K` buffered bytes by hand and then
splits the `BufReader` itself under a `LimitedReader` over the task's wrapper, so the
buffered bytes are counted twice. `http_connect_tls_connect_to` hands
`buf_stream.into_inner()` to the origin handshake and drops them.
-/

namespace G3Proxy.Escape

open G3Proxy.Io G3Proxy.Http

/-- `ProxyFloatHttpsPeer`: the fields the CONNECT flows and the proxy leg read. -/
structure ProxyFloatHttpsPeer where
  addr : UpstreamAddr
  tlsName : String
  appendHttpHeaders : List String
  httpConnectRspHdrMaxSize : Nat
deriving DecidableEq, Repr

namespace ProxyFloatHttpsPeer

/-- Modelled from the spec (§4.C, §4.F flow 4): `tls_handshake_with` dials the peer and
runs the proxy leg's handshake over the socket with the peer's TLS name, through the same
TLS engine as the origin leg, with its own record tagged `ProxyLeg`. An established
session is the plaintext channel to the peer, which counts to no task or user. -/
def tlsHandshakeWith (p : ProxyFloatHttpsPeer) (taskNotes : ServerTaskNotes) (env : NegotiationEnv)
    (peerTls : TlsEnv) : Except TcpConnectError TcpStream × List EscapeLogForTlsHandshake :=
  match env.connect with
  | .error err => (.error err, [])
  | .ok socket =>
    let handshake := tlsHandshake taskNotes p.tlsName p.addr .proxyLeg peerTls socket
    (handshake.1.map SslStream.plain, handshake.2)

/-- The request of `http_connect_tcp_connect_to`. -/
def connectRequest (p : ProxyFloatHttpsPeer) (tcpNotes : TcpConnectTaskNotes) :
    HttpConnectRequest :=
  HttpConnectRequest.new tcpNotes.upstream p.appendHttpHeaders

/-- `http_connect_tcp_connect_to`: the peer session, then the CONNECT exchange over it. -/
def httpConnectTcpConnectTo (p : ProxyFloatHttpsPeer) (tcpNotes : TcpConnectTaskNotes)
    (taskNotes : ServerTaskNotes) (env : NegotiationEnv) (peerTls : TlsEnv) (c : Counters) :
    Option (Except TcpConnectError (BufReader TcpStream)) × List EscapeLogForTlsHandshake ×
      Counters :=
  match p.tlsHandshakeWith taskNotes env peerTls with
  | (.error err, logs) => (some (.error err), logs, c)
  | (.ok stream, logs) =>
    let exchange :=
      connectExchange (p.connectRequest tcpNotes) p.httpConnectRspHdrMaxSize env.ready stream c
    (exchange.1, logs, exchange.2)

def timedHttpConnectTcpConnectTo (p : ProxyFloatHttpsPeer) (tcpNotes : TcpConnectTaskNotes)
    (taskNotes : ServerTaskNotes) (env : NegotiationEnv) (peerTls : TlsEnv) (c : Counters) :
    Except TcpConnectError (BufReader TcpStream) × List EscapeLogForTlsHandshake × Counters :=
  timedNegotiation (p.httpConnectTcpConnectTo tcpNotes taskNotes env peerTls c)

/-- `http_connect_new_tcp_connection`: credit the buffered bytes to the task and the
users, then split the buffered stream under the task's wrapper. -/
def httpConnectNewTcpConnection (p : ProxyFloatHttpsPeer) (tcpNotes : TcpConnectTaskNotes)
    (taskNotes : ServerTaskNotes) (env : NegotiationEnv) (peerTls : TlsEnv) (c : Counters) :
    Except TcpConnectError (Tunnel (BufReader TcpStream)) × List EscapeLogForTlsHandshake ×
      Counters :=
  match p.timedHttpConnectTcpConnectTo tcpNotes taskNotes env peerTls c with
  | (.error err, logs, c) => (.error err, logs, c)
  | (.ok bufStream, logs, c) =>
    let rBufferSize := bufStream.buffer.length
    let c := c.addTaskRead rBufferSize
    let c := c.addUserIn rBufferSize
    (.ok ⟨bufStream, some .taskWrapper, some .taskWrapper⟩, logs, c)

def httpConnectTlsConnectTo (p : ProxyFloatHttpsPeer) (tcpNotes : TcpConnectTaskNotes)
    (taskNotes : ServerTaskNotes) (env : NegotiationEnv) (peerTls tls : TlsEnv)
    (tlsName : String) (tlsApplication : TlsApplication) (c : Counters) :
    Except TcpConnectError (SslStream TcpStream) × List EscapeLogForTlsHandshake × Counters :=
  let negotiated := p.timedHttpConnectTcpConnectTo tcpNotes taskNotes env peerTls c
  let connected := tlsConnectAfter tcpNotes taskNotes tlsName tlsApplication tls
    (negotiated.1, negotiated.2.2)
  (connected.1, negotiated.2.1 ++ connected.2.1, connected.2.2)

def httpConnectNewTlsConnection (p : ProxyFloatHttpsPeer) (tcpNotes : TcpConnectTaskNotes)
    (taskNotes : ServerTaskNotes) (env : NegotiationEnv) (peerTls tls : TlsEnv) (tlsName : String)
    (c : Counters) :
    Except TcpConnectError (Tunnel (SslStream TcpStream)) ×
      List EscapeLogForTlsHandshake × Counters :=
  newTlsConnectionAfter
    (p.httpConnectTlsConnectTo tcpNotes taskNotes env peerTls tls tlsName .tcpStream c)

/-! ## What the flows count -/

section Flows

variable (p : ProxyFloatHttpsPeer) (tcpNotes : TcpConnectTaskNotes) (taskNotes : ServerTaskNotes)
  (env : NegotiationEnv) (peerTls : TlsEnv) (c : Counters)

/-- The negotiation moves no counter and logs what the proxy leg logged; a failed proxy leg
fails it with the same error; when it succeeds, the session held the response head, then
what the buffer holds, then what it still holds. -/
theorem httpConnectTcpConnectTo_spec :
    (p.httpConnectTcpConnectTo tcpNotes taskNotes env peerTls c).2 =
        ((p.tlsHandshakeWith taskNotes env peerTls).2, c) ∧
      (∀ err, (p.tlsHandshakeWith taskNotes env peerTls).1 = .error err →
        (p.httpConnectTcpConnectTo tcpNotes taskNotes env peerTls c).1 = some (.error err)) ∧
      ∀ bufStream, (p.httpConnectTcpConnectTo tcpNotes taskNotes env peerTls c).1 =
          some (.ok bufStream) →
        ∃ session header, (p.tlsHandshakeWith taskNotes env peerTls).1 = .ok session ∧
          session.incoming = header ++ bufStream.buffer ++ bufStream.inner.incoming := by
  unfold httpConnectTcpConnectTo
  rcases handshake : p.tlsHandshakeWith taskNotes env peerTls with ⟨_ | session, logs⟩
  · exact ⟨rfl, fun _ failed => by cases failed; rfl, by simp⟩
  obtain ⟨⟨read, written, counters⟩, succeeded⟩ :=
    connectExchange_spec (p.connectRequest tcpNotes) p.httpConnectRspHdrMaxSize env.ready session c
  refine ⟨congrArg (Prod.mk logs) counters, by simp, fun bufStream done => ?_⟩
  obtain ⟨header, bytesIn, -⟩ := succeeded bufStream done
  exact ⟨session, header, rfl, bytesIn⟩

theorem timedHttpConnectTcpConnectTo_error_of_peer {err : TcpConnectError}
    (failed : (p.tlsHandshakeWith taskNotes env peerTls).1 = .error err) :
    (p.timedHttpConnectTcpConnectTo tcpNotes taskNotes env peerTls c).1 = .error err :=
  timedNegotiation_fst_error _ err
    ((p.httpConnectTcpConnectTo_spec tcpNotes taskNotes env peerTls c).2.1 err failed)

theorem tlsHandshakeWith_logs :
    FailureLogged taskNotes p.tlsName p.addr .proxyLeg peerTls (∃ socket, env.connect = .ok socket)
      (p.tlsHandshakeWith taskNotes env peerTls).1 (p.tlsHandshakeWith taskNotes env peerTls).2 := by
  unfold tlsHandshakeWith
  rcases env.connect with err | socket
  · exact ⟨by simp, by simp, by simp⟩
  · exact (tlsHandshake_logs taskNotes p.tlsName p.addr .proxyLeg peerTls socket).of_error
      taskNotes p.tlsName p.addr .proxyLeg peerTls (by simp) fun _ failed => by
        simp [failed, Except.map]

/-- `http_connect_new_tcp_connection` and every later run of the relay: a failed flow
moved no counter; after a successful one, at every point of every run, the task and each
user have counted the `K` bytes the buffer held at the hand-over on top of every byte
the caller got, and exactly the bytes the caller wrote. -/
theorem httpConnectNewTcpConnection_wrapperInv :
    match p.httpConnectNewTcpConnection tcpNotes taskNotes env peerTls c with
    | (.error _, _, c') => c' = c
    | (.ok tunnel, _, c') => ∀ ops,
      TunnelState.WrapperInv c tunnel.stream.buffer.length ((TunnelState.start tunnel c').run ops) := by
  have unmoved := congrArg Prod.snd (p.httpConnectTcpConnectTo_spec tcpNotes taskNotes env peerTls c).1
  unfold httpConnectNewTcpConnection timedHttpConnectTcpConnectTo timedNegotiation
  rcases negotiating : p.httpConnectTcpConnectTo tcpNotes taskNotes env peerTls c
    with ⟨_ | _ | bufStream, logs, c'⟩
  all_goals simp only [negotiating] at unmoved ⊢
  · exact unmoved
  · exact unmoved
  rw [unmoved]
  intro ops
  refine TunnelState.wrapperInv_run (TaskSilent.bufReader TcpStream.stats_eq) ?_ ops
  exact TunnelState.wrapperInv_start bufStream rfl rfl rfl rfl

/-- What the relay gets over a float peer is the session's bytes after the response head,
in order, each once, from the buffered reader the timed negotiation accepted. A failed
flow moves no counter. -/
theorem httpConnectNewTcpConnection_deliversInOrder :
    (∀ err logs c', p.httpConnectNewTcpConnection tcpNotes taskNotes env peerTls c =
        (.error err, logs, c') → c' = c) ∧
    ∀ bufStream logs c₁, p.timedHttpConnectTcpConnectTo tcpNotes taskNotes env peerTls c =
        (.ok bufStream, logs, c₁) →
      ∃ session header tunnel c', (p.tlsHandshakeWith taskNotes env peerTls).1 = .ok session ∧
        session.incoming = header ++ bufStream.buffer ++ bufStream.inner.incoming ∧
        p.httpConnectNewTcpConnection tcpNotes taskNotes env peerTls c = (.ok tunnel, logs, c') ∧
        tunnel.stream = bufStream ∧
        ∀ ops, session.incoming = header ++ ((TunnelState.start tunnel c').run ops).delivered ++
          ((TunnelState.start tunnel c').run ops).tunnel.stream.buffer ++
          ((TunnelState.start tunnel c').run ops).tunnel.stream.inner.incoming := by
  obtain ⟨unmoved, -, negotiationOk⟩ := p.httpConnectTcpConnectTo_spec tcpNotes taskNotes env peerTls c
  have timedSide : (p.timedHttpConnectTcpConnectTo tcpNotes taskNotes env peerTls c).2 =
      ((p.tlsHandshakeWith taskNotes env peerTls).2, c) := (timedNegotiation_snd _).trans unmoved
  refine ⟨fun err logs c' failed => ?_, fun bufStream logs c₁ accepted => ?_⟩
  · unfold httpConnectNewTcpConnection at failed
    rcases timed : p.timedHttpConnectTcpConnectTo tcpNotes taskNotes env peerTls c
      with ⟨_ | _, logs', c₁⟩ <;> rw [timed] at failed timedSide <;> cases failed
    exact congrArg Prod.snd timedSide
  obtain ⟨session, header, connected, bytesIn⟩ := negotiationOk bufStream
    ((timedNegotiation_fst_ok _ _).mp (congrArg Prod.fst accepted))
  refine ⟨session, header, _, _, connected, bytesIn,
    by rw [httpConnectNewTcpConnection, accepted], rfl, fun ops => ?_⟩
  obtain ⟨pulled, unread, delivered⟩ := TunnelState.run_consumes ops (TunnelState.start
    ⟨bufStream, some .taskWrapper, some .taskWrapper⟩
    ((c₁.addTaskRead bufStream.buffer.length).addUserIn bufStream.buffer.length))
  simp only [TunnelState.start, TcpStream.pending_eq, List.nil_append] at unread delivered ⊢
  rw [bytesIn, unread, List.append_assoc, List.append_assoc, ← List.append_assoc bufStream.buffer,
    ← delivered]
  simp only [List.append_assoc]

theorem httpConnectTlsConnectTo_counters (tls : TlsEnv) (tlsName : String)
    (tlsApplication : TlsApplication) :
    (p.httpConnectTlsConnectTo tcpNotes taskNotes env peerTls tls tlsName tlsApplication c).2.2 = c := by
  rw [httpConnectTlsConnectTo, (tlsConnectAfter_spec tcpNotes taskNotes tlsName tlsApplication tls _).1]
  exact congrArg (·.2) ((timedNegotiation_snd _).trans
    (p.httpConnectTcpConnectTo_spec tcpNotes taskNotes env peerTls c).1)

/-- The origin handshake of `http_connect_tls_connect_to` runs over the session as the
negotiation left it: after the response head and after the bytes the buffer held, which
are dropped with the buffer. No counter moves. -/
theorem httpConnectTlsConnectTo_sessionAfterBuffer (tls : TlsEnv) (tlsName : String)
    (tlsApplication : TlsApplication) :
    (p.httpConnectTlsConnectTo tcpNotes taskNotes env peerTls tls tlsName tlsApplication c).2.2 = c ∧
      ∀ stream, (p.httpConnectTlsConnectTo tcpNotes taskNotes env peerTls tls tlsName tlsApplication
          c).1 = .ok stream →
        ∃ session header bufStream, (p.tlsHandshakeWith taskNotes env peerTls).1 = .ok session ∧
          (p.timedHttpConnectTcpConnectTo tcpNotes taskNotes env peerTls c).1 = .ok bufStream ∧
          session.incoming = header ++ bufStream.buffer ++ stream.connector.transport.incoming := by
  refine ⟨p.httpConnectTlsConnectTo_counters tcpNotes taskNotes env peerTls c tls tlsName
    tlsApplication, fun stream done => ?_⟩
  obtain ⟨bufStream, negotiated, transport⟩ := (tlsConnectAfter_spec tcpNotes taskNotes tlsName
    tlsApplication tls _).2 stream done
  obtain ⟨session, header, connected, bytesIn⟩ :=
    (p.httpConnectTcpConnectTo_spec tcpNotes taskNotes env peerTls c).2.2
      bufStream ((timedNegotiation_fst_ok _ _).mp negotiated)
  exact ⟨session, header, bufStream, connected, negotiated, by rw [transport, bytesIn]⟩

theorem httpConnectTlsConnectTo_error_of_peer (tls : TlsEnv) (tlsName : String)
    (tlsApplication : TlsApplication) {err : TcpConnectError}
    (failed : (p.tlsHandshakeWith taskNotes env peerTls).1 = .error err) :
    (p.httpConnectTlsConnectTo tcpNotes taskNotes env peerTls tls tlsName tlsApplication c).1 =
      .error err := by
  simp only [httpConnectTlsConnectTo,
    p.timedHttpConnectTcpConnectTo_error_of_peer tcpNotes taskNotes env peerTls c failed]
  rfl

theorem httpConnectNewTlsConnection_logs (tls : TlsEnv) (tlsName : String) :
    (p.httpConnectNewTlsConnection tcpNotes taskNotes env peerTls tls tlsName c).2.1 =
      (p.tlsHandshakeWith taskNotes env peerTls).2 ++
        (tlsConnectAfter tcpNotes taskNotes tlsName .tcpStream tls
          ((p.timedHttpConnectTcpConnectTo tcpNotes taskNotes env peerTls c).1,
            (p.timedHttpConnectTcpConnectTo tcpNotes taskNotes env peerTls c).2.2)).2.1 := by
  rw [httpConnectNewTlsConnection, newTlsConnectionAfter_logs, httpConnectTlsConnectTo]
  exact congrArg (· ++ _) (congrArg (·.1) ((timedNegotiation_snd _).trans
    (p.httpConnectTcpConnectTo_spec tcpNotes taskNotes env peerTls c).1))

end Flows

/-- The peer answers `200` and sends one byte `X` after the blank line, which the buffer
holds at the hand-over; the relay's first read returns it. The task and the user have
then counted two bytes for the one the caller got. -/
theorem httpConnectNewTcpConnection_countsResidualTwice :
    ∃ tunnel c', (⟨⟨"peer", 443⟩, "peer", [], 4096⟩ : ProxyFloatHttpsPeer).httpConnectNewTcpConnection
        ⟨⟨"origin", 443⟩⟩ ⟨0, none⟩ ⟨.ok ⟨[], []⟩, [100, 100]⟩
        ⟨true, true, .established ⟨utf8Bytes "HTTP/1.1 200 OK\r\n\r\nX", []⟩⟩
        ⟨0, 0, 0, 0, [0], [0]⟩ = (.ok tunnel, [], c') ∧
      tunnel.stream.buffer = utf8Bytes "X" ∧
      ((TunnelState.start tunnel c').run [.read 10 10]).delivered = utf8Bytes "X" ∧
      ((TunnelState.start tunnel c').run [.read 10 10]).counters.taskRead = 2 ∧
      ((TunnelState.start tunnel c').run [.read 10 10]).counters.userIn = [2] :=
  ⟨_, _, rfl, rfl, rfl, rfl, rfl⟩

end ProxyFloatHttpsPeer

/-- The proxy answers `200` and sends one byte `X` after the blank line. In both
escapers the buffer holds it when `http_connect_tls_connect_to` calls `into_inner`, the
origin handshake is established over a transport with nothing left to read, and the task
read counter is still zero. -/
theorem httpConnectTlsConnectTo_dropsResidual :
    (∃ bufStream c' stream, (⟨⟨[], false, 4096⟩⟩ : ProxyHttpEscaper).timedHttpConnectTcpConnectTo id
        ⟨⟨"origin", 443⟩⟩ ⟨0, none⟩ ⟨.ok ⟨utf8Bytes "HTTP/1.1 200 OK\r\n\r\nX", []⟩, [100, 100]⟩
        ⟨0, 0, 0, 0, [0], [0]⟩ = (.ok bufStream, c') ∧ bufStream.buffer = utf8Bytes "X" ∧
      (⟨⟨[], false, 4096⟩⟩ : ProxyHttpEscaper).httpConnectTlsConnectTo id
        ⟨⟨"origin", 443⟩⟩ ⟨0, none⟩ ⟨.ok ⟨utf8Bytes "HTTP/1.1 200 OK\r\n\r\nX", []⟩, [100, 100]⟩
        ⟨true, true, .established ⟨[], []⟩⟩ "origin" .originLeg ⟨0, 0, 0, 0, [0], [0]⟩ =
          (.ok stream, [], c') ∧
      LawfulStream.pending stream.connector.transport = [] ∧ c'.taskRead = 0) ∧
    (∃ bufStream c' stream, (⟨⟨"peer", 443⟩, "peer", [], 4096⟩ : ProxyFloatHttpsPeer).timedHttpConnectTcpConnectTo
        ⟨⟨"origin", 443⟩⟩ ⟨0, none⟩ ⟨.ok ⟨[], []⟩, [100, 100]⟩
        ⟨true, true, .established ⟨utf8Bytes "HTTP/1.1 200 OK\r\n\r\nX", []⟩⟩
        ⟨0, 0, 0, 0, [0], [0]⟩ = (.ok bufStream, [], c') ∧ bufStream.buffer = utf8Bytes "X" ∧
      (⟨⟨"peer", 443⟩, "peer", [], 4096⟩ : ProxyFloatHttpsPeer).httpConnectTlsConnectTo
        ⟨⟨"origin", 443⟩⟩ ⟨0, none⟩ ⟨.ok ⟨[], []⟩, [100, 100]⟩
        ⟨true, true, .established ⟨utf8Bytes "HTTP/1.1 200 OK\r\n\r\nX", []⟩⟩
        ⟨true, true, .established ⟨[], []⟩⟩ "origin" .originLeg ⟨0, 0, 0, 0, [0], [0]⟩ =
          (.ok stream, [], c') ∧
      LawfulStream.pending stream.connector.transport = [] ∧ c'.taskRead = 0) :=
  ⟨⟨_, _, _, rfl, rfl, rfl, rfl, rfl⟩, ⟨_, _, _, rfl, rfl, rfl, rfl, rfl⟩⟩

/-- `http_connect_new_tls_connection` of both escapers and every later run of the relay:
a failed flow moved no task or user counter; after a successful one, at every point of
every run, the task and each user have counted exactly the plaintext the caller got and
wrote, from where they stood before the flow. -/
theorem httpConnectNewTlsConnection_countsPlaintext :
    (∀ (proxyAuthorizationBasicPass : String → String) (e : ProxyHttpEscaper) tcpNotes taskNotes
        env tls tlsName c,
      match e.httpConnectNewTlsConnection proxyAuthorizationBasicPass tcpNotes taskNotes env tls
          tlsName c with
      | (.error _, _, c') => Counters.TaskSide c c'
      | (.ok tunnel, _, c') =>
        ∀ ops, TunnelState.WrapperInv c 0 ((TunnelState.start tunnel c').run ops)) ∧
    (∀ (p : ProxyFloatHttpsPeer) tcpNotes taskNotes env peerTls tls tlsName c,
      match p.httpConnectNewTlsConnection tcpNotes taskNotes env peerTls tls tlsName c with
      | (.error _, _, c') => c' = c
      | (.ok tunnel, _, c') =>
        ∀ ops, TunnelState.WrapperInv c 0 ((TunnelState.start tunnel c').run ops)) := by
  constructor
  · intro proxyAuthorizationBasicPass e tcpNotes taskNotes env tls tlsName c
    have side := ProxyHttpEscaper.httpConnectTlsConnectTo_counters
      proxyAuthorizationBasicPass e tcpNotes taskNotes env tls tlsName .tcpStream c
    have counted := newTlsConnectionAfter_accounting (e.httpConnectTlsConnectTo
      proxyAuthorizationBasicPass tcpNotes taskNotes env tls tlsName .tcpStream c)
    unfold ProxyHttpEscaper.httpConnectNewTlsConnection
    rcases connecting : e.httpConnectTlsConnectTo proxyAuthorizationBasicPass tcpNotes taskNotes
      env tls tlsName .tcpStream c with ⟨_ | tlsStream, logs, c'⟩
    all_goals rw [connecting] at side counted
    · exact side
    · exact fun ops => (counted ops).of_taskSide side
  · intro p tcpNotes taskNotes env peerTls tls tlsName c
    have unmoved := p.httpConnectTlsConnectTo_counters tcpNotes taskNotes env peerTls c tls tlsName
      .tcpStream
    have counted := newTlsConnectionAfter_accounting
      (p.httpConnectTlsConnectTo tcpNotes taskNotes env peerTls tls tlsName .tcpStream c)
    unfold ProxyFloatHttpsPeer.httpConnectNewTlsConnection
    rcases connecting : p.httpConnectTlsConnectTo tcpNotes taskNotes env peerTls tls tlsName
      .tcpStream c with ⟨_ | tlsStream, logs, c'⟩
    all_goals rw [connecting] at unmoved counted
    · exact unmoved
    · dsimp only at unmoved
      subst unmoved
      exact counted

/-- The failure records of `http_connect_new_tls_connection`: through `ProxyHttpEscaper`,
those of the origin leg; through a float peer, those of the proxy leg and then of the
origin leg, at most one in all. -/
theorem httpConnectNewTlsConnection_logsOncePerFailure :
    (∀ (proxyAuthorizationBasicPass : String → String) (e : ProxyHttpEscaper) tcpNotes taskNotes
        env tls tlsName c,
      FailureLogged taskNotes tlsName tcpNotes.upstream .tcpStream tls
        (∃ bufStream, (e.timedHttpConnectTcpConnectTo proxyAuthorizationBasicPass tcpNotes
          taskNotes env c).1 = .ok bufStream)
        (e.httpConnectNewTlsConnection proxyAuthorizationBasicPass tcpNotes taskNotes env tls
          tlsName c).1
        (e.httpConnectNewTlsConnection proxyAuthorizationBasicPass tcpNotes taskNotes env tls
          tlsName c).2.1) ∧
    (∀ (p : ProxyFloatHttpsPeer) tcpNotes taskNotes env peerTls tls tlsName c,
      (p.httpConnectNewTlsConnection tcpNotes taskNotes env peerTls tls tlsName c).2.1.length ≤ 1 ∧
      ∃ proxyLogs originLogs,
        (p.httpConnectNewTlsConnection tcpNotes taskNotes env peerTls tls tlsName c).2.1 =
          proxyLogs ++ originLogs ∧
        FailureLogged taskNotes p.tlsName p.addr .proxyLeg peerTls
          (∃ socket, env.connect = .ok socket)
          (p.httpConnectNewTlsConnection tcpNotes taskNotes env peerTls tls tlsName c).1 proxyLogs ∧
        FailureLogged taskNotes tlsName tcpNotes.upstream .tcpStream tls
          (∃ bufStream, (p.timedHttpConnectTcpConnectTo tcpNotes taskNotes env peerTls c).1 =
            .ok bufStream)
          (p.httpConnectNewTlsConnection tcpNotes taskNotes env peerTls tls tlsName c).1
          originLogs) := by
  refine ⟨fun _ e tcpNotes taskNotes _ tls tlsName _ => ?_,
    fun p tcpNotes taskNotes env peerTls tls tlsName c => ?_⟩
  · rw [ProxyHttpEscaper.httpConnectNewTlsConnection, newTlsConnectionAfter_logs]
    exact (tlsConnectAfter_logs tcpNotes taskNotes tlsName .tcpStream tls _).of_error taskNotes
      tlsName _ .tcpStream tls Iff.rfl fun _ failed => (newTlsConnectionAfter_error _ _).mpr failed
  have origin : FailureLogged taskNotes tlsName tcpNotes.upstream .tcpStream tls
      (∃ bufStream, (p.timedHttpConnectTcpConnectTo tcpNotes taskNotes env peerTls c).1 =
        .ok bufStream)
      (p.httpConnectNewTlsConnection tcpNotes taskNotes env peerTls tls tlsName c).1
      (tlsConnectAfter tcpNotes taskNotes tlsName .tcpStream tls
        ((p.timedHttpConnectTcpConnectTo tcpNotes taskNotes env peerTls c).1,
          (p.timedHttpConnectTcpConnectTo tcpNotes taskNotes env peerTls c).2.2)).2.1 :=
    (tlsConnectAfter_logs tcpNotes taskNotes tlsName .tcpStream tls _).of_error taskNotes tlsName
      _ .tcpStream tls Iff.rfl fun _ failed => (newTlsConnectionAfter_error _ _).mpr failed
  have proxy : FailureLogged taskNotes p.tlsName p.addr .proxyLeg peerTls
      (∃ socket, env.connect = .ok socket)
      (p.httpConnectNewTlsConnection tcpNotes taskNotes env peerTls tls tlsName c).1
      (p.tlsHandshakeWith taskNotes env peerTls).2 :=
    (p.tlsHandshakeWith_logs taskNotes env peerTls).of_error taskNotes p.tlsName p.addr .proxyLeg
      peerTls Iff.rfl fun _ failed => (newTlsConnectionAfter_error _ _).mpr
        (p.httpConnectTlsConnectTo_error_of_peer tcpNotes taskNotes env peerTls c tls tlsName
          .tcpStream failed)
  rw [p.httpConnectNewTlsConnection_logs tcpNotes taskNotes env peerTls c tls tlsName]
  refine ⟨?_, _, _, rfl, proxy, origin⟩
  rcases proxyLogged : (p.tlsHandshakeWith taskNotes env peerTls).2 with _ | ⟨record, more⟩
  · simpa using origin.atMostOne
  obtain ⟨err, failed⟩ := (p.tlsHandshakeWith_logs taskNotes env peerTls).error_of_ne_nil
    taskNotes p.tlsName p.addr .proxyLeg peerTls (by rw [proxyLogged]; exact List.cons_ne_nil _ _)
  have quiet : (tlsConnectAfter tcpNotes taskNotes tlsName .tcpStream tls
      ((p.timedHttpConnectTcpConnectTo tcpNotes taskNotes env peerTls c).1,
        (p.timedHttpConnectTcpConnectTo tcpNotes taskNotes env peerTls c).2.2)).2.1 = [] := by
    rw [p.timedHttpConnectTcpConnectTo_error_of_peer tcpNotes taskNotes env peerTls c failed]
    rfl
  simpa [quiet, proxyLogged] using proxy.atMostOne

end G3Proxy.Escape
