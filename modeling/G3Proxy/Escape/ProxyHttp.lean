import G3Proxy.Escape.Common

/-!
# `ProxyHttpEscaper`: CONNECT through a plain HTTP proxy

The CONNECT exchange runs over a `LimitedStream<TcpStream>` that counts to the escaper
only. `http_connect_new_tcp_connection` then credits the `K` bytes the `BufReader` holds
to the task and each user, and `reset_stats` makes the `LimitedStream` count every later
socket byte to all of them, so each byte is counted once.

`proxy_authorization_basic_pass` is not among the sources; its line is a parameter of
every flow here.
-/

namespace G3Proxy.Escape

open G3Proxy.Io G3Proxy.Http

/-- `ProxyHttpEscaperConfig`: the fields the CONNECT flows read. -/
structure ProxyHttpEscaperConfig where
  appendHttpHeaders : List String
  passProxyUserid : Bool
  httpConnectRspHdrMaxSize : Nat
deriving DecidableEq, Repr

structure ProxyHttpEscaper where
  config : ProxyHttpEscaperConfig
deriving DecidableEq, Repr

namespace ProxyHttpEscaper

variable (proxyAuthorizationBasicPass : String → String)

/-- Modelled from the spec (§4.B): `tcp_new_connection` dials the proxy and wraps the
socket in a `LimitedStream` over the escaper's stats. -/
def tcpNewConnection (connect : Except TcpConnectError TcpStream) :
    Except TcpConnectError (LimitedStream TcpStream) :=
  connect.map (⟨·, .escaper⟩)

/-- The request of `http_connect_tcp_connect_to`, with the `Proxy-Authorization` line
when `pass_proxy_userid` is set and the task has a user name. -/
def connectRequest (e : ProxyHttpEscaper) (tcpNotes : TcpConnectTaskNotes)
    (taskNotes : ServerTaskNotes) : HttpConnectRequest :=
  let req := HttpConnectRequest.new tcpNotes.upstream e.config.appendHttpHeaders
  if e.config.passProxyUserid then
    match taskNotes.rawUserName with
    | some name => req.appendDynHeader (proxyAuthorizationBasicPass name)
    | none => req
  else req

/-- `http_connect_tcp_connect_to`: dial, then run the CONNECT exchange over the
`LimitedStream`. -/
def httpConnectTcpConnectTo (e : ProxyHttpEscaper) (tcpNotes : TcpConnectTaskNotes)
    (taskNotes : ServerTaskNotes) (env : NegotiationEnv) (c : Counters) :
    Option (Except TcpConnectError (BufReader (LimitedStream TcpStream))) × Counters :=
  match tcpNewConnection env.connect with
  | .error err => (some (.error err), c)
  | .ok stream =>
    connectExchange (e.connectRequest proxyAuthorizationBasicPass tcpNotes taskNotes)
      e.config.httpConnectRspHdrMaxSize env.ready stream c

def timedHttpConnectTcpConnectTo (e : ProxyHttpEscaper) (tcpNotes : TcpConnectTaskNotes)
    (taskNotes : ServerTaskNotes) (env : NegotiationEnv) (c : Counters) :
    Except TcpConnectError (BufReader (LimitedStream TcpStream)) × Counters :=
  timedNegotiation (e.httpConnectTcpConnectTo proxyAuthorizationBasicPass tcpNotes taskNotes env c)

/-- `http_connect_new_tcp_connection`: credit the buffered bytes to the task and the
users, hand the socket's stats over to the wrapper, and split the buffered stream. -/
def httpConnectNewTcpConnection (e : ProxyHttpEscaper) (tcpNotes : TcpConnectTaskNotes)
    (taskNotes : ServerTaskNotes) (env : NegotiationEnv) (c : Counters) :
    Except TcpConnectError (Tunnel (BufReader (LimitedStream TcpStream))) × Counters :=
  match e.timedHttpConnectTcpConnectTo proxyAuthorizationBasicPass tcpNotes taskNotes env c with
  | (.error err, c) => (.error err, c)
  | (.ok bufStream, c) =>
    let rBufferSize := bufStream.buffer.length
    let c := c.addTaskRead rBufferSize
    let c := c.addUserIn rBufferSize
    let bufStream := { bufStream with inner := bufStream.inner.resetStats .remoteWrapper }
    (.ok ⟨bufStream, none, none⟩, c)

/-- `http_connect_tls_connect_to`: the timed negotiation, then the origin handshake over
`buf_stream.into_inner()`. -/
def httpConnectTlsConnectTo (e : ProxyHttpEscaper) (tcpNotes : TcpConnectTaskNotes)
    (taskNotes : ServerTaskNotes) (env : NegotiationEnv) (tls : TlsEnv) (tlsName : String)
    (tlsApplication : TlsApplication) (c : Counters) :
    Except TcpConnectError (SslStream (LimitedStream TcpStream)) ×
      List EscapeLogForTlsHandshake × Counters :=
  tlsConnectAfter tcpNotes taskNotes tlsName tlsApplication tls
    (e.timedHttpConnectTcpConnectTo proxyAuthorizationBasicPass tcpNotes taskNotes env c)

def httpConnectNewTlsConnection (e : ProxyHttpEscaper) (tcpNotes : TcpConnectTaskNotes)
    (taskNotes : ServerTaskNotes) (env : NegotiationEnv) (tls : TlsEnv) (tlsName : String)
    (c : Counters) :
    Except TcpConnectError (Tunnel (SslStream (LimitedStream TcpStream))) ×
      List EscapeLogForTlsHandshake × Counters :=
  newTlsConnectionAfter
    (e.httpConnectTlsConnectTo proxyAuthorizationBasicPass tcpNotes taskNotes env tls tlsName
      .tcpStream c)

/-! ## The negotiation touches the escaper's counters only -/

/-- What a finished negotiation leaves: the socket held the response head, then what
the buffer holds, then what it still holds; the request went out after what the socket
had sent; the escaper counted exactly those bytes; and the socket still counts to the
escaper only. -/
def Negotiated (request : List UInt8) (socket : TcpStream) (header : List UInt8) (c : Counters)
    (bufStream : BufReader (LimitedStream TcpStream)) (c' : Counters) : Prop :=
  socket.incoming = header ++ bufStream.buffer ++ bufStream.inner.inner.incoming ∧
    bufStream.inner.inner.outgoing = socket.outgoing ++ request ∧
    bufStream.inner.stats = .escaper ∧
    c' = (c.addEscaperOut request.length).addEscaperIn (header.length + bufStream.buffer.length)

/-- `http_connect_tcp_connect_to` never moves a task or user counter, and when it
succeeds it leaves a `Negotiated` stream. -/
theorem httpConnectTcpConnectTo_spec (e : ProxyHttpEscaper) (tcpNotes : TcpConnectTaskNotes)
    (taskNotes : ServerTaskNotes) (env : NegotiationEnv) (c : Counters) :
    Counters.TaskSide c
        (e.httpConnectTcpConnectTo proxyAuthorizationBasicPass tcpNotes taskNotes env c).2 ∧
      ∀ bufStream, (e.httpConnectTcpConnectTo proxyAuthorizationBasicPass tcpNotes taskNotes env
          c).1 = some (.ok bufStream) →
        ∃ socket header, env.connect = .ok socket ∧
          Negotiated (e.connectRequest proxyAuthorizationBasicPass tcpNotes taskNotes).encode
            socket header c bufStream
            (e.httpConnectTcpConnectTo proxyAuthorizationBasicPass tcpNotes taskNotes env c).2 := by
  unfold httpConnectTcpConnectTo tcpNewConnection
  rcases connected : env.connect with err | socket
  · exact ⟨Counters.TaskSide.refl c, by simp [Except.map]⟩
  obtain ⟨⟨read, written, counters⟩, succeeded⟩ :=
    connectExchange_spec (e.connectRequest proxyAuthorizationBasicPass tcpNotes taskNotes)
      e.config.httpConnectRspHdrMaxSize env.ready (⟨socket, .escaper⟩ : LimitedStream TcpStream) c
  simp only [LimitedStream.stats_eq] at counters succeeded
  refine ⟨by rw [Except.map, counters]; exact Counters.taskSide_escaper c read written,
    fun bufStream done => ?_⟩
  obtain ⟨header, bytesIn, bytesOut, stats, countersEq⟩ := succeeded bufStream done
  simp only [LimitedStream.pending_eq, LimitedStream.sent_eq, LimitedStream.stats_eq,
    Option.some.injEq] at bytesIn bytesOut stats
  exact ⟨socket, header, rfl, bytesIn, bytesOut, stats, countersEq⟩

/-! ## Accounting over the relay's whole run -/

/-- The accounting invariant of a `ProxyHttpEscaper` tunnel, against the counters `c`
before the flow, the socket as dialed, the response head and the request: the socket's
bytes are all accounted for, each counted once by each counter that should see it. -/
structure TunnelInv (c : Counters) (socket : TcpStream) (header request : List UInt8)
    (st : TunnelState (BufReader (LimitedStream TcpStream))) : Prop where
  readStats : st.tunnel.readStats = none
  writeStats : st.tunnel.writeStats = none
  handedOver : st.tunnel.stream.inner.stats = .remoteWrapper
  bytesIn : socket.incoming =
    header ++ st.delivered ++ st.tunnel.stream.buffer ++ st.tunnel.stream.inner.inner.incoming
  bytesOut : st.tunnel.stream.inner.inner.outgoing = socket.outgoing ++ request ++ st.written
  taskRead :
    st.counters.taskRead = c.taskRead + (st.delivered.length + st.tunnel.stream.buffer.length)
  userIn : st.counters.userIn =
    c.userIn.map (· + (st.delivered.length + st.tunnel.stream.buffer.length))
  escaperIn : st.counters.escaperIn =
    c.escaperIn + (header.length + (st.delivered.length + st.tunnel.stream.buffer.length))
  taskWrite : st.counters.taskWrite = c.taskWrite + st.written.length
  userOut : st.counters.userOut = c.userOut.map (· + st.written.length)
  escaperOut : st.counters.escaperOut = c.escaperOut + (request.length + st.written.length)

section TunnelInv

variable {c : Counters} {socket : TcpStream} {header request : List UInt8}

open LawfulStream

theorem tunnelInv_read {st : TunnelState (BufReader (LimitedStream TcpStream))}
    (holds : TunnelInv c socket header request st) (want avail : Nat) :
    TunnelInv c socket header request (st.step (.read want avail)) := by
  have consumes := BufReader.pollRead_consumes st.tunnel.stream want avail st.counters
  rcases reading : st.tunnel.stream.pollRead want avail st.counters with ⟨out, stream, counters⟩
  rw [reading] at consumes
  obtain ⟨pulled, pending, buffer, sent, stats, countersEq, -⟩ := consumes
  simp only [LimitedStream.pending_eq, LimitedStream.sent_eq, LimitedStream.stats_eq,
    holds.handedOver, Option.some.injEq, StreamStats.addReadBytes?] at pending sent stats countersEq
  dsimp only at buffer
  have taken : (st.delivered ++ out).length + stream.buffer.length =
      st.delivered.length + st.tunnel.stream.buffer.length + pulled.length := by
    have lengths := congrArg List.length buffer
    simp only [List.length_append] at lengths ⊢
    omega
  have readWrite := StreamStats.addReadBytes_write .remoteWrapper pulled.length st.counters
  rw [← countersEq] at readWrite
  have bytesIn : socket.incoming = header ++ (st.delivered ++ out) ++ stream.buffer ++
      stream.inner.inner.incoming := by
    rw [holds.bytesIn, pending]
    simp only [List.append_assoc]
    rw [← List.append_assoc st.tunnel.stream.buffer, ← buffer]
    simp only [List.append_assoc]
  have taskRead : counters.taskRead =
      c.taskRead + ((st.delivered ++ out).length + stream.buffer.length) := by
    have before := holds.taskRead
    rw [countersEq, taken]
    simp only [StreamStats.addReadBytes, Counters.addUserIn, Counters.addTaskRead,
      Counters.addEscaperIn]
    omega
  have userIn : counters.userIn =
      c.userIn.map (· + ((st.delivered ++ out).length + stream.buffer.length)) := by
    rw [countersEq, taken]
    simp only [StreamStats.addReadBytes, Counters.addUserIn, Counters.addTaskRead,
      Counters.addEscaperIn, holds.userIn, map_add_map_add]
  have escaperIn : counters.escaperIn =
      c.escaperIn + (header.length + ((st.delivered ++ out).length + stream.buffer.length)) := by
    have before := holds.escaperIn
    rw [countersEq, taken]
    simp only [StreamStats.addReadBytes, Counters.addUserIn, Counters.addTaskRead,
      Counters.addEscaperIn]
    omega
  simp only [TunnelState.step, BufReader.asyncPollRead_eq, reading, holds.readStats,
    StreamStats.addReadBytes?]
  exact ⟨rfl, holds.writeStats, stats, bytesIn, by rw [sent, holds.bytesOut], taskRead,
    userIn, escaperIn, by rw [readWrite.2.1, holds.taskWrite], by rw [readWrite.2.2, holds.userOut],
    by rw [readWrite.1, holds.escaperOut]⟩

theorem tunnelInv_write {st : TunnelState (BufReader (LimitedStream TcpStream))}
    (holds : TunnelInv c socket header request st) (data : List UInt8) (accepted : Nat) :
    TunnelInv c socket header request (st.step (.write data accepted)) := by
  rcases writing : AsyncStream.pollWrite st.tunnel.stream.inner data accepted st.counters
    with ⟨n, inner, counters⟩
  obtain ⟨pending, sent, stats, countersEq, fits⟩ := pollWrite_of_eq writing
  simp only [LimitedStream.pending_eq, LimitedStream.sent_eq, LimitedStream.stats_eq,
    holds.handedOver, Option.some.injEq, StreamStats.addWriteBytes?] at pending sent stats countersEq
  have writeRead := StreamStats.addWriteBytes_read .remoteWrapper n st.counters
  rw [← countersEq] at writeRead
  have writtenLength : (st.written ++ data.take n).length = st.written.length + n := by
    rw [List.length_append, List.length_take_of_le fits]
  simp only [TunnelState.step, BufReader.asyncPollWrite_eq, BufReader.pollWrite_eq, writing,
    holds.writeStats, StreamStats.addWriteBytes?]
  refine ⟨holds.readStats, rfl, stats, by rw [pending, holds.bytesIn],
    by rw [sent, holds.bytesOut, List.append_assoc], by rw [writeRead.2.1, holds.taskRead],
    by rw [writeRead.2.2, holds.userIn], by rw [writeRead.1, holds.escaperIn], ?_, ?_, ?_⟩
  · rw [writtenLength, countersEq]
    simp only [StreamStats.addWriteBytes, Counters.addUserOut, Counters.addTaskWrite,
      Counters.addEscaperOut, holds.taskWrite]
    omega
  · rw [writtenLength, countersEq]
    simp only [StreamStats.addWriteBytes, Counters.addUserOut, Counters.addTaskWrite,
      Counters.addEscaperOut, holds.userOut, map_add_map_add]
  · rw [writtenLength, countersEq]
    simp only [StreamStats.addWriteBytes, Counters.addUserOut, Counters.addTaskWrite,
      Counters.addEscaperOut, holds.escaperOut]
    omega

theorem tunnelInv_start {c c' : Counters} {bufStream : BufReader (LimitedStream TcpStream)}
    (negotiated : Negotiated request socket header c bufStream c') :
    TunnelInv c socket header request
      (TunnelState.start
        ⟨{ bufStream with inner := bufStream.inner.resetStats .remoteWrapper }, none, none⟩
        ((c'.addTaskRead bufStream.buffer.length).addUserIn bufStream.buffer.length)) := by
  obtain ⟨bytesIn, bytesOut, -, counters⟩ := negotiated
  subst counters
  refine ⟨rfl, rfl, rfl, by simpa [TunnelState.start] using bytesIn,
    by simpa [TunnelState.start] using bytesOut, ?_, ?_, ?_, ?_, ?_, ?_⟩ <;>
    simp [TunnelState.start, LimitedStream.resetStats, Nat.add_assoc]

theorem tunnelInv_step {st : TunnelState (BufReader (LimitedStream TcpStream))}
    (holds : TunnelInv c socket header request st) :
    ∀ op, TunnelInv c socket header request (st.step op)
  | .read want avail => tunnelInv_read holds want avail
  | .write data accepted => tunnelInv_write holds data accepted

theorem tunnelInv_run {st : TunnelState (BufReader (LimitedStream TcpStream))}
    (holds : TunnelInv c socket header request st) (ops : List TunnelOp) :
    TunnelInv c socket header request (st.run ops) :=
  @TunnelState.run_invariant _ _ (TunnelInv c socket header request)
    (fun _ op holds => tunnelInv_step holds op) ops st holds

end TunnelInv

/-- A failed flow moves no task or user counter. An accepted negotiation's buffered reader
is handed over with its `K` bytes credited once, and over every later run the invariant
holds and the task has read `K` plus the bytes taken from the socket since. -/
theorem httpConnectNewTcpConnection_accounting (e : ProxyHttpEscaper)
    (tcpNotes : TcpConnectTaskNotes) (taskNotes : ServerTaskNotes) (env : NegotiationEnv)
    (c : Counters) :
    (∀ err c', e.httpConnectNewTcpConnection proxyAuthorizationBasicPass tcpNotes taskNotes env c =
        (.error err, c') → Counters.TaskSide c c') ∧
    ∀ bufStream c₁, e.timedHttpConnectTcpConnectTo proxyAuthorizationBasicPass tcpNotes taskNotes
        env c = (.ok bufStream, c₁) →
      ∃ socket header tunnel c', env.connect = .ok socket ∧
        socket.incoming = header ++ bufStream.buffer ++ bufStream.inner.inner.incoming ∧
        e.httpConnectNewTcpConnection proxyAuthorizationBasicPass tcpNotes taskNotes env c =
          (.ok tunnel, c') ∧
        tunnel.stream.buffer = bufStream.buffer ∧
        c'.taskRead = c.taskRead + bufStream.buffer.length ∧
        c'.userIn = c.userIn.map (· + bufStream.buffer.length) ∧
        ∀ ops, TunnelInv c socket header
            (e.connectRequest proxyAuthorizationBasicPass tcpNotes taskNotes).encode
            ((TunnelState.start tunnel c').run ops) ∧
          ((TunnelState.start tunnel c').run ops).counters.taskRead =
            c.taskRead + bufStream.buffer.length + (bufStream.inner.inner.incoming.length -
              ((TunnelState.start tunnel c').run ops).tunnel.stream.inner.inner.incoming.length) := by
  obtain ⟨negotiationSide, negotiationOk⟩ :=
    httpConnectTcpConnectTo_spec proxyAuthorizationBasicPass e tcpNotes taskNotes env c
  have timedSide : (e.timedHttpConnectTcpConnectTo proxyAuthorizationBasicPass tcpNotes taskNotes
      env c).2 = (e.httpConnectTcpConnectTo proxyAuthorizationBasicPass tcpNotes taskNotes env c).2 :=
    timedNegotiation_snd _
  refine ⟨fun err c' failed => ?_, fun bufStream c₁ accepted => ?_⟩
  · unfold httpConnectNewTcpConnection at failed
    rcases timed : e.timedHttpConnectTcpConnectTo proxyAuthorizationBasicPass tcpNotes taskNotes
      env c with ⟨_ | _, c₁⟩ <;> rw [timed] at failed timedSide <;> cases failed
    rw [show c' = _ from timedSide]
    exact negotiationSide
  rw [accepted] at timedSide
  obtain ⟨socket, header, connected, negotiated⟩ := negotiationOk bufStream
    ((timedNegotiation_fst_ok _ _).mp (congrArg Prod.fst accepted))
  rw [← timedSide] at negotiated
  have start := tunnelInv_start negotiated
  refine ⟨socket, header, _, _, connected, negotiated.1,
    by rw [httpConnectNewTcpConnection, accepted], rfl, ?_, ?_, fun ops => ?_⟩
  · simpa [TunnelState.start] using start.taskRead
  · simpa [TunnelState.start] using start.userIn
  have holds := tunnelInv_run start ops
  obtain ⟨pulled, unread, delivered⟩ := TunnelState.run_consumes ops (TunnelState.start
    ⟨{ bufStream with inner := bufStream.inner.resetStats .remoteWrapper }, none, none⟩
    ((c₁.addTaskRead bufStream.buffer.length).addUserIn bufStream.buffer.length) :
      TunnelState (BufReader (LimitedStream TcpStream)))
  refine ⟨holds, ?_⟩
  have unreadLength := congrArg List.length unread
  have deliveredLength := congrArg List.length delivered
  rw [holds.taskRead]
  simp only [TunnelState.start, LimitedStream.resetStats, LimitedStream.pending_eq,
    List.length_append, List.length_nil] at unreadLength deliveredLength ⊢
  omega

theorem httpConnectTlsConnectTo_counters (e : ProxyHttpEscaper) (tcpNotes : TcpConnectTaskNotes)
    (taskNotes : ServerTaskNotes) (env : NegotiationEnv) (tls : TlsEnv) (tlsName : String)
    (tlsApplication : TlsApplication) (c : Counters) :
    Counters.TaskSide c (e.httpConnectTlsConnectTo proxyAuthorizationBasicPass tcpNotes taskNotes
        env tls tlsName tlsApplication c).2.2 := by
  rw [httpConnectTlsConnectTo, (tlsConnectAfter_spec tcpNotes taskNotes tlsName tlsApplication tls _).1,
    timedHttpConnectTcpConnectTo, timedNegotiation_snd]
  exact (httpConnectTcpConnectTo_spec proxyAuthorizationBasicPass e tcpNotes taskNotes env c).1

/-- The origin handshake of `http_connect_tls_connect_to` runs over the socket as the
negotiation left it: after the response head and after the bytes the buffer held, which
are dropped with the buffer. No task or user counter moves. -/
theorem httpConnectTlsConnectTo_socketAfterBuffer (e : ProxyHttpEscaper)
    (tcpNotes : TcpConnectTaskNotes) (taskNotes : ServerTaskNotes) (env : NegotiationEnv)
    (tls : TlsEnv) (tlsName : String) (tlsApplication : TlsApplication) (c : Counters) :
    Counters.TaskSide c (e.httpConnectTlsConnectTo proxyAuthorizationBasicPass tcpNotes taskNotes
        env tls tlsName tlsApplication c).2.2 ∧
      ∀ stream, (e.httpConnectTlsConnectTo proxyAuthorizationBasicPass tcpNotes taskNotes env tls
          tlsName tlsApplication c).1 = .ok stream →
        ∃ socket header bufStream, env.connect = .ok socket ∧
          (e.timedHttpConnectTcpConnectTo proxyAuthorizationBasicPass tcpNotes taskNotes env
            c).1 = .ok bufStream ∧
          socket.incoming =
            header ++ bufStream.buffer ++ LawfulStream.pending stream.connector.transport := by
  refine ⟨httpConnectTlsConnectTo_counters proxyAuthorizationBasicPass e tcpNotes taskNotes env tls
    tlsName tlsApplication c, fun stream done => ?_⟩
  obtain ⟨bufStream, negotiated, transport⟩ := (tlsConnectAfter_spec tcpNotes taskNotes tlsName
    tlsApplication tls _).2 stream done
  obtain ⟨socket, header, connected, bytesIn, -⟩ :=
    (httpConnectTcpConnectTo_spec proxyAuthorizationBasicPass e tcpNotes taskNotes env c).2
      bufStream ((timedNegotiation_fst_ok _ _).mp negotiated)
  refine ⟨socket, header, bufStream, connected, negotiated, ?_⟩
  rw [transport, bytesIn]
  rfl

end ProxyHttpEscaper

end G3Proxy.Escape
