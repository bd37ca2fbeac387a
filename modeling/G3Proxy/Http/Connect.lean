import G3Proxy.Io.Tunnel

/-!
# The HTTP CONNECT exchange

`g3_http::connect` is not among the sources, so the request, the response reader and the
error conversion are modelled from the spec (§4.D and §7). The response is read line by
line through the buffered reader, within the header size, up to the blank line; what the
buffer holds past that line stays there. The socket's ready counts of one negotiation form
a list, one per poll, and when the list runs out the deadline fires.
-/

namespace G3Proxy.Http

open G3Proxy.Io

/-- The UTF-8 bytes of a text, as `str::as_bytes`. -/
def utf8Bytes (text : String) : List UInt8 :=
  text.toList.flatMap String.utf8EncodeChar

/-- The `TcpConnectError` kinds of the egress flows (§7). -/
inductive TcpConnectError where
  | noPeerAvailable
  | connectTimeout
  | connectRefused
  | connectUnreachable
  | negotiationWriteFailed
  | negotiationReadFailed
  | negotiationProtocolError
  | negotiationRejected (status : Nat)
  | negotiationPeerTimeout
  | internalTlsClientError
  | upstreamTlsHandshakeFailed
  | upstreamTlsHandshakeTimeout
deriving DecidableEq, Repr

/-- The ways reading a CONNECT response can fail. -/
inductive HttpConnectError where
  | remoteClosed
  | headerTooLarge
  | invalidStatusLine
  | invalidHeaderLine
  | unexpectedStatusCode (code : Nat)
deriving DecidableEq, Repr

/-- Modelled from the spec (§4.D, §7): end of stream mid-header is a read failure,
an oversized or malformed head a protocol error, a non-2xx status a rejection. -/
def TcpConnectError.ofHttpConnectError : HttpConnectError → TcpConnectError
  | .remoteClosed => .negotiationReadFailed
  | .headerTooLarge => .negotiationProtocolError
  | .invalidStatusLine => .negotiationProtocolError
  | .invalidHeaderLine => .negotiationProtocolError
  | .unexpectedStatusCode code => .negotiationRejected code

/-- `UpstreamAddr`: the host and port the client asked for. -/
structure UpstreamAddr where
  host : String
  port : Nat
deriving DecidableEq, Repr

def UpstreamAddr.text (upstream : UpstreamAddr) : String :=
  upstream.host ++ ":" ++ toString upstream.port

/-- `HttpConnectRequest`: the CONNECT target, the escaper's `append_http_headers` and the
lines added by `append_dyn_header`. -/
structure HttpConnectRequest where
  upstream : UpstreamAddr
  staticHeaders : List String
  dynHeaders : List String
deriving DecidableEq, Repr

namespace HttpConnectRequest

def new (upstream : UpstreamAddr) (staticHeaders : List String) : HttpConnectRequest :=
  ⟨upstream, staticHeaders, []⟩

def appendDynHeader (req : HttpConnectRequest) (line : String) : HttpConnectRequest :=
  { req with dynHeaders := req.dynHeaders ++ [line] }

/-- Modelled from the spec (§4.D): the request head on the wire. -/
def encode (req : HttpConnectRequest) : List UInt8 :=
  utf8Bytes ("CONNECT " ++ req.upstream.text ++ " HTTP/1.1\r\n" ++
    "Host: " ++ req.upstream.text ++ "\r\n" ++
    String.join ((req.staticHeaders ++ req.dynHeaders).map (· ++ "\r\n")) ++ "\r\n")

end HttpConnectRequest

/-- `AsyncWriteExt::write_all`, one socket poll per ready count. A poll that takes no
byte fails the write; running out of ready counts leaves it pending. On success the
unused ready counts are returned. -/
def writeAll {S : Type} [AsyncStream S] :
    List Nat → S → List UInt8 → Counters → Option (Except Unit (List Nat)) × S × Counters
  | ready, s, [], c => (some (.ok ready), s, c)
  | [], s, _ :: _, c => (none, s, c)
  | accepted :: ready, s, byte :: rest, c =>
    let (n, s, c) := AsyncStream.pollWrite s (byte :: rest) accepted c
    if n = 0 then (some (.error ()), s, c) else writeAll ready s ((byte :: rest).drop n) c

/-- How a `limited_read_until` ended: pending at the deadline, or done with the bytes it
consumed and whether the last one is the delimiter. -/
inductive ReadUntil where
  | pending
  | done (found : Bool) (line : List UInt8)
deriving DecidableEq, Repr

/-- `limited_read_until(delimiter, max_len)` over a buffered reader: consume up to and
including the delimiter, at most `maxLen` bytes, stopping early at the end of the
stream. -/
def limitedReadUntil {S : Type} [AsyncStream S] (delimiter : UInt8) (maxLen : Nat) :
    List Nat → BufReader S → Counters → List UInt8 →
      ReadUntil × BufReader S × Counters × List Nat
  | ready, b, c, acc =>
    let chunk := b.buffer.take (maxLen - acc.length)
    match chunk.indexOf? delimiter with
    | some index => (.done true (acc ++ chunk.take (index + 1)), b.consume (index + 1), c, ready)
    | none =>
      let acc := acc ++ chunk
      let b := b.consume chunk.length
      if maxLen ≤ acc.length then (.done false acc, b, c, ready)
      else
        match ready with
        | [] => (.pending, b, c, [])
        | avail :: ready =>
          let (b, c) := b.pollFillBuf avail c
          if b.buffer.isEmpty then (.done false acc, b, c, ready)
          else limitedReadUntil delimiter maxLen ready b c acc

/-- The parts of a CONNECT response the escapers keep: status code, reason phrase and
the raw header lines. -/
structure HttpConnectResponse where
  code : Nat
  reason : List UInt8
  headers : List (List UInt8)
deriving DecidableEq, Repr

namespace HttpConnectResponse

def digit? (byte : UInt8) : Option Nat :=
  if 48 ≤ byte ∧ byte ≤ 57 then some (byte.toNat - 48) else none

/-- Modelled from the spec: `HTTP/1.x NNN reason`. -/
def buildFromStatusLine (line : List UInt8) : Except HttpConnectError HttpConnectResponse :=
  if line.take 7 = utf8Bytes "HTTP/1." ∧ line.get? 8 = some 32 then
    match digit? (line.getD 9 0), digit? (line.getD 10 0), digit? (line.getD 11 0) with
    | some hundreds, some tens, some units =>
      .ok ⟨hundreds * 100 + tens * 10 + units, line.drop 13, []⟩
    | _, _, _ => .error .invalidStatusLine
  else .error .invalidStatusLine

def parseHeaderLine (rsp : HttpConnectResponse) (line : List UInt8) :
    Except HttpConnectError HttpConnectResponse :=
  if (58 : UInt8) ∈ line then .ok { rsp with headers := rsp.headers ++ [line] }
  else .error .invalidHeaderLine

def isBlankLine (line : List UInt8) : Bool :=
  line = [10] || line = [13, 10]

/-- Only a 2xx status opens the tunnel. -/
def detectError (rsp : HttpConnectResponse) : Except HttpConnectError HttpConnectResponse :=
  if 200 ≤ rsp.code ∧ rsp.code < 300 then .ok rsp else .error (.unexpectedStatusCode rsp.code)

variable {S : Type} [AsyncStream S]

/-- The header lines after the status line. Each line takes a byte of the size budget,
so `fuel = maxHeaderSize` lines always reach the size check first. -/
def recvHeaders (maxHeaderSize : Nat) :
    Nat → List Nat → BufReader S → Counters → Nat → HttpConnectResponse →
      Option (Except HttpConnectError HttpConnectResponse) × BufReader S × Counters
  | 0, _, b, c, _, _ => (some (.error .headerTooLarge), b, c)
  | fuel + 1, ready, b, c, headerSize, rsp =>
    if maxHeaderSize ≤ headerSize then (some (.error .headerTooLarge), b, c)
    else
      match limitedReadUntil 10 (maxHeaderSize - headerSize) ready b c [] with
      | (.pending, b, c, _) => (none, b, c)
      | (.done found line, b, c, ready) =>
        if line.isEmpty then (some (.error .remoteClosed), b, c)
        else if !found then
          (some (.error (if line.length < maxHeaderSize - headerSize then .remoteClosed
            else .headerTooLarge)), b, c)
        else if isBlankLine line then (some rsp.detectError, b, c)
        else
          match rsp.parseHeaderLine line with
          | .error e => (some (.error e), b, c)
          | .ok rsp => recvHeaders maxHeaderSize fuel ready b c (headerSize + line.length) rsp

/-- Modelled from the spec: `HttpConnectResponse::recv`, the status line and then the
header lines up to the blank line. -/
def recv (ready : List Nat) (b : BufReader S) (c : Counters) (maxHeaderSize : Nat) :
    Option (Except HttpConnectError HttpConnectResponse) × BufReader S × Counters :=
  match limitedReadUntil 10 maxHeaderSize ready b c [] with
  | (.pending, b, c, _) => (none, b, c)
  | (.done found line, b, c, ready) =>
    if line.isEmpty then (some (.error .remoteClosed), b, c)
    else if !found then
      (some (.error (if line.length < maxHeaderSize then .remoteClosed else .headerTooLarge)),
        b, c)
    else
      match buildFromStatusLine line with
      | .error e => (some (.error e), b, c)
      | .ok rsp => recvHeaders maxHeaderSize maxHeaderSize ready b c line.length rsp

end HttpConnectResponse

/-! ## The exchange moves bytes as the wire does -/

section Lawful

variable {S : Type} [AsyncStream S] [LawfulStream S]

open LawfulStream BufReader

theorem writeAll_sends (ready : List Nat) (s : S) (data : List UInt8) (c : Counters) :
    pending (writeAll ready s data c).2.1 = pending s ∧
      stats (writeAll ready s data c).2.1 = stats s ∧
      ∃ written, sent (writeAll ready s data c).2.1 = sent s ++ written ∧
        (writeAll ready s data c).2.2 = StreamStats.addWriteBytes? (stats s) written.length c ∧
        ∀ rest, (writeAll ready s data c).1 = some (.ok rest) → written = data := by
  induction ready, s, data, c using writeAll.induct with
  | case1 ready s c =>
    simp only [writeAll, true_and]
    exact ⟨[], by simp⟩
  | case2 s byte rest c =>
    simp only [writeAll, true_and]
    exact ⟨[], by simp⟩
  | case3 accepted ready s byte rest c s' c' polled =>
    obtain ⟨pendingEq, sentEq, statsEq, countersEq, -⟩ := pollWrite_of_eq polled
    simp only [writeAll, polled, ↓reduceIte]
    exact ⟨pendingEq, statsEq, [], by simpa using sentEq, by simpa using countersEq, by simp⟩
  | case4 accepted ready s byte rest c n s' c' polled nonZero ih =>
    obtain ⟨pendingEq, sentEq, statsEq, countersEq, -⟩ := pollWrite_of_eq polled
    obtain ⟨pendingRest, statsRest, written, sentRest, countersRest, complete⟩ := ih
    simp only [writeAll, polled, nonZero, ↓reduceIte]
    refine ⟨pendingRest.trans pendingEq, statsRest.trans statsEq,
      (byte :: rest).take n ++ written, ?_, ?_, fun rest' done => ?_⟩
    · rw [sentRest, sentEq, List.append_assoc]
    · rw [countersRest, statsEq, countersEq, StreamStats.addWriteBytes?_add, List.length_append,
        List.length_take_of_le (by simpa using (pollWrite_of_eq polled).2.2.2.2)]
    · rw [complete rest' done, List.take_append_drop]

theorem limitedReadUntil_consumes (delimiter : UInt8) (maxLen : Nat) (ready : List Nat)
    (b : BufReader S) (c : Counters) (acc : List UInt8) :
    ∃ consumed, Consumes b c consumed (limitedReadUntil delimiter maxLen ready b c acc).2.1
        (limitedReadUntil delimiter maxLen ready b c acc).2.2.1 ∧
      ∀ found line, (limitedReadUntil delimiter maxLen ready b c acc).1 = .done found line →
        line = acc ++ consumed := by
  induction ready, b, c, acc using limitedReadUntil.induct (S := S) delimiter maxLen with
  | case1 ready b c acc chunk index found =>
    have inWindow := (List.findIdx?_eq_some_iff_findIdx_eq.mp found).1
    rw [limitedReadUntil]
    simp only [chunk] at found
    simp only [found]
    exact ⟨_, consume_window b c inWindow, by rintro _ _ ⟨⟩; rfl⟩
  | case2 ready b c acc chunk missing acc' full =>
    rw [limitedReadUntil]
    simp only [chunk, acc'] at missing full
    simp only [missing, full, ↓reduceIte]
    exact ⟨_, consume_window_all b c _, by rintro _ _ ⟨⟩; rfl⟩
  | case3 b c acc chunk missing acc' room =>
    rw [limitedReadUntil]
    simp only [chunk, acc'] at missing room
    simp only [missing, room, ↓reduceIte]
    exact ⟨_, consume_window_all b c _, by rintro _ _ ⟨⟩⟩
  | case4 b c acc chunk missing acc' b' room avail ready b'' c' filled atEnd =>
    rw [limitedReadUntil]
    simp only [chunk, acc', b'] at missing room filled
    simp only [missing, room, ↓reduceIte, filled, atEnd]
    have fill := pollFillBuf_consumes (b.consume (b.buffer.take (maxLen - acc.length)).length) avail c
    rw [filled] at fill
    exact ⟨_, (consume_window_all b c _).trans fill, by rintro _ _ ⟨⟩; simp⟩
  | case5 b c acc chunk missing acc' b' room avail ready b'' c' filled notAtEnd ih =>
    rw [limitedReadUntil]
    simp only [chunk, acc', b'] at missing room filled ih
    simp only [missing, room, ↓reduceIte, filled, notAtEnd]
    obtain ⟨consumed, consumes, line⟩ := ih
    have fill := pollFillBuf_consumes (b.consume (b.buffer.take (maxLen - acc.length)).length) avail c
    rw [filled] at fill
    refine ⟨_, ((consume_window_all b c _).trans fill).trans consumes, ?_⟩
    intro found done isDone
    rw [line found done isDone]
    simp

end Lawful

section LawfulResponse

variable {S : Type} [AsyncStream S] [LawfulStream S]

open LawfulStream BufReader

theorem HttpConnectResponse.recvHeaders_consumes (maxHeaderSize fuel : Nat) (ready : List Nat)
    (b : BufReader S) (c : Counters) (headerSize : Nat) (rsp : HttpConnectResponse) :
    ∃ consumed, Consumes b c consumed
      (HttpConnectResponse.recvHeaders maxHeaderSize fuel ready b c headerSize rsp).2.1
      (HttpConnectResponse.recvHeaders maxHeaderSize fuel ready b c headerSize rsp).2.2 := by
  induction fuel, ready, b, c, headerSize, rsp
    using HttpConnectResponse.recvHeaders.induct (S := S) maxHeaderSize with
  | case1 ready b c headerSize rsp => exact ⟨[], Consumes.refl b c⟩
  | case2 fuel ready b c headerSize rsp full =>
    simp only [HttpConnectResponse.recvHeaders, full, ↓reduceIte]
    exact ⟨[], Consumes.refl b c⟩
  | case3 fuel ready b c headerSize rsp room b' c' ready' pending =>
    obtain ⟨consumed, consumes, -⟩ := limitedReadUntil_consumes 10 (maxHeaderSize - headerSize) ready b c []
    simp only [HttpConnectResponse.recvHeaders, room, ↓reduceIte, pending] at consumes ⊢
    exact ⟨consumed, consumes⟩
  | case4 fuel ready b c headerSize rsp room found line b' c' ready' done empty =>
    obtain ⟨consumed, consumes, -⟩ := limitedReadUntil_consumes 10 (maxHeaderSize - headerSize) ready b c []
    simp only [HttpConnectResponse.recvHeaders, room, ↓reduceIte, done, empty] at consumes ⊢
    exact ⟨consumed, consumes⟩
  | case5 fuel ready b c headerSize rsp room found line b' c' ready' done nonEmpty missing =>
    obtain ⟨consumed, consumes, -⟩ := limitedReadUntil_consumes 10 (maxHeaderSize - headerSize) ready b c []
    simp only [HttpConnectResponse.recvHeaders, room, ↓reduceIte, done, nonEmpty, missing] at consumes ⊢
    exact ⟨consumed, consumes⟩
  | case6 fuel ready b c headerSize rsp room found line b' c' ready' done nonEmpty present blank =>
    obtain ⟨consumed, consumes, -⟩ := limitedReadUntil_consumes 10 (maxHeaderSize - headerSize) ready b c []
    simp only [HttpConnectResponse.recvHeaders, room, ↓reduceIte, done, nonEmpty, present, blank]
      at consumes ⊢
    exact ⟨consumed, consumes⟩
  | case7 fuel ready b c headerSize rsp room found line b' c' ready' done nonEmpty present notBlank
      e invalid =>
    obtain ⟨consumed, consumes, -⟩ := limitedReadUntil_consumes 10 (maxHeaderSize - headerSize) ready b c []
    simp only [HttpConnectResponse.recvHeaders, room, ↓reduceIte, done, nonEmpty, present, notBlank,
      invalid] at consumes ⊢
    exact ⟨consumed, consumes⟩
  | case8 fuel ready b c headerSize rsp room found line b' c' ready' done nonEmpty present notBlank
      rsp' parsed ih =>
    obtain ⟨consumed, consumes, -⟩ := limitedReadUntil_consumes 10 (maxHeaderSize - headerSize) ready b c []
    obtain ⟨consumed', consumes'⟩ := ih
    simp only [HttpConnectResponse.recvHeaders, room, ↓reduceIte, done, nonEmpty, present, notBlank,
      parsed] at consumes ⊢
    exact ⟨consumed ++ consumed', consumes.trans consumes'⟩

theorem HttpConnectResponse.recv_consumes (ready : List Nat) (b : BufReader S) (c : Counters)
    (maxHeaderSize : Nat) :
    ∃ consumed, Consumes b c consumed (HttpConnectResponse.recv ready b c maxHeaderSize).2.1
      (HttpConnectResponse.recv ready b c maxHeaderSize).2.2 := by
  obtain ⟨consumed, consumes, -⟩ := limitedReadUntil_consumes 10 maxHeaderSize ready b c []
  unfold HttpConnectResponse.recv
  split
  · rename_i b' c' ready' pending
    rw [pending] at consumes
    exact ⟨consumed, consumes⟩
  · rename_i found line b' c' ready' done
    rw [done] at consumes
    split_ifs
    all_goals try exact ⟨consumed, consumes⟩
    split
    · exact ⟨consumed, consumes⟩
    · obtain ⟨consumed', consumes'⟩ := HttpConnectResponse.recvHeaders_consumes maxHeaderSize
        maxHeaderSize ready' b' c' line.length _
      exact ⟨consumed ++ consumed', consumes.trans consumes'⟩

end LawfulResponse

/-- What the network does in one negotiation: the outcome of opening the stream to the
proxy, and the ready counts of the socket polls until the deadline. -/
structure NegotiationEnv where
  connect : Except TcpConnectError TcpStream
  ready : List Nat

end G3Proxy.Http
