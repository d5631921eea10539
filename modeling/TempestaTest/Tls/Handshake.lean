import Mathlib.Data.List.Basic
import TempestaTest.Method
import TempestaTest.Str

/-! The ScaPy-TLS handshake driver `TlsHandshake` of `tls/handshake.py`:
`conn_estab`, `send_recv`, `inject_bad`, `extra_extensions`, `send_12_alert`,
`socket_ctx`, and the three steps `_do_12_hs`, `_do_12_req` and `do_12`. A
method's state is the `TlsHandshake` object and the fuzzer generator passed to
it; the server is the environment: whether it accepts the connection, after
which records it resets the connection, and what `recvall` reads after the
records sent so far. Records and replies keep only what the driver builds and
reads; the ScaPy encoding, the key exchange and the debug output are not
modelled. -/

namespace TempestaTest.Tls

/-- A TLS extension as the driver builds it; the caller's own extensions in
`sign_algs`, `elliptic_curves` and `renegotiation_info` are `given`. -/
inductive Ext
  | serverNameIndication (serverNames : List Bytes)
  | signatureAlgorithms
  | supportedGroups
  | renegotiationInfo (data : Bytes)
  /-- `tls.TLSExtension(type=...)` with no body. -/
  | typed (type : ℕ)
  | ecPointsFormat
  | alpn (protocols : List Bytes)
  | maxFragmentLength (length : ℕ)
  | certificateUrl (urls : List Bytes)
  | heartbeat (mode : ℕ)
  | sessionTicket (data : Bytes)
  | given (id : ℕ)
  deriving DecidableEq, Repr

inductive Record
  | clientHello (cipherSuites compressionMethods : List ℕ) (extensions : List Ext)
  | alert (level description : ℕ)
  /-- ClientKeyExchange and ChangeCipherSpec, sent together. -/
  | clientKeyExchange
  | clientFinished
  /-- `tls.TLSPlaintext(data=req)`. -/
  | request (data : Bytes)
  | fuzzed (data : Bytes)
  deriving DecidableEq, Repr

/-- What `recvall` read, as far as the driver looks at it: the data of a
`TLSCertificate` layer, the level and description of a `TLSAlert` layer, and
the data of a `TLSRecord` layer. `serverFinished` records a ServerFinished,
which the driver never looks at. -/
structure Reply where
  certificate : Option Bytes
  alert : Option (ℕ × ℕ)
  record : Option Bytes
  serverFinished : Bool
  deriving DecidableEq, Repr

structure Server where
  accepts : Bool
  /-- After these records the peer has reset the connection: sending raises `socket.error`. -/
  resets : List Record → Bool
  /-- What `recvall` reads after these records; `none` when it raises `socket.error`. -/
  reply : List Record → Option Reply

inductive Exc
  | assertionError (msg : Bytes)
  /-- `tls.TLSProtocolError` for a non-warning alert in a reply. -/
  | alertReturned (level description : ℕ)
  /-- `tls.TLSProtocolError` wrapping a `socket.error` of `send_recv`. -/
  | protocolSocketError
  | socketError
  /-- `StopIteration` from `next(fuzzer)`. -/
  | stopIteration
  /-- `AttributeError` on an attribute of `None`. -/
  | attributeError
  /-- `IndexError` from `self.sni[0]`. -/
  | indexError
  deriving DecidableEq, Repr

/-- A `tls.TLSSocket`: the records sent on it and whether it was closed. -/
structure Sock where
  sent : List Record
  closed : Bool
  deriving DecidableEq, Repr

/-- The attributes of a `TlsHandshake` the driver reads or writes. -/
structure TlsHandshake where
  sni : List Bytes
  exts : List Ext
  signAlgs : List Ext
  ellipticCurves : List Ext
  ciphers : List ℕ
  compressions : List ℕ
  renegotiationInfo : List Ext
  inject : Option ℕ
  httpResp : Option Bytes
  host : Option Bytes
  cert : Option Bytes
  sock : Option Sock
  deriving DecidableEq, Repr

/-- `TlsHandshake.__init__`. -/
def TlsHandshake.init : TlsHandshake where
  sni := ["tempesta-tech.com".toList]
  exts := []
  signAlgs := []
  ellipticCurves := []
  ciphers := []
  compressions := []
  renegotiationInfo := []
  inject := none
  httpResp := none
  host := none
  cert := none
  sock := none

/-- The handshake object and the records the fuzzer generator has still to yield. -/
structure Session where
  hs : TlsHandshake
  fuzzer : List Bytes
  deriving DecidableEq, Repr

/-- `GOOD_RESP`. -/
def goodResp : Bytes := "HTTP/1.1 200".toList

/-- `tls.TLSAlertLevel.WARNING`. -/
def alertWarning : ℕ := 1

/-- `tls.TLSAlertDescription.RECORD_OVERFLOW`. -/
def recordOverflow : ℕ := 22

/-- `tls.TLSCipherSuite.ECDHE_ECDSA_WITH_AES_128_GCM_SHA256`. -/
def ecdheEcdsaWithAes128GcmSha256 : ℕ := 0xC02B

/-- `tls.TLSCompressionMethod.NULL`. -/
def compressionNull : ℕ := 0

/-- `tls.TLSHeartbeatMode.PEER_NOT_ALLOWED_TO_SEND`. -/
def peerNotAllowedToSend : ℕ := 2

/-! ### The socket -/

/-- `self.sock.sendall(record)`, and `self.sock.send` of one record. -/
def sendall (srv : Server) (record : Record) : EStateM Exc Session Unit := do
  let some sock := (← get).hs.sock | throw .attributeError
  if sock.closed || srv.resets sock.sent then throw .socketError
  modify fun s => { s with hs := { s.hs with sock := some { sock with sent := sock.sent ++ [record] } } }

/-- `self.sock.close()`. -/
def close : EStateM Exc Session Unit := do
  let some sock := (← get).hs.sock | throw .attributeError
  modify fun s => { s with hs := { s.hs with sock := some { sock with closed := true } } }

/-- `TlsHandshake.socket_ctx`: run the body, then close the socket. -/
def socketCtx (body : EStateM Exc Session α) : EStateM Exc Session α := fun s =>
  match body s with
  | .ok a s => match close s with
    | .ok () s => .ok a s
    | .error e s => .error e s
  | .error e s => match close s with
    | .ok () s => .error e s
    | .error e' s => .error e' s

/-- `TlsHandshake.conn_estab`. -/
def connEstab (srv : Server) : EStateM Exc Session Unit := do
  if (← get).hs.sock.isSome then throw (.assertionError "Connection has already been established".toList)
  modify fun s => { s with hs := { s.hs with sock := some ⟨[], false⟩ } }
  if !srv.accepts then throw .socketError

/-- `TlsHandshake.send_recv`. -/
def sendRecv (srv : Server) (pkt : Record) : EStateM Exc Session Reply := do
  if (← get).hs.sock.isNone then throw (.assertionError "Try to read and write on invalid socket".toList)
  tryCatch (sendall srv pkt) fun
    | .socketError => throw .protocolSocketError
    | e => throw e
  let some sock := (← get).hs.sock | throw .attributeError
  let some resp := srv.reply sock.sent | throw .protocolSocketError
  if let some (level, description) := resp.alert then
    if level ≠ alertWarning then throw (.alertReturned level description)
  return resp

/-- `TlsHandshake.send_12_alert`. -/
def send12Alert (srv : Server) (level description : ℕ) : EStateM Exc Session Unit :=
  sendall srv (.alert level description)

/-! ### Building the ClientHello -/

/-- The extensions every call of `extra_extensions` adds after the configured ones. -/
def standardExtensions : List Ext :=
  [.typed 0x3, .typed 0x5, .typed 0xf0, .alpn ["http/1.1".toList, "http/2.0".toList],
    .maxFragmentLength 0x01, .certificateUrl ["http://www.tempesta-tech.com".toList],
    .heartbeat peerNotAllowedToSend, .sessionTicket "myticket".toList]

/-- What one call of `extra_extensions` appends to `self.exts`. -/
def addedExtensions (hs : TlsHandshake) : List Ext :=
  (if hs.sni.isEmpty then [] else [.serverNameIndication hs.sni]) ++
  (if hs.signAlgs.isEmpty then [.signatureAlgorithms] else hs.signAlgs) ++
  (if hs.ellipticCurves.isEmpty then [.supportedGroups] else hs.ellipticCurves) ++
  (if hs.renegotiationInfo.isEmpty then [.renegotiationInfo []] else hs.renegotiationInfo) ++
  standardExtensions

/-- `TlsHandshake.extra_extensions`: extend `self.exts` in place and return it. -/
def extraExtensions : EStateM Exc Session (List Ext) := do
  modify fun s => { s with hs := { s.hs with exts := s.hs.exts ++ addedExtensions s.hs } }
  return (← get).hs.exts

/-- The ClientHello of `_do_12_hs`, around the extensions `exts`. -/
def clientHello (hs : TlsHandshake) (exts : List Ext) : Record :=
  .clientHello (ecdheEcdsaWithAes128GcmSha256 :: hs.ciphers) (compressionNull :: hs.compressions)
    ([.typed 0x16, .ecPointsFormat] ++ exts)

/-! ### Fault injection -/

/-- `TlsHandshake.inject_bad`; `fuzzer` says whether a fuzzer generator, and
not `None`, was passed. -/
def injectBad (srv : Server) (fuzzer : Bool) : EStateM Exc Session Unit := do
  let s ← get
  let some inject := s.hs.inject | return
  if !fuzzer then return
  if 0 < inject then
    modify fun s => { s with hs := { s.hs with inject := some (inject - 1) } }
    return
  if s.hs.sock.isNone then throw .attributeError
  let record :: rest := s.fuzzer | throw .stopIteration
  modify fun s => { s with fuzzer := rest }
  sendall srv (.fuzzed record)

/-! ### The handshake -/

/-- `TlsHandshake._do_12_hs`. -/
def do12Hs (srv : Server) (fuzzer : Bool) : EStateM Exc Session Bool := do
  let connected ← tryCatch (do connEstab srv; pure true) fun
    | .socketError => pure false
    | e => throw e
  if !connected then return false
  let exts ← extraExtensions
  let msg1 := clientHello (← get).hs exts
  injectBad srv fuzzer
  let resp ← sendRecv srv msg1
  let some cert := resp.certificate | return false
  modify fun s => { s with hs := { s.hs with cert := some cert } }
  if cert.isEmpty then throw (.assertionError "No cerfificate received".toList)
  send12Alert srv alertWarning recordOverflow
  injectBad srv fuzzer
  sendall srv .clientKeyExchange
  injectBad srv fuzzer
  let _ ← sendRecv srv .clientFinished
  return false

/-- `self.host if self.host else self.sni[0]`. -/
def requestHost (hs : TlsHandshake) : EStateM Exc Session Bytes :=
  match hs.host with
  | some host@(_ :: _) => pure host
  | _ => match hs.sni with
    | [] => throw .indexError
    | name :: _ => pure name

/-- `TlsHandshake._do_12_req`. -/
def do12Req (srv : Server) (fuzzer : Bool) : EStateM Exc Session Bool := do
  injectBad srv fuzzer
  let host ← requestHost (← get).hs
  let req := "GET / HTTP/1.1\r\nHost: ".toList ++ host ++ "\r\n\r\n".toList
  let resp ← sendRecv srv (.request req)
  match resp.record with
  | some data =>
    modify fun s => { s with hs := { s.hs with httpResp := some data } }
    return goodResp.isPrefixOf data
  | none => return false

/-- `TlsHandshake.do_12`. -/
def do12 (srv : Server) (fuzzer : Bool) : EStateM Exc Session Bool :=
  socketCtx do
    if !(← do12Hs srv fuzzer) then return false
    do12Req srv fuzzer

/-! ### Certificate checks -/

/-- An attribute of a certificate's subject or issuer: its OID and `str` of its value. -/
structure Attribute where
  oid : Bytes
  value : Bytes
  deriving DecidableEq, Repr

structure Cert where
  subject : List Attribute
  issuer : List Attribute
  deriving DecidableEq, Repr

/-- The certificate checks of `handshake.py`: whether the first attribute of
`field` with the OID `oid` ends with `expected`, or `Exception(missing)`
where there is none. -/
def x509CheckField (field : Cert → List Attribute) (oid missing : Bytes) (cert : Cert) (expected : Bytes) :
    Except Bytes Bool :=
  match (field cert).find? (·.oid = oid) with
  | some f => pure (expected.isSuffixOf f.value)
  | none => throw missing

/-- `x509_check_cn`: the CommonName, OID `2.5.4.3`, of the subject. -/
def x509CheckCn : Cert → Bytes → Except Bytes Bool :=
  x509CheckField Cert.subject "2.5.4.3".toList "Certificate has no CommonName".toList

/-- `x509_check_issuer`: the OrganizationName, OID `2.5.4.10`, of the issuer. -/
def x509CheckIssuer : Cert → Bytes → Except Bytes Bool :=
  x509CheckField Cert.issuer "2.5.4.10".toList "Certificate has no Issuer OrganizationName".toList

end TempestaTest.Tls
