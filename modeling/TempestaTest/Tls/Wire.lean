import TempestaTest.Tls.Connection

/-! What one `do_12` on a `TlsHandshake` without a socket puts on the wire,
against every server and every fuzzer. Leaving the fuzzed records aside, the
socket carries a prefix of the flight of `_do_12_hs`, in order and each record
once: the ClientHello, the `RECORD_OVERFLOW` warning alert, ClientKeyExchange
with ChangeCipherSpec, and ClientFinished. The fuzzed records on it are the
first ones the fuzzer yields, in order, except that `inject_bad` draws a record
with `next(fuzzer)` before sending it, so a send that raises `socket.error`
loses that one record. The socket is closed at the end. Each method has one
lemma saying how far along the flight it takes the socket, and `_do_12_hs` is
their composition. -/

namespace TempestaTest.Tls

/-- The data of a record the fuzzer yielded. -/
def Record.fuzzedData : Record → Option Bytes
  | .fuzzed data => some data
  | _ => none

/-- The records a socket carried other than fuzzed ones. -/
def handshakeRecords (sent : List Record) : List Record := sent.filter fun r => r.fuzzedData.isNone

/-- The fuzzed records a socket carried, in order. -/
def fuzzedRecords (sent : List Record) : List Bytes := sent.filterMap Record.fuzzedData

/-- The records `_do_12_hs` sends after the ClientHello `hello`, in order. -/
def flight (hello : Record) : List Record :=
  [hello, .alert alertWarning recordOverflow, .clientKeyExchange, .clientFinished]

theorem handshakeRecords_snoc {r : Record} (hr : r.fuzzedData = none) (sent : List Record) :
    handshakeRecords (sent ++ [r]) = handshakeRecords sent ++ [r] := by
  simp [handshakeRecords, hr]

theorem fuzzedRecords_snoc {r : Record} (hr : r.fuzzedData = none) (sent : List Record) :
    fuzzedRecords (sent ++ [r]) = fuzzedRecords sent := by
  simp [fuzzedRecords, hr]

@[simp] theorem handshakeRecords_snoc_fuzzed (sent : List Record) (data : Bytes) :
    handshakeRecords (sent ++ [.fuzzed data]) = handshakeRecords sent := by
  simp [handshakeRecords, Record.fuzzedData]

@[simp] theorem fuzzedRecords_snoc_fuzzed (sent : List Record) (data : Bytes) :
    fuzzedRecords (sent ++ [.fuzzed data]) = fuzzedRecords sent ++ [data] := by
  simp [fuzzedRecords, Record.fuzzedData]

/-- `sendall` on a socket raises `socket.error` where it is closed or the peer
has reset the connection, and appends the record otherwise. -/
theorem sendall_of_sock (srv : Server) (record : Record) {s : Session} {sock : Sock} (h : s.hs.sock = some sock) :
    sendall srv record s = if sock.closed || srv.resets sock.sent then .error .socketError s
      else .ok () { s with hs := { s.hs with sock := some { sock with sent := sock.sent ++ [record] } } } := by
  dsimp only [sendall, throw_bind_eq, pure_bind_eq]
  simp only [bind_apply, get_apply, h]
  split <;> rfl

theorem connEstab_of_none (srv : Server) {s : Session} (hs : s.hs.sock = none) :
    connEstab srv s = if srv.accepts then .ok () { s with hs := { s.hs with sock := some ⟨[], false⟩ } }
      else .error .socketError { s with hs := { s.hs with sock := some ⟨[], false⟩ } } := by
  cases h : srv.accepts <;> simp [connEstab, bind_apply, hs, h]

section Wire

variable (fl : List Record) (f₀ : List Bytes)

/-- The socket has carried the first `n` records of `fl`, in order, among
fuzzed records; the fuzzer began with `f₀`, and `lost` were drawn from it and
not sent. -/
def Wire (n : ℕ) (lost : List Bytes) (s : Session) : Prop :=
  ∃ sock, s.hs.sock = some sock ∧ handshakeRecords sock.sent = fl.take n ∧
    fuzzedRecords sock.sent ++ lost ++ s.fuzzer = f₀

/-- Where an exception `e` leaves the wire: part of the way along `fl`, with a
drawn record lost only where sending it raised `socket.error`. -/
def Stopped (e : Exc) (s : Session) : Prop :=
  ∃ n lost, Wire fl f₀ n lost s ∧ (lost = [] ∨ lost.length = 1 ∧ e = .socketError)

variable {fl f₀}

theorem Wire.stopped {n : ℕ} {s : Session} (h : Wire fl f₀ n [] s) (e : Exc) : Stopped fl f₀ e s :=
  ⟨n, [], h, .inl rfl⟩

/-- An assignment that leaves the socket and the fuzzer alone keeps the wire. -/
theorem modify_wire {n : ℕ} {lost : List Bytes} {err : Exc → Session → Prop} {f : Session → Session}
    (hf : ∀ s, (f s).hs.sock = s.hs.sock ∧ (f s).fuzzer = s.fuzzer) :
    Triple (Wire fl f₀ n lost) (modify f) (fun _ => Wire fl f₀ n lost) err :=
  Triple.modify fun s ⟨sock, hsock, hhs, hfz⟩ => ⟨sock, (hf s).1.trans hsock, hhs, (hf s).2 ▸ hfz⟩

variable (srv : Server) (fuzzer : Bool)

/-- A record of the flight goes out as the next one, or the socket is left as it was. -/
theorem sendall_wire {n : ℕ} {r : Record} (hr : r.fuzzedData = none) (hn : fl[n]? = some r) :
    Triple (Wire fl f₀ n []) (sendall srv r) (fun _ => Wire fl f₀ (n + 1) []) (fun _ => Wire fl f₀ n []) := by
  rintro s ⟨sock, hsock, hhs, hfz⟩
  rw [sendall_of_sock srv r hsock]
  by_cases hc : (sock.closed || srv.resets sock.sent) = true
  · rw [if_pos hc]
    exact ⟨sock, hsock, hhs, hfz⟩
  · rw [if_neg hc]
    exact ⟨_, rfl, by rw [handshakeRecords_snoc hr, hhs, List.take_succ, hn]; rfl, by rwa [fuzzedRecords_snoc hr]⟩

/-- A record drawn from the fuzzer goes out, or is lost where the send raises `socket.error`. -/
theorem sendall_fuzzed_wire {n : ℕ} {data : Bytes} :
    Triple (Wire fl f₀ n [data]) (sendall srv (.fuzzed data)) (fun _ => Wire fl f₀ n []) (Stopped fl f₀) := by
  rintro s ⟨sock, hsock, hhs, hfz⟩
  rw [sendall_of_sock srv _ hsock]
  by_cases hc : (sock.closed || srv.resets sock.sent) = true
  · rw [if_pos hc]
    exact ⟨n, [data], ⟨sock, hsock, hhs, hfz⟩, .inr ⟨rfl, rfl⟩⟩
  · rw [if_neg hc]
    exact ⟨_, rfl, by rw [handshakeRecords_snoc_fuzzed, hhs], by simpa using hfz⟩

/-- `inject_bad` sends fuzzed records only. -/
theorem injectBad_wire {n : ℕ} :
    Triple (Wire fl f₀ n []) (injectBad srv fuzzer) (fun _ => Wire fl f₀ n []) (Stopped fl f₀) := by
  unfold injectBad
  dsimp only [throw_bind_eq, pure_bind_eq]
  refine Triple.bind Triple.get fun s => ?_
  split
  · split
    · exact Triple.pure fun _ h => h.2
    split
    · exact Triple.bind (Triple.modify fun _ h => h.2) fun _ => Triple.pure fun _ h => h
    split
    · exact Triple.throw fun _ h => h.2.stopped _
    split
    · next record rest hf =>
      refine Triple.bind (Triple.modify fun _ h => ?_) fun _ => sendall_fuzzed_wire srv
      obtain ⟨rfl, sock, hsock, hhs, hfz⟩ := h
      exact ⟨sock, hsock, hhs, by rw [← hfz, hf]; simp⟩
    · exact Triple.throw fun _ h => h.2.stopped _
  · exact Triple.pure fun _ h => h.2

/-- `send_recv` of a record of the flight sends it as the next one. -/
theorem sendRecv_wire {n : ℕ} {r : Record} (hr : r.fuzzedData = none) (hn : fl[n]? = some r) :
    Triple (Wire fl f₀ n []) (sendRecv srv r) (fun _ => Wire fl f₀ (n + 1) []) (Stopped fl f₀) := by
  unfold sendRecv
  dsimp only [throw_bind_eq, pure_bind_eq]
  refine Triple.bind Triple.get fun s => ?_
  split
  · exact Triple.throw fun _ h => h.2.stopped _
  refine Triple.bind (Triple.tryCatch (Triple.mono (sendall_wire srv hr hn) (fun _ h => h.2) (fun _ _ h => h)
    fun _ _ h => h) fun e => ?_) fun _ => Triple.bind Triple.get fun s => ?_
  · split <;> exact Triple.throw fun _ h => h.stopped _
  split
  · split
    · split
      · split
        · exact Triple.throw fun _ h => h.2.stopped _
        · exact Triple.pure fun _ h => h.2
      · exact Triple.pure fun _ h => h.2
    · exact Triple.throw fun _ h => h.2.stopped _
  · exact Triple.throw fun _ h => h.2.stopped _

end Wire

section Handshake

variable (srv : Server) (fuzzer : Bool) {s : Session} (hs : s.hs.sock = none)

include hs in
/-- From a fresh object, `_do_12_hs` takes the socket along the flight of the
ClientHello it builds. -/
theorem do12Hs_wire :
    Triple (· = s) (do12Hs srv fuzzer)
      (fun _ s' => ∃ n, Wire (flight (clientHello s.hs (s.hs.exts ++ addedExtensions s.hs))) s.fuzzer n [] s')
      (Stopped (flight (clientHello s.hs (s.hs.exts ++ addedExtensions s.hs))) s.fuzzer) := by
  obtain ⟨s₁, hs₁⟩ : ∃ s₁, { s with hs := { s.hs with sock := some ⟨[], false⟩ } } = s₁ := ⟨_, rfl⟩
  have hstart : Wire (flight (clientHello s.hs (s.hs.exts ++ addedExtensions s.hs))) s.fuzzer 0 [] s₁ :=
    hs₁ ▸ ⟨_, rfl, rfl, rfl⟩
  have hconn : Triple (· = s) (connEstab srv >>= fun _ => pure true) (fun _ => (· = s₁)) fun _ => (· = s₁) := by
    rintro _ rfl
    rw [bind_apply, connEstab_of_none srv hs, hs₁]
    cases srv.accepts <;> rfl
  have hexts : Triple (· = s₁) extraExtensions
      (fun exts s' => clientHello s'.hs exts = clientHello s.hs (s.hs.exts ++ addedExtensions s.hs) ∧
        Wire (flight (clientHello s.hs (s.hs.exts ++ addedExtensions s.hs))) s.fuzzer 0 [] s')
      (Stopped (flight (clientHello s.hs (s.hs.exts ++ addedExtensions s.hs))) s.fuzzer) := by
    rintro _ rfl
    subst hs₁
    exact ⟨rfl, _, rfl, rfl, rfl⟩
  unfold do12Hs
  dsimp only [throw_bind_eq, pure_bind_eq]
  refine Triple.bind (Triple.tryCatch hconn fun e => ?_) fun c => ?_
  · split
    · exact Triple.pure fun _ h => h
    · exact Triple.throw fun _ h => h ▸ hstart.stopped _
  split
  · exact Triple.pure fun _ h => ⟨0, h ▸ hstart⟩
  refine Triple.bind hexts fun exts => Triple.bind Triple.get fun s' => ?_
  refine Triple.assume (fun _ h => by obtain ⟨rfl, h, -⟩ := h; exact h) fun hmsg => ?_
  rw [hmsg]
  refine Triple.mono ?_ (fun _ h => h.2.2) (fun _ _ h => h) fun _ _ h => h
  refine Triple.bind (injectBad_wire srv fuzzer) fun _ => Triple.bind (sendRecv_wire srv rfl rfl) fun resp => ?_
  split
  · refine Triple.bind (modify_wire fun _ => ⟨rfl, rfl⟩) fun _ => ?_
    split
    · exact Triple.throw fun _ h => h.stopped _
    refine Triple.bind (Triple.mono (sendall_wire srv rfl rfl) (fun _ h => h) (fun _ _ h => h)
      fun _ _ h => h.stopped _) fun _ => Triple.bind (injectBad_wire srv fuzzer) fun _ => ?_
    refine Triple.bind (Triple.mono (sendall_wire srv rfl rfl) (fun _ h => h) (fun _ _ h => h)
      fun _ _ h => h.stopped _) fun _ => Triple.bind (injectBad_wire srv fuzzer) fun _ => ?_
    exact Triple.bind (sendRecv_wire srv rfl rfl) fun _ => Triple.pure fun _ h => ⟨4, h⟩
  · exact Triple.pure fun _ h => ⟨1, h⟩

end Handshake

/-- Whatever the server replies and the fuzzer yields, `do_12` on an object
without a socket leaves it a closed socket that carried, fuzzed records
aside, a prefix of the flight of its ClientHello, and of the fuzzed records
the first ones the fuzzer yielded, in order; a record the fuzzer yielded is
lost only where sending it raised `socket.error`, which ends the call. -/
theorem do12_wire (srv : Server) (fuzzer : Bool) (s : Session) (hs : s.hs.sock = none) :
    ∃ sock, (after (do12 srv fuzzer s)).hs.sock = some sock ∧ sock.closed = true ∧
      handshakeRecords sock.sent <+: flight (clientHello s.hs (s.hs.exts ++ addedExtensions s.hs)) ∧
      ∃ lost, fuzzedRecords sock.sent ++ lost ++ (after (do12 srv fuzzer s)).fuzzer = s.fuzzer ∧
        (lost = [] ∨ lost.length = 1 ∧ ∃ s', do12 srv fuzzer s = .error .socketError s') := by
  have h := do12Hs_wire srv fuzzer hs s rfl
  rw [do12_eq]
  unfold socketCtx
  rw [bind_apply]
  rcases hb : do12Hs srv fuzzer s with ⟨b, s'⟩ | ⟨e, s'⟩ <;> rw [hb] at h
  · obtain ⟨n, sock, hsock, hhs, hfz⟩ := h
    simp only [pure_apply, close_of_sock hsock, after_ok]
    exact ⟨_, rfl, rfl, hhs ▸ List.take_prefix n _, [], hfz, .inl rfl⟩
  · obtain ⟨n, lost, ⟨sock, hsock, hhs, hfz⟩, hlost⟩ := h
    simp only [close_of_sock hsock, after_error]
    exact ⟨_, rfl, rfl, hhs ▸ List.take_prefix n _, lost, hfz, hlost.imp_right fun ⟨hl, he⟩ => ⟨hl, _, by rw [he]⟩⟩

theorem do12_wire_goodServer :
    initial.hs.sock = none ∧
      ∃ sock, (after (do12 goodServer false initial)).hs.sock = some sock ∧ sock.closed = true ∧
        handshakeRecords sock.sent <+: flight (clientHello initial.hs (initial.hs.exts ++ addedExtensions initial.hs)) ∧
        ∃ lost, fuzzedRecords sock.sent ++ lost ++ (after (do12 goodServer false initial)).fuzzer = initial.fuzzer ∧
          (lost = [] ∨ lost.length = 1 ∧ ∃ s', do12 goodServer false initial = .error .socketError s') :=
  ⟨rfl, do12_wire goodServer false initial rfl⟩

/-- After one good record `inject_bad` sends a fuzzed record at each of its
two later calls: before ClientKeyExchange and before ClientFinished. -/
example :
    (after (do12 goodServer true ⟨{ TlsHandshake.init with inject := some 1 }, ["x".toList, "y".toList]⟩)).hs.sock.map
      (fun sock => ((handshakeRecords sock.sent).length, fuzzedRecords sock.sent, sock.sent.length)) =
      some (4, ["x".toList, "y".toList], 6) := rfl

end TempestaTest.Tls
