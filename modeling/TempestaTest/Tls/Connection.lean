import TempestaTest.Tls.Handshake

/-! What one `do_12` call returns and leaves behind. `_do_12_hs` ends with
`return False` whatever the server replied, so neither it nor `do_12` ever
returns True, `_do_12_req` is never reached, and against every server and
fuzzer `do_12` sends no HTTP request. `conn_estab` assigns `self.sock` before
connecting and `socket_ctx` only closes the socket, so after any `do_12` the
object holds a socket, and every later `do_12` on it fails its first
assertion. Both socket facts are instances of one lemma per method about any
property of the socket that sending a record and closing keep.
`extra_extensions` extends `self.exts` in place, so each call returns a longer
list than the one before. -/

namespace TempestaTest.Tls

/-! ### Returned values -/

theorem socketCtx_returns {p : α → Prop} {body : EStateM Exc Session α} (h : Returns p body) :
    Returns p (socketCtx body) := by
  intro s a s' hx
  unfold socketCtx at hx
  split at hx
  · split at hx
    · cases hx
      exact h _ _ _ (by assumption)
    · cases hx
  · split at hx <;> cases hx

/-- `_do_12_hs` returns only False. -/
theorem do12Hs_returns_false (srv : Server) (fuzzer : Bool) : Returns (· = false) (do12Hs srv fuzzer) := by
  unfold do12Hs
  repeat (first
    | exact Returns.pure rfl
    | exact Returns.throw
    | refine Returns.bind_any fun _ => ?_
    | split)

/-- `do_12` returns only False, whatever the server replies. -/
theorem do12_returns_false (srv : Server) (fuzzer : Bool) : Returns (· = false) (do12 srv fuzzer) := by
  refine socketCtx_returns (Returns.bind (do12Hs_returns_false srv fuzzer) fun b hb => ?_)
  subst hb
  exact Returns.pure rfl

/-- A server that completes the handshake and serves the request: a
certificate in reply to the ClientHello, a ServerFinished in reply to the
ClientFinished, and a `200 OK` record in reply to the request. -/
def goodServer : Server where
  accepts := true
  resets _ := false
  reply sent := some (match sent.getLast? with
    | some (.clientHello ..) => ⟨some "certificate".toList, none, none, false⟩
    | some .clientFinished => ⟨none, none, none, true⟩
    | some (.request _) => ⟨none, none, some "HTTP/1.1 200 OK\r\nContent-Length: 0\r\n\r\n".toList, false⟩
    | _ => ⟨none, none, none, false⟩)

/-- A fresh `TlsHandshake` and no fuzzer. -/
def initial : Session := ⟨TlsHandshake.init, []⟩

/-- Against `goodServer`, `do_12` completes the handshake, never sends the
request, and returns False. -/
theorem do12_goodServer :
    ∃ s, do12 goodServer false initial = .ok false s ∧ s.hs.cert = some "certificate".toList ∧
      s.hs.sock.map (·.sent.length) = some 4 :=
  ⟨_, rfl, rfl, rfl⟩

/-- `_do_12_hs` returns only False, so `do_12` never reaches `_do_12_req`. -/
theorem do12_eq (srv : Server) (fuzzer : Bool) :
    do12 srv fuzzer = socketCtx (do12Hs srv fuzzer >>= fun _ => pure false) := by
  refine congrArg socketCtx (funext fun s => ?_)
  rw [bind_apply, bind_apply]
  rcases h : do12Hs srv fuzzer s with ⟨b, s'⟩ | ⟨e, s'⟩
  · obtain rfl : b = false := do12Hs_returns_false srv fuzzer s b s' h
    rfl
  · rfl

/-! ### The socket over a call -/

/-- `Q` holds of the object's socket. -/
def OnSock (Q : Option Sock → Prop) (s : Session) : Prop := Q s.hs.sock

/-- `sendall` leaves the socket as it was, or appends the record to it. -/
theorem sendall_sock (srv : Server) (record : Record) (s : Session) :
    (after (sendall srv record s)).hs.sock = s.hs.sock ∨
      ∃ sock, s.hs.sock = some sock ∧
        (after (sendall srv record s)).hs.sock = some { sock with sent := sock.sent ++ [record] } := by
  rcases hsock : s.hs.sock with _ | sock
  · left; simp [sendall, bind_apply, hsock]
  · dsimp only [sendall, throw_bind_eq, pure_bind_eq]
    simp only [bind_apply, get_apply, hsock]
    split
    · exact .inl hsock
    · exact .inr ⟨sock, rfl, rfl⟩

/-- `close` leaves the socket as it was, or closes it. -/
theorem close_sock (s : Session) :
    (after (close s)).hs.sock = s.hs.sock ∨
      ∃ sock, s.hs.sock = some sock ∧ (after (close s)).hs.sock = some { sock with closed := true } := by
  rcases hsock : s.hs.sock with _ | sock
  · left; simp [close, bind_apply, hsock]
  · right; exact ⟨sock, rfl, by simp [close, bind_apply, hsock]⟩

/-- A property of the object's socket that sending a record with `ok` and
closing the socket keep. -/
structure SockInv (Q : Option Sock → Prop) (ok : Record → Prop) : Prop where
  send : ∀ sock r, ok r → Q (some sock) → Q (some { sock with sent := sock.sent ++ [r] })
  close : ∀ sock, Q (some sock) → Q (some { sock with closed := true })

section SockInv

variable {Q : Option Sock → Prop} {ok : Record → Prop} (hQ : SockInv Q ok) (srv : Server) (fuzzer : Bool)

include hQ in
theorem sendall_keeps (record : Record) (hr : ok record) : Keeps (OnSock Q) (sendall srv record) := by
  intro s hs
  rcases sendall_sock srv record s with h | ⟨sock, hsock, h⟩
  · rwa [OnSock, h]
  · rw [OnSock, hsock] at hs
    rw [OnSock, h]
    exact hQ.send sock record hr hs

include hQ in
theorem close_keeps : Keeps (OnSock Q) close := by
  intro s hs
  rcases close_sock s with h | ⟨sock, hsock, h⟩
  · rwa [OnSock, h]
  · rw [OnSock, hsock] at hs
    rw [OnSock, h]
    exact hQ.close sock hs

include hQ in
theorem sendRecv_keeps (pkt : Record) (hp : ok pkt) : Keeps (OnSock Q) (sendRecv srv pkt) := by
  unfold sendRecv
  dsimp only [throw_bind_eq, pure_bind_eq]
  refine Keeps.bind Keeps.get fun s => ?_
  split
  · exact Keeps.throw
  refine Keeps.bind (Keeps.tryCatch (sendall_keeps hQ srv pkt hp) fun e => ?_) fun _ =>
    Keeps.bind Keeps.get fun s => ?_
  · split <;> exact Keeps.throw
  split
  · split
    · split
      · split
        · exact Keeps.throw
        · exact Keeps.pure
      · exact Keeps.pure
    · exact Keeps.throw
  · exact Keeps.throw

include hQ in
theorem injectBad_keeps (hf : ∀ data, ok (.fuzzed data)) : Keeps (OnSock Q) (injectBad srv fuzzer) := by
  unfold injectBad
  dsimp only [throw_bind_eq, pure_bind_eq]
  refine Keeps.bind Keeps.get fun s => ?_
  split
  · split
    · exact Keeps.pure
    split
    · exact Keeps.bind (Keeps.modify fun _ h => h) fun _ => Keeps.pure
    split
    · exact Keeps.throw
    split
    · exact Keeps.bind (Keeps.modify fun _ h => h) fun _ => sendall_keeps hQ srv _ (hf _)
    · exact Keeps.throw
  · exact Keeps.pure

theorem extraExtensions_keeps : Keeps (OnSock Q) extraExtensions :=
  Keeps.bind (Keeps.modify fun _ h => h) fun _ => Keeps.bind Keeps.get fun _ => Keeps.pure

/-- `conn_estab` keeps `Q` when `Q` holds of a fresh socket. -/
theorem connEstab_keeps (hfresh : Q (some ⟨[], false⟩)) : Keeps (OnSock Q) (connEstab srv) := by
  unfold connEstab
  dsimp only [throw_bind_eq, pure_bind_eq]
  refine Keeps.bind Keeps.get fun s => ?_
  split
  · exact Keeps.throw
  · refine Keeps.bind (Keeps.modify fun _ _ => hfresh) fun _ => ?_
    split
    · exact Keeps.throw
    · exact Keeps.pure

include hQ in
theorem socketCtx_leads {pre : Session → Prop} {body : EStateM Exc Session α}
    (h : Leads pre (OnSock Q) body) : Leads pre (OnSock Q) (socketCtx body) := by
  intro s hs
  have hc := close_keeps hQ (after (body s)) (h s hs)
  unfold socketCtx
  rcases hb : body s with ⟨a, s'⟩ | ⟨e, s'⟩ <;> rcases hcl : close s' with ⟨⟨⟩, s''⟩ | ⟨e', s''⟩ <;>
    simpa [hb, hcl] using hc

include hQ in
/-- The handshake sends only records other than requests: from a state with
`pre`, it ends in one with `Q` when `conn_estab` does and `ok` holds of all
those records. -/
theorem do12Hs_leads {pre : Session → Prop} (hconn : Leads pre (OnSock Q) (connEstab srv))
    (hok : ∀ r, (∀ data, r ≠ .request data) → ok r) : Leads pre (OnSock Q) (do12Hs srv fuzzer) := by
  have hf : ∀ data, ok (.fuzzed data) := fun _ => hok _ fun _ h => by cases h
  unfold do12Hs
  dsimp only [throw_bind_eq, pure_bind_eq]
  refine Leads.bind (Leads.tryCatch (Leads.bind hconn fun _ => Keeps.pure) fun e => ?_) fun c => ?_
  · split
    · exact Keeps.pure
    · exact Keeps.throw
  split
  · exact Keeps.pure
  refine Keeps.bind extraExtensions_keeps fun _ => Keeps.bind Keeps.get fun _ =>
    Keeps.bind (injectBad_keeps hQ srv fuzzer hf) fun _ =>
    Keeps.bind (sendRecv_keeps hQ srv _ (hok _ fun _ h => by cases h)) fun resp => ?_
  split
  · refine Keeps.bind (Keeps.modify fun _ h => h) fun _ => ?_
    split
    · exact Keeps.throw
    · exact Keeps.bind (sendall_keeps hQ srv _ (hok _ fun _ h => by cases h)) fun _ =>
        Keeps.bind (injectBad_keeps hQ srv fuzzer hf) fun _ =>
        Keeps.bind (sendall_keeps hQ srv _ (hok _ fun _ h => by cases h)) fun _ =>
        Keeps.bind (injectBad_keeps hQ srv fuzzer hf) fun _ =>
        Keeps.bind (sendRecv_keeps hQ srv _ (hok _ fun _ h => by cases h)) fun _ => Keeps.pure
  · exact Keeps.pure

end SockInv

/-! ### No request is sent -/

/-- No request record has been sent on the socket. -/
def NoRequestSent (o : Option Sock) : Prop :=
  ∀ sock, o = some sock → ∀ data, Record.request data ∉ sock.sent

theorem noRequestSent_inv : SockInv NoRequestSent (fun r => ∀ data, r ≠ .request data) where
  send sock r hr h := by
    rintro _ ⟨⟩ data hmem
    rcases List.mem_append.mp hmem with hmem | hmem
    · exact h sock rfl data hmem
    · exact hr data (List.mem_singleton.mp hmem).symm
  close sock h := by
    rintro _ ⟨⟩
    exact h sock rfl

/-- Whatever the server replies and the fuzzer yields, `do_12` sends no HTTP
request: a connection that carried none carries none after the call,
returned or raised. -/
theorem do12_sends_no_request (srv : Server) (fuzzer : Bool) :
    Keeps (OnSock NoRequestSent) (do12 srv fuzzer) := by
  rw [do12_eq]
  have hfresh : NoRequestSent (some ⟨[], false⟩) := by
    rintro _ ⟨⟩ data hmem
    cases hmem
  exact socketCtx_leads noRequestSent_inv (Keeps.bind (do12Hs_leads noRequestSent_inv srv fuzzer
    (connEstab_keeps srv hfresh) fun _ h => h) fun _ => Keeps.pure)

/-! ### The socket after a call -/

/-- The object holds a socket. -/
def HoldsSock : Session → Prop := OnSock fun o => o.isSome

theorem holdsSock_inv : SockInv (fun o => o.isSome) fun _ => True :=
  ⟨fun _ _ _ _ => rfl, fun _ _ => rfl⟩

section HoldsSock

variable (srv : Server) (fuzzer : Bool)

/-- `conn_estab` leaves a socket, whether it connects, fails to, or finds one. -/
theorem connEstab_establishes : Establishes HoldsSock (connEstab srv) := by
  intro s _
  by_cases h : s.hs.sock.isSome
  · simp [connEstab, bind_apply, h, HoldsSock, OnSock]
  · cases ha : srv.accepts <;> simp [connEstab, bind_apply, h, ha, HoldsSock, OnSock]

/-- After any `do_12`, whether it returned or raised, the object holds a socket. -/
theorem do12_establishes : Establishes HoldsSock (do12 srv fuzzer) := by
  rw [do12_eq]
  exact socketCtx_leads holdsSock_inv (Establishes.bind
    (do12Hs_leads holdsSock_inv srv fuzzer (connEstab_establishes srv) fun _ _ => trivial) fun _ => Keeps.pure)

/-! ### A second call -/

/-- The message of the assertion in `conn_estab`. -/
def alreadyEstablished : Exc := .assertionError "Connection has already been established".toList

theorem connEstab_of_holdsSock {s : Session} (h : HoldsSock s) :
    connEstab srv s = .error alreadyEstablished s := by
  simp [connEstab, bind_apply, alreadyEstablished, h.symm]

theorem close_of_sock {s : Session} {sock : Sock} (h : s.hs.sock = some sock) :
    close s = .ok () { s with hs := { s.hs with sock := some { sock with closed := true } } } := by
  simp [close, bind_apply, h]

/-- `do_12` on an object that holds a socket fails the assertion of
`conn_estab` and closes the socket. -/
theorem do12_of_holdsSock {s : Session} {sock : Sock} (h : s.hs.sock = some sock) :
    do12 srv fuzzer s = .error alreadyEstablished
      { s with hs := { s.hs with sock := some { sock with closed := true } } } := by
  have hc : connEstab srv s = .error alreadyEstablished s := connEstab_of_holdsSock srv (by simp [HoldsSock, OnSock, h])
  have hhs : do12Hs srv fuzzer s = .error alreadyEstablished s := by
    simp only [do12Hs, bind_apply, tryCatch_apply, hc]
    rfl
  simp only [do12, socketCtx, bind_apply, hhs, close_of_sock h]

end HoldsSock

/-- Whatever the first `do_12` on an object did, a second one fails the
assertion of `conn_estab`. -/
theorem do12_after_do12 (srv srv' : Server) (fuzzer fuzzer' : Bool) (s : Session) :
    ∃ s', do12 srv' fuzzer' (after (do12 srv fuzzer s)) = .error alreadyEstablished s' := by
  obtain ⟨sock, hsock⟩ := Option.isSome_iff_exists.mp (do12_establishes srv fuzzer s trivial)
  exact ⟨_, do12_of_holdsSock srv' fuzzer' hsock⟩

/-! ### Extensions -/

/-- Each call of `extra_extensions` returns what the previous call returned
followed by the whole configured list again. -/
theorem extraExtensions_twice (s : Session) :
    (extraExtensions >>= fun _ => extraExtensions) s =
      .ok (s.hs.exts ++ addedExtensions s.hs ++ addedExtensions s.hs)
        { s with hs := { s.hs with exts := s.hs.exts ++ addedExtensions s.hs ++ addedExtensions s.hs } } := rfl

/-- A second `do_12` on a `TlsHandshake` fails the assertion of `conn_estab`,
and a second `extra_extensions` returns a longer extension list. -/
theorem do12_twice_initial :
    (∃ s₁ s₂, do12 goodServer false initial = .ok false s₁ ∧
      do12 goodServer false s₁ = .error alreadyEstablished s₂) ∧
    (∃ s₁ s₂, extraExtensions initial = .ok (addedExtensions TlsHandshake.init) s₁ ∧
      extraExtensions s₁ = .ok (addedExtensions TlsHandshake.init ++ addedExtensions TlsHandshake.init) s₂) :=
  ⟨⟨_, _, rfl, rfl⟩, ⟨_, _, rfl, rfl⟩⟩

end TempestaTest.Tls
