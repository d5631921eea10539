import TempestaTest.Tls.Connection

/-! Fault injection by `inject_bad`. The counter `self.inject` counts down the
calls to let through; once it is zero it stays zero, and every later call sends
the next fuzzed record. Over `n` calls from `inject = k` on an open connection,
`n - k` fuzzed records are sent, the fuzzer advancing once for each. -/

namespace TempestaTest.Tls

/-- `n` calls of `inject_bad` with one fuzzer, as at the injection places of `do_12`. -/
def injectBadTimes (srv : Server) : ℕ → EStateM Exc Session Unit
  | 0 => pure ()
  | n + 1 => do injectBad srv true; injectBadTimes srv n

/-- The session after `inject_bad` sent the fuzzer's next record on the socket `sock`. -/
def Session.afterInjection (s : Session) (sock : Sock) (records : List Bytes) : Session :=
  { s with hs := { s.hs with sock := some { sock with sent := sock.sent ++ records.map .fuzzed } },
           fuzzer := s.fuzzer.drop records.length }

section Inject

variable {srv : Server} (hsrv : ∀ sent, srv.resets sent = false) {s : Session} {sock : Sock}
  (hsock : s.hs.sock = some sock) (hopen : sock.closed = false)

theorem injectBad_of_pos {k : ℕ} (hk : s.hs.inject = some (k + 1)) :
    injectBad srv true s = .ok () { s with hs := { s.hs with inject := some k } } := by
  simp [injectBad, bind_apply, hk]

include hsrv hsock hopen in
theorem injectBad_of_zero {record : Bytes} {rest : List Bytes} (hk : s.hs.inject = some 0)
    (hf : s.fuzzer = record :: rest) :
    injectBad srv true s = .ok () (s.afterInjection sock [record]) := by
  simp [injectBad, sendall, bind_apply, hk, hf, hsock, hopen, hsrv, Session.afterInjection]

include hsrv in
/-- From `inject = k` on an open connection, `n` calls of `inject_bad` let the
first `k` through and send one fuzzed record at each later call, `n - k` in
all, advancing the fuzzer once for each. -/
theorem injectBadTimes_sends (n : ℕ) :
    ∀ (k : ℕ) (s : Session) (sock : Sock), s.hs.inject = some k → s.hs.sock = some sock →
      sock.closed = false → n - k ≤ s.fuzzer.length →
      ∃ s', injectBadTimes srv n s = .ok () s' ∧
        s'.hs.sock = some { sock with sent := sock.sent ++ (s.fuzzer.take (n - k)).map .fuzzed } ∧
        s'.fuzzer = s.fuzzer.drop (n - k) ∧ s'.hs.inject = some (k - n) := by
  induction n with
  | zero =>
    intro k s sock hk hsock _ _
    exact ⟨s, rfl, by simp [hsock], by simp, by simp [hk]⟩
  | succ n ih =>
    intro k s sock hk hsock hopen hlen
    rcases k with _ | k
    · obtain ⟨record, rest, hf⟩ :=
        List.exists_cons_of_ne_nil (List.ne_nil_of_length_pos (by omega : 0 < s.fuzzer.length))
      obtain ⟨s', hrun, hs', hf', hk'⟩ := ih 0 (s.afterInjection sock [record]) _ hk rfl hopen
        (by simp [Session.afterInjection, hf] at hlen ⊢; omega)
      refine ⟨s', ?_, ?_, ?_, by simpa using hk'⟩
      · simpa [injectBadTimes, bind_apply, injectBad_of_zero hsrv hsock hopen hk hf] using hrun
      · simpa [Session.afterInjection, hf] using hs'
      · simpa [Session.afterInjection, hf] using hf'
    · obtain ⟨s', hrun, hs', hf', hk'⟩ := ih k { s with hs := { s.hs with inject := some k } } sock rfl hsock
        hopen (by simpa using hlen)
      exact ⟨s', by simpa [injectBadTimes, bind_apply, injectBad_of_pos hk] using hrun,
        by simpa using hs', by simpa using hf', by simpa using hk'⟩

end Inject

/-- A fresh `TlsHandshake` with `inject = 0`, and a fuzzer with four records. -/
def fuzzedInitial : Session :=
  ⟨{ TlsHandshake.init with inject := some 0 }, ["bad1".toList, "bad2".toList, "bad3".toList, "bad4".toList]⟩

/-- With `inject = 0`, two calls of `inject_bad` on an open connection send two
fuzzed records, and `do_12` against `goodServer` sends one at each of the three
injection places it reaches. -/
theorem inject_zero_sends_every_call :
    (∃ s, injectBadTimes goodServer 2
        { fuzzedInitial with hs := { fuzzedInitial.hs with sock := some ⟨[], false⟩ } } = .ok () s ∧
      s.hs.sock = some ⟨[.fuzzed "bad1".toList, .fuzzed "bad2".toList], false⟩) ∧
    (∃ s, do12 goodServer true fuzzedInitial = .ok false s ∧ s.fuzzer = ["bad4".toList] ∧
      s.hs.sock.map (·.sent.countP (· matches .fuzzed _)) = some 3) :=
  ⟨⟨_, rfl, rfl⟩, ⟨_, rfl, rfl, rfl⟩⟩

end TempestaTest.Tls
