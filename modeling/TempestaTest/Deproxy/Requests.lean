import TempestaTest.Deproxy.Fragmentation

/-! Requests and responses of one client over whole runs. The bytes a client
has sent followed by its `request_buffer` only grow by what `make_request`
hands over, as long as each `make_request` comes while `writable()` is False;
`make_request` replaces `request_buffer` rather than appending to it, so bytes
still pending when it is called are dropped. Each `handle_read` records at most
one response, and none before the first `make_request`; nothing ties the count
of recorded responses to the count of requests. -/

namespace TempestaTest.Deproxy

/-- The bytes an event hands to the client for sending. -/
def Event.enqueued : Event → Bytes
  | .makeRequest request => request
  | _ => []

/-- Everything the client has sent or still holds for sending. -/
def outbox (c : Client) : Bytes := c.sent ++ c.requestBuffer

/-! ### One event -/

section Step

variable (P : Parsers) (v : View)

/-- `handle_read` touches neither the send side nor the parsed request. -/
theorem handleRead_frame (chunk : Bytes) :
    (after (handleRead P chunk v)).inst.sent = v.inst.sent ∧
      (after (handleRead P chunk v)).inst.requestBuffer = v.inst.requestBuffer ∧
      (after (handleRead P chunk v)).inst.request = v.inst.request := by
  dsimp only [handleRead]
  repeat' split
  all_goals exact ⟨rfl, rfl, rfl⟩

theorem makeRequest_of_ok {request : Bytes} {v' : View} (h : makeRequest P request v = .ok () v') :
    v'.inst.sent = v.inst.sent ∧ v'.inst.requestBuffer = request ∧ v'.inst.request.isSome ∧
      v'.responses = v.responses := by
  unfold makeRequest baseMakeRequest at h
  split at h <;> cases h
  exact ⟨rfl, rfl, rfl, rfl⟩

theorem makeRequest_of_error {request : Bytes} {x : Exc} {v' : View}
    (h : makeRequest P request v = .error x v') :
    v'.inst.sent = v.inst.sent ∧ v'.inst.requestBuffer = v.inst.requestBuffer ∧
      v'.responses = v.responses := by
  unfold makeRequest baseMakeRequest at h
  split at h <;> cases h
  exact ⟨rfl, rfl, rfl⟩

theorem outbox_handleWrite (n : ℕ) : outbox (after (handleWrite n v)).inst = outbox v.inst := by
  simp [outbox, after, handleWrite]

/-- One event adds to the outbox what it enqueues, provided a `make_request`
finds nothing pending; an event that raises adds nothing. -/
theorem outbox_step (e : Event)
    (he : (match e with | .makeRequest _ => !writable v.inst | _ => true) = true) :
    outbox (after (e.step P v)).inst = outbox v.inst ++
      (match e.step P v with | .ok () _ => e.enqueued | .error _ _ => []) := by
  cases e with
  | makeRequest request =>
    have hrb : v.inst.requestBuffer = [] := by simpa [writable] using he
    rcases h : makeRequest P request v with ⟨⟨⟩, v'⟩ | ⟨x, v'⟩
    · obtain ⟨hs, hr, -⟩ := makeRequest_of_ok P v h
      simp [Event.step, h, after, outbox, hs, hr, hrb, Event.enqueued]
    · obtain ⟨hs, hr, -⟩ := makeRequest_of_error P v h
      simp [Event.step, h, after, outbox, hs, hr]
  | handleRead chunk =>
    obtain ⟨hs, hr, -⟩ := handleRead_frame P v chunk
    have : outbox (after (handleRead P chunk v)).inst = outbox v.inst := by simp [outbox, hs, hr]
    rcases h : handleRead P chunk v with ⟨⟨⟩, v'⟩ | ⟨x, v'⟩ <;>
      simpa [Event.step, h, Event.enqueued] using this
  | handleWrite n => simpa [Event.step, handleWrite, Event.enqueued] using outbox_handleWrite v n

end Step

/-! ### Sending over a run -/

/-- Every `make_request` of the run comes while `writable()` is False. -/
def drained (P : Parsers) : List Event → View → Bool
  | [], _ => true
  | e :: es, v =>
    (match e with | .makeRequest _ => !writable v.inst | _ => true) &&
      match e.step P v with
      | .ok () v' => drained P es v'
      | .error _ _ => true

/-- Over a run whose `make_request` calls find nothing pending, the outbox grows
by exactly the requests when the run completes, and by a prefix of them when it
raises. -/
theorem outbox_run (P : Parsers) (es : List Event) :
    ∀ v, drained P es v = true →
      (∀ v', run P es v = .ok () v' → outbox v'.inst = outbox v.inst ++ (es.map Event.enqueued).flatten) ∧
      outbox (after (run P es v)).inst <+: outbox v.inst ++ (es.map Event.enqueued).flatten := by
  induction es with
  | nil => intro v _; exact ⟨fun v' h => by cases h; simp, by simp [after]⟩
  | cons e es ih =>
    intro v hd
    simp only [drained, Bool.and_eq_true] at hd
    have hstep := outbox_step P v e hd.1
    rcases h : e.step P v with ⟨⟨⟩, v'⟩ | ⟨x, v'⟩
    · simp only [h, after] at hstep hd
      obtain ⟨hok, hpre⟩ := ih v' hd.2
      rw [run_cons_of_ok e es h]
      simp only [List.map_cons, List.flatten_cons, ← List.append_assoc, ← hstep]
      exact ⟨hok, hpre⟩
    · simp only [h, after, List.append_nil] at hstep
      rw [run_cons_of_error e es h]
      refine ⟨fun _ h' => (by cases h'), ?_⟩
      simp only [after, hstep, List.map_cons, List.flatten_cons]
      exact List.prefix_append _ _

/-- The bytes a client has sent stay a prefix of its pending bytes followed by
the requests of the run, and equal them once `writable()` is False after a
completed run, provided each `make_request` comes while `writable()` is False. -/
theorem run_sent_prefix (P : Parsers) (es : List Event) (v : View) (hd : drained P es v = true) :
    (after (run P es v)).inst.sent <+: v.inst.sent ++ v.inst.requestBuffer ++ (es.map Event.enqueued).flatten ∧
      ∀ v', run P es v = .ok () v' → writable v'.inst = false →
        v'.inst.sent = v.inst.sent ++ v.inst.requestBuffer ++ (es.map Event.enqueued).flatten := by
  obtain ⟨hok, hpre⟩ := outbox_run P es v hd
  refine ⟨(List.prefix_append _ _).trans hpre, fun v' h hw => ?_⟩
  have hrb : v'.inst.requestBuffer = [] := by simpa [writable] using hw
  simpa [outbox, hrb] using hok v' h

/-- A client that has not made a request yet. -/
def fresh : View := ⟨⟨[], [], [], none, none, 0, true⟩, []⟩

/-- The first request of the examples. -/
def requestOne : Bytes := "GET /1 HTTP/1.1\r\nHost: localhost\r\n\r\n".toList

/-- The second request of the examples. -/
def requestTwo : Bytes := "GET /2 HTTP/1.1\r\nHost: localhost\r\n\r\n".toList

theorem run_sent_prefix_fresh :
    let es : List Event := [.makeRequest requestOne, .handleWrite 4, .handleWrite 100,
      .makeRequest requestTwo, .handleWrite 100]
    (after (run (fixedResponse okResponse) es fresh)).inst.sent <+:
        fresh.inst.sent ++ fresh.inst.requestBuffer ++ (es.map Event.enqueued).flatten ∧
      ∀ v', run (fixedResponse okResponse) es fresh = .ok () v' → writable v'.inst = false →
        v'.inst.sent = fresh.inst.sent ++ fresh.inst.requestBuffer ++ (es.map Event.enqueued).flatten :=
  run_sent_prefix (fixedResponse okResponse) _ fresh rfl

/-- A `make_request` while one byte of the previous request has been sent drops
the rest of it. -/
theorem make_request_drops_pending :
    ∃ v', run (fixedResponse okResponse)
        [.makeRequest requestOne, .handleWrite 1, .makeRequest requestTwo, .handleWrite 100] fresh =
        .ok () v' ∧ writable v'.inst = false ∧ ¬ v'.inst.sent <+: requestOne ++ requestTwo :=
  ⟨_, rfl, rfl, by decide⟩

/-! ### Receiving over a run -/

/-- The `handle_read` calls of a run made while `self.request` is set; `made`
says whether it is set at the start. -/
def readsAfterRequest : Bool → List Event → ℕ
  | _, [] => 0
  | _, .makeRequest _ :: es => readsAfterRequest true es
  | made, .handleRead _ :: es => (if made then 1 else 0) + readsAfterRequest made es
  | made, .handleWrite _ :: es => readsAfterRequest made es

/-- One `handle_read` leaves `responses` as it was, or appends one response,
and that only while `self.request` is set. -/
theorem responses_handleRead (P : Parsers) (chunk : Bytes) (v : View) :
    (after (handleRead P chunk v)).responses = v.responses ∨
      v.inst.request.isSome ∧ ∃ response, (after (handleRead P chunk v)).responses = v.responses ++ [response] := by
  by_cases h : v.inst.responseBuffer ++ chunk = []
  · simp [handleRead_of_nil P chunk v h, after]
  rcases hq : v.inst.request with _ | request
  · simp [handleRead_of_none P chunk v h hq, after]
  rcases hp : P.response (v.inst.responseBuffer ++ chunk) request.method with e | response
  · by_cases he : e = .incompliteMessage
    · subst he
      simp [handleRead_of_incomplite P chunk v hq h hp, after]
    · simp [handleRead_of_error P chunk v hq he h hp, after]
  · by_cases hlen : (v.inst.responseBuffer ++ chunk).length ≤ response.msg.length
    · exact .inr ⟨rfl, response, by simp [handleRead_of_message P chunk v hq h hp hlen, recieveResponse]⟩
    · simp [handleRead_of_garbage P chunk v hq h hp (by omega), after]

/-- One `handle_read` records at most one response, and none while
`self.request` is unset. -/
theorem responses_handleRead_le (P : Parsers) (chunk : Bytes) (v : View) :
    (after (handleRead P chunk v)).responses.length ≤
      v.responses.length + if v.inst.request.isSome then 1 else 0 := by
  rcases responses_handleRead P chunk v with h | ⟨hq, response, h⟩
  · simp [h]
  · simp [h, hq]

/-- The responses a client records number at most its `handle_read` calls made
after its first `make_request`, whatever bytes the peer delivers. -/
theorem run_responses_le (P : Parsers) (es : List Event) :
    ∀ v, (after (run P es v)).responses.length ≤
      v.responses.length + readsAfterRequest v.inst.request.isSome es := by
  induction es with
  | nil => intro v; simp [after]
  | cons e es ih =>
    intro v
    cases e with
    | makeRequest request =>
      rcases h : makeRequest P request v with ⟨⟨⟩, v'⟩ | ⟨x, v'⟩
      · obtain ⟨-, -, hq, hresp⟩ := makeRequest_of_ok P v h
        rw [run_cons_of_ok (.makeRequest request) es h]
        simpa [readsAfterRequest, hq, hresp] using ih v'
      · obtain ⟨-, -, hresp⟩ := makeRequest_of_error P v h
        rw [run_cons_of_error (.makeRequest request) es h]
        simp [after, hresp]
    | handleRead chunk =>
      have hle := responses_handleRead_le P chunk v
      obtain ⟨-, -, hq⟩ := handleRead_frame P v chunk
      rcases h : handleRead P chunk v with ⟨⟨⟩, v'⟩ | ⟨x, v'⟩
      · rw [run_handleRead_of_ok es h]
        simp only [h, after] at hle hq
        have := ih v'
        simp only [readsAfterRequest, hq] at this ⊢
        omega
      · rw [run_handleRead_of_error es h]
        simp only [h, after] at hle ⊢
        simp only [readsAfterRequest]
        omega
    | handleWrite n =>
      rw [run_cons_of_ok (.handleWrite n) es rfl]
      simpa [readsAfterRequest] using ih _

/-- After one `make_request`, a peer that sends two complete responses in two
segments gets both recorded; where the second arrives after the next
`make_request`, whose request is not even sent yet, `wait_for_response`
returns True on it. -/
theorem surplus_response_recorded :
    (∃ v', run (fixedResponse okResponse)
        [.makeRequest requestOne, .handleRead okResponse, .handleRead okResponse] fresh = .ok () v' ∧
      ([Event.makeRequest requestOne, .handleRead okResponse, .handleRead okResponse].countP
        (· matches .makeRequest _)) < v'.responses.length) ∧
    ∃ v', run (fixedResponse okResponse)
        [.makeRequest requestOne, .handleWrite requestOne.length, .handleRead okResponse,
          .makeRequest requestTwo, .handleRead okResponse] fresh = .ok () v' ∧
      v'.inst.sent = requestOne ∧ waitForResponse v'.inst [v'.responses] = true :=
  ⟨⟨_, rfl, by decide⟩, _, rfl, rfl, rfl⟩

/-! ### Received bytes over a run -/

/-- The bytes an event delivers to the client. -/
def Event.received : Event → Bytes
  | .handleRead chunk => chunk
  | _ => []

/-- The bytes of the recorded responses, one after the other. -/
def recorded (v : View) : Bytes := (v.responses.map Response.msg).flatten

/-- `deproxy.Response` parses its message from the front of the buffer. -/
def ParsesPrefix (P : Parsers) : Prop :=
  ∀ buf method response, P.response buf method = .ok response → response.msg <+: buf

theorem parsesPrefix_fixedResponse (R : Bytes) : ParsesPrefix (fixedResponse R) := by
  intro buf _ response h
  simp only [fixedResponse] at h
  split at h
  · cases h
    exact List.isPrefixOf_iff_prefix.mp ‹_›
  · split at h <;> cases h

section Received

variable {P : Parsers} (hP : ParsesPrefix P)

theorem makeRequest_received (request : Bytes) (v : View) :
    (after (makeRequest P request v)).responses = v.responses ∧
      (after (makeRequest P request v)).inst.responseBuffer = v.inst.responseBuffer := by
  unfold makeRequest baseMakeRequest
  split <;> exact ⟨rfl, rfl⟩

include hP in
/-- One `handle_read` keeps each byte it has received, in a recorded response
or in `response_buffer`, except the response it parsed before raising
`Garbage after response end`. -/
theorem received_handleRead (chunk : Bytes) (v : View) :
    ∃ lost, recorded (after (handleRead P chunk v)) ++ lost ++ (after (handleRead P chunk v)).inst.responseBuffer =
        recorded v ++ v.inst.responseBuffer ++ chunk ∧
      (lost = [] ∨ ∃ request response, v.inst.request = some request ∧
        P.response (v.inst.responseBuffer ++ chunk) request.method = .ok response ∧ lost = response.msg ∧
        handleRead P chunk v = .error (.parseError (garbageAfterResponse (after (handleRead P chunk v)).inst.responseBuffer))
          (after (handleRead P chunk v))) := by
  by_cases h : v.inst.responseBuffer ++ chunk = []
  · exact ⟨[], by simp [handleRead_of_nil P chunk v h, after, recorded, List.append_assoc, h], .inl rfl⟩
  rcases hq : v.inst.request with _ | request
  · exact ⟨[], by simp [handleRead_of_none P chunk v h hq, after, recorded], .inl rfl⟩
  rcases hp : P.response (v.inst.responseBuffer ++ chunk) request.method with e | response
  · by_cases he : e = .incompliteMessage
    · subst he
      exact ⟨[], by simp [handleRead_of_incomplite P chunk v hq h hp, after, recorded], .inl rfl⟩
    · exact ⟨[], by simp [handleRead_of_error P chunk v hq he h hp, after, recorded], .inl rfl⟩
  obtain ⟨rest, hrest⟩ := hP _ _ _ hp
  have hdrop : (v.inst.responseBuffer ++ chunk).drop response.msg.length = rest := by
    rw [← hrest, List.drop_left]
  by_cases hlen : (v.inst.responseBuffer ++ chunk).length ≤ response.msg.length
  · have hnil : rest = [] := hdrop.symm.trans (List.drop_eq_nil_of_le hlen)
    refine ⟨[], ?_, .inl rfl⟩
    simp [handleRead_of_message P chunk v hq h hp hlen, after, recorded, recieveResponse, ← hrest, hnil]
  · have hg := handleRead_of_garbage P chunk v hq h hp (by omega)
    rw [hdrop] at hg
    refine ⟨response.msg, ?_, .inr ⟨request, response, rfl, hp, rfl, by rw [hg]; rfl⟩⟩
    simp [hg, after, recorded, ← hrest]

include hP in
theorem received_step (e : Event) (v : View) :
    ∃ lost, recorded (after (e.step P v)) ++ lost ++ (after (e.step P v)).inst.responseBuffer =
        recorded v ++ v.inst.responseBuffer ++ e.received ∧
      (lost = [] ∨ ∃ chunk request response, e = .handleRead chunk ∧ v.inst.request = some request ∧
        P.response (v.inst.responseBuffer ++ chunk) request.method = .ok response ∧ lost = response.msg ∧
        e.step P v = .error (.parseError (garbageAfterResponse (after (e.step P v)).inst.responseBuffer))
          (after (e.step P v))) := by
  cases e with
  | makeRequest request =>
    obtain ⟨hresp, hbuf⟩ := makeRequest_received (P := P) request v
    exact ⟨[], by simp [Event.step, recorded, hresp, hbuf, Event.received], .inl rfl⟩
  | handleRead chunk =>
    obtain ⟨lost, hlost, htie⟩ := received_handleRead hP chunk v
    exact ⟨lost, hlost, htie.imp_right fun ⟨request, response, hq, hp, hl, hg⟩ =>
      ⟨chunk, request, response, rfl, hq, hp, hl, hg⟩⟩
  | handleWrite n => exact ⟨[], by simp [Event.step, handleWrite, after, recorded, Event.received], .inl rfl⟩

include hP in
/-- Over a completed run of one client, the bytes of the responses it
recorded followed by `response_buffer` are the bytes it received, in order. -/
theorem run_received_ok (es : List Event) {v v' : View} (h : run P es v = .ok () v') :
    recorded v' ++ v'.inst.responseBuffer = recorded v ++ v.inst.responseBuffer ++ (es.map Event.received).flatten := by
  induction es generalizing v with
  | nil => cases h; simp
  | cons e es ih =>
    obtain ⟨lost, hlost, htie⟩ := received_step hP e v
    rcases hs : e.step P v with ⟨⟨⟩, v₁⟩ | ⟨x, v₁⟩
    · have hnil : lost = [] := htie.resolve_right fun ⟨_, _, _, _, _, _, _, h⟩ => by rw [hs] at h; cases h
      rw [hs, hnil, List.append_nil, after_ok] at hlost
      rw [run_cons_of_ok e es hs] at h
      rw [ih h, hlost]
      simp
    · rw [run_cons_of_error e es hs] at h
      cases h

end Received

end TempestaTest.Deproxy
