import Mathlib.Data.List.Basic
import TempestaTest.Method
import TempestaTest.Str

/-! The deproxy client of `framework/deproxy_client.py`: `BaseDeproxyClient`
with its receive path `handle_read`, `writable` and `make_request`, and
`DeproxyClient` with `recieve_response`, its own `make_request` and
`wait_for_response`. A method call is an `EStateM` computation whose state is
what the method can touch: the attributes of the instance and the class
attribute `DeproxyClient.responses`, which `recieve_response` appends to in
place and which is therefore one list for all instances. A raised exception
keeps the attributes assigned before it, as in Python.

The parsers `deproxy.Request` and `deproxy.Response` and the socket side of
`deproxy.Client` are not in the source; the parsers are a parameter, and the
write step is modelled from the spec. Proved here: one `handle_read` either
records exactly one response and empties the buffer, records nothing and only
accumulates, or raises with the recorded responses untouched. -/

namespace TempestaTest.Deproxy

/-- The exceptions of the client paths. -/
inductive Exc
  /-- `deproxy.IncompliteMessage`: the buffer holds a strict prefix of a message. -/
  | incompliteMessage
  /-- `deproxy.ParseError` with its message. -/
  | parseError (msg : Bytes)
  /-- `AttributeError`, from `self.request.method` while `self.request` is `None`. -/
  | attributeError
  /-- Any other exception, by its class name. -/
  | other (name : Bytes)
  deriving DecidableEq, Repr

/-- A parsed request; the client reads only its method. -/
structure Request where
  method : Bytes
  deriving DecidableEq, Repr

/-- A parsed response; the client reads only `msg`, the bytes it was parsed from. -/
structure Response where
  msg : Bytes
  deriving DecidableEq, Repr

/-- `deproxy.Request(request)` and `deproxy.Response(buffer, method=...)`, which
live in `helpers/deproxy.py`, outside the source. -/
structure Parsers where
  request : Bytes → Except Exc Request
  response : Bytes → Bytes → Except Exc Response

/-- The instance attributes of a `DeproxyClient`. `started` stands for
`self.state == stateful.STATE_STARTED`; `sent` is what the instance's socket
has sent so far. -/
structure Client where
  sent : Bytes
  requestBuffer : Bytes
  responseBuffer : Bytes
  request : Option Request
  lastResponse : Option Response
  nr : ℕ
  started : Bool
  deriving DecidableEq, Repr

/-- What a method of one `DeproxyClient` reads and writes: its instance and the
class attribute `DeproxyClient.responses`. -/
structure View where
  inst : Client
  responses : List Response
  deriving DecidableEq, Repr

namespace View

/-- `self.response_buffer = buf`. -/
def setResponseBuffer (v : View) (buf : Bytes) : View :=
  { v with inst := { v.inst with responseBuffer := buf } }

@[simp] theorem setResponseBuffer_responses (v : View) (buf : Bytes) :
    (v.setResponseBuffer buf).responses = v.responses := rfl

@[simp] theorem setResponseBuffer_responseBuffer (v : View) (buf : Bytes) :
    (v.setResponseBuffer buf).inst.responseBuffer = buf := rfl

@[simp] theorem setResponseBuffer_lastResponse (v : View) (buf : Bytes) :
    (v.setResponseBuffer buf).inst.lastResponse = v.inst.lastResponse := rfl

@[simp] theorem setResponseBuffer_request (v : View) (buf : Bytes) :
    (v.setResponseBuffer buf).inst.request = v.inst.request := rfl

@[simp] theorem setResponseBuffer_requestBuffer (v : View) (buf : Bytes) :
    (v.setResponseBuffer buf).inst.requestBuffer = v.inst.requestBuffer := rfl

@[simp] theorem setResponseBuffer_setResponseBuffer (v : View) (buf buf' : Bytes) :
    (v.setResponseBuffer buf).setResponseBuffer buf' = v.setResponseBuffer buf' := rfl

end View

/-- The message of the `ParseError` raised on bytes left after a response. -/
def garbageAfterResponse (rest : Bytes) : Bytes :=
  "Garbage after response end:\n```\n".toList ++ rest ++ "\n```\n".toList

/-! ### The receive path -/

/-- `DeproxyClient.recieve_response`. -/
def recieveResponse (response : Response) (v : View) : View :=
  { inst := { v.inst with lastResponse := some response }, responses := v.responses ++ [response] }

@[simp] theorem recieveResponse_setResponseBuffer (response : Response) (v : View) (buf buf' : Bytes) :
    (recieveResponse response (v.setResponseBuffer buf)).setResponseBuffer buf' =
      (recieveResponse response v).setResponseBuffer buf' := rfl

/-- `BaseDeproxyClient.handle_read`; `chunk` is what `self.recv` returned. -/
def handleRead (P : Parsers) (chunk : Bytes) : EStateM Exc View Unit := fun v =>
  let buf := v.inst.responseBuffer ++ chunk
  let v := v.setResponseBuffer buf
  if buf = [] then .ok () v else
  match v.inst.request with
  | none => .error .attributeError v
  | some request =>
    match P.response buf request.method with
    | .error .incompliteMessage => .ok () v
    | .error e => .error e v
    | .ok response =>
      let rest := buf.drop response.msg.length
      let v := v.setResponseBuffer rest
      if 0 < rest.length then .error (.parseError (garbageAfterResponse rest)) v
      else .ok () ((recieveResponse response v).setResponseBuffer [])

section HandleRead

variable (P : Parsers) (chunk : Bytes) (v : View)

theorem handleRead_of_nil (h : v.inst.responseBuffer ++ chunk = []) :
    handleRead P chunk v = .ok () (v.setResponseBuffer []) := by
  simp [handleRead, h]

theorem handleRead_of_none (h : v.inst.responseBuffer ++ chunk ≠ [])
    (hq : v.inst.request = none) :
    handleRead P chunk v = .error .attributeError (v.setResponseBuffer (v.inst.responseBuffer ++ chunk)) := by
  simp [handleRead, h, hq]

variable {request : Request} (hq : v.inst.request = some request)
include hq

theorem handleRead_of_incomplite (h : v.inst.responseBuffer ++ chunk ≠ [])
    (hp : P.response (v.inst.responseBuffer ++ chunk) request.method = .error .incompliteMessage) :
    handleRead P chunk v = .ok () (v.setResponseBuffer (v.inst.responseBuffer ++ chunk)) := by
  simp [handleRead, h, hq, hp]

theorem handleRead_of_error {e : Exc} (he : e ≠ .incompliteMessage)
    (h : v.inst.responseBuffer ++ chunk ≠ [])
    (hp : P.response (v.inst.responseBuffer ++ chunk) request.method = .error e) :
    handleRead P chunk v = .error e (v.setResponseBuffer (v.inst.responseBuffer ++ chunk)) := by
  cases e <;> simp_all [handleRead]

theorem handleRead_of_message {response : Response} (h : v.inst.responseBuffer ++ chunk ≠ [])
    (hp : P.response (v.inst.responseBuffer ++ chunk) request.method = .ok response)
    (hlen : (v.inst.responseBuffer ++ chunk).length ≤ response.msg.length) :
    handleRead P chunk v = .ok () ((recieveResponse response v).setResponseBuffer []) := by
  have hrest : ((v.inst.responseBuffer ++ chunk).drop response.msg.length).length = 0 := by
    simp only [List.length_drop]; omega
  simp only [handleRead, h, View.setResponseBuffer_request, hq, hp, hrest, ↓reduceIte,
    lt_self_iff_false, recieveResponse_setResponseBuffer]

theorem handleRead_of_garbage {response : Response} (h : v.inst.responseBuffer ++ chunk ≠ [])
    (hp : P.response (v.inst.responseBuffer ++ chunk) request.method = .ok response)
    (hlen : response.msg.length < (v.inst.responseBuffer ++ chunk).length) :
    handleRead P chunk v = .error
      (.parseError (garbageAfterResponse ((v.inst.responseBuffer ++ chunk).drop response.msg.length)))
      (v.setResponseBuffer ((v.inst.responseBuffer ++ chunk).drop response.msg.length)) := by
  have hrest : 0 < ((v.inst.responseBuffer ++ chunk).drop response.msg.length).length := by
    simp only [List.length_drop]; omega
  simp only [handleRead, h, View.setResponseBuffer_request, hq, hp, hrest, ↓reduceIte,
    View.setResponseBuffer_setResponseBuffer]

end HandleRead

/-- One `handle_read` records exactly one response, whose `msg` covers the
accumulated buffer, and empties the buffer; or records nothing and keeps the
accumulated bytes; or raises, leaving the recorded responses and
`last_response` as they were. -/
theorem handleRead_cases (P : Parsers) (chunk : Bytes) (v : View) :
    (∃ response v', handleRead P chunk v = .ok () v' ∧ v'.responses = v.responses ++ [response] ∧
        v'.inst.lastResponse = some response ∧ v'.inst.responseBuffer = [] ∧
        (v.inst.responseBuffer ++ chunk).length ≤ response.msg.length) ∨
    (∃ v', handleRead P chunk v = .ok () v' ∧ v'.responses = v.responses ∧
        v'.inst.lastResponse = v.inst.lastResponse ∧
        v'.inst.responseBuffer = v.inst.responseBuffer ++ chunk) ∨
    (∃ e v', handleRead P chunk v = .error e v' ∧ v'.responses = v.responses ∧
        v'.inst.lastResponse = v.inst.lastResponse) := by
  by_cases h : v.inst.responseBuffer ++ chunk = []
  · exact .inr (.inl ⟨_, handleRead_of_nil P chunk v h, rfl, rfl, h.symm ▸ rfl⟩)
  rcases hq : v.inst.request with _ | request
  · exact .inr (.inr ⟨_, _, handleRead_of_none P chunk v h hq, rfl, rfl⟩)
  rcases hp : P.response (v.inst.responseBuffer ++ chunk) request.method with e | response
  · by_cases he : e = .incompliteMessage
    · subst he
      exact .inr (.inl ⟨_, handleRead_of_incomplite P chunk v hq h hp, rfl, rfl, rfl⟩)
    · exact .inr (.inr ⟨_, _, handleRead_of_error P chunk v hq he h hp, rfl, rfl⟩)
  · by_cases hlen : (v.inst.responseBuffer ++ chunk).length ≤ response.msg.length
    · exact .inl ⟨response, _, handleRead_of_message P chunk v hq h hp hlen, rfl, rfl, rfl, hlen⟩
    · exact .inr (.inr ⟨_, _, handleRead_of_garbage P chunk v hq h hp (by omega), rfl, rfl⟩)

/-! ### The send path -/

/-- `BaseDeproxyClient.writable`. -/
def writable (c : Client) : Bool := 0 < c.requestBuffer.length

/-- `BaseDeproxyClient.make_request`: parse the request, then replace
`request_buffer` by it. -/
def baseMakeRequest (P : Parsers) (request : Bytes) : EStateM Exc View Unit := fun v =>
  match P.request request with
  | .error e => .error e v
  | .ok parsed => .ok () { v with inst := { v.inst with request := some parsed, requestBuffer := request } }

/-- `DeproxyClient.make_request`: remember `len(self.responses)` in `nr`, then
`BaseDeproxyClient.make_request`. -/
def makeRequest (P : Parsers) (request : Bytes) : EStateM Exc View Unit := fun v =>
  baseMakeRequest P request { v with inst := { v.inst with nr := v.responses.length } }

/-- Modelled from the spec: `deproxy.Client.handle_write`, which is not in the
source, sends a prefix of `request_buffer` and removes it; `n` is how many bytes
the socket took. -/
def handleWrite (n : ℕ) : EStateM Exc View Unit := fun v =>
  .ok () { v with inst := { v.inst with sent := v.inst.sent ++ v.inst.requestBuffer.take n,
                                        requestBuffer := v.inst.requestBuffer.drop n } }

/-! ### Waiting -/

/-- The loop of `DeproxyClient.wait_for_response`: `polls` are the values of
`self.responses` at its successive tests, up to the one after which the
timeout has passed. -/
def waitLoop (nr : ℕ) : List (List Response) → Bool
  | [] => false
  | responses :: polls => if responses.length = nr then waitLoop nr polls else true

/-- `DeproxyClient.wait_for_response`. -/
def waitForResponse (c : Client) (polls : List (List Response)) : Bool :=
  if c.started then waitLoop c.nr polls else false

/-! ### Runs of one client -/

/-- What the event loop and the test do to one client. -/
inductive Event
  | makeRequest (request : Bytes)
  | handleRead (chunk : Bytes)
  | handleWrite (n : ℕ)
  deriving DecidableEq, Repr

/-- One event. -/
def Event.step (P : Parsers) : Event → EStateM Exc View Unit
  | .makeRequest request => Deproxy.makeRequest P request
  | .handleRead chunk => Deproxy.handleRead P chunk
  | .handleWrite n => Deproxy.handleWrite n

/-- The events in order, up to the first exception. -/
def run (P : Parsers) : List Event → EStateM Exc View Unit
  | [] => fun v => .ok () v
  | e :: es => fun v => match e.step P v with
    | .ok () v => run P es v
    | .error x v => .error x v

section Run

variable {P : Parsers} {v v' : View}

@[simp] theorem run_nil : run P [] v = .ok () v := rfl

theorem run_cons_of_ok (e : Event) (es : List Event) (h : e.step P v = .ok () v') :
    run P (e :: es) v = run P es v' := by
  simp [run, h]

theorem run_cons_of_error (e : Event) {x : Exc} (es : List Event) (h : e.step P v = .error x v') :
    run P (e :: es) v = .error x v' := by
  simp [run, h]

theorem run_handleRead_of_ok {chunk : Bytes} (es : List Event) (h : handleRead P chunk v = .ok () v') :
    run P (.handleRead chunk :: es) v = run P es v' :=
  run_cons_of_ok (.handleRead chunk) es h

theorem run_handleRead_of_error {chunk : Bytes} {x : Exc} (es : List Event)
    (h : handleRead P chunk v = .error x v') :
    run P (.handleRead chunk :: es) v = .error x v' :=
  run_cons_of_error (.handleRead chunk) es h

/-- A run that raises ran the events before the one that raised, and that
one raised from the state they reached. -/
theorem run_eq_error {es : List Event} {x : Exc} (h : run P es v = .error x v') :
    ∃ pre e post v₀, es = pre ++ e :: post ∧ run P pre v = .ok () v₀ ∧ e.step P v₀ = .error x v' := by
  induction es generalizing v with
  | nil => cases h
  | cons e es ih =>
    rcases hs : e.step P v with ⟨⟨⟩, v₁⟩ | ⟨y, v₁⟩
    · rw [run_cons_of_ok e es hs] at h
      obtain ⟨pre, e', post, v₀, rfl, hpre, he⟩ := ih h
      exact ⟨e :: pre, e', post, v₀, rfl, (run_cons_of_ok e pre hs).trans hpre, he⟩
    · rw [run_cons_of_error e es hs] at h
      cases h
      exact ⟨[], e, es, v, rfl, rfl, hs⟩

end Run

end TempestaTest.Deproxy
