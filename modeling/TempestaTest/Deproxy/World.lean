import TempestaTest.Deproxy.Requests

/-! Several `DeproxyClient` instances driven by one event loop. Each instance
has its own attributes, but `responses` is a class attribute that
`recieve_response` appends to in place, so every instance reads and extends
the same list. Over whole runs of events on the other instances, a client
keeps its own attributes while the shared list only grows, and its
`wait_for_response` returns True exactly when one of the others has recorded
a response, though the client itself received nothing. -/

namespace TempestaTest.Deproxy

/-- All `DeproxyClient` instances, by index, and the class attribute. -/
structure World where
  responses : List Response
  clients : ℕ → Client

namespace World

/-- What a method of the instance `i` sees. -/
def view (w : World) (i : ℕ) : View := ⟨w.clients i, w.responses⟩

/-- Write back what a method of the instance `i` left. -/
def put (w : World) (i : ℕ) (v : View) : World :=
  ⟨v.responses, Function.update w.clients i v.inst⟩

@[simp] theorem put_responses (w : World) (i : ℕ) (v : View) : (w.put i v).responses = v.responses := rfl

@[simp] theorem put_clients_self (w : World) (i : ℕ) (v : View) : (w.put i v).clients i = v.inst := by
  simp [put]

theorem put_clients_other (w : World) {i j : ℕ} (v : View) (hij : i ≠ j) :
    (w.put j v).clients i = w.clients i := by
  simp [put, hij]

/-- The event `e` on the instance `i`. -/
def step (P : Parsers) (w : World) (i : ℕ) (e : Event) : EStateM.Result Exc World Unit :=
  match e.step P (w.view i) with
  | .ok () v => .ok () (w.put i v)
  | .error x v => .error x (w.put i v)

/-- Events on any instances, in the order the event loop and the tests run
them, up to the first exception. -/
def run (P : Parsers) : List (ℕ × Event) → World → EStateM.Result Exc World Unit
  | [], w => .ok () w
  | (i, e) :: es, w => match step P w i e with
    | .ok () w => run P es w
    | .error x w => .error x w

theorem after_step (P : Parsers) (w : World) (i : ℕ) (e : Event) :
    after (step P w i e) = w.put i (after (e.step P (w.view i))) := by
  rcases h : e.step P (w.view i) with ⟨⟨⟩, v⟩ | ⟨x, v⟩ <;> simp [step, h]

/-- A relation between worlds that every event keeps, from the world before
it to the one after, holds from the world before a run to the one it leaves,
completed or raised. -/
theorem run_of_step (P : Parsers) {R : World → World → Prop} (hrefl : ∀ w, R w w)
    (htrans : ∀ {a b c}, R a b → R b c → R a c) :
    ∀ (es : List (ℕ × Event)) (w : World), (∀ p ∈ es, ∀ w', R w' (after (step P w' p.1 p.2))) →
      R w (after (run P es w))
  | [], w, _ => hrefl w
  | (j, e) :: es, w, h => by
    have hstep := h (j, e) (List.mem_cons_self _ _) w
    rcases hs : step P w j e with ⟨⟨⟩, w'⟩ | ⟨x, w'⟩ <;> rw [hs] at hstep
    · simp only [run, hs]
      exact htrans hstep (run_of_step P hrefl htrans es w' fun p hp => h p (List.mem_cons_of_mem _ hp))
    · simpa [run, hs] using hstep

/-- Over a whole run of events on other instances, completed or raised, the
attributes of the instance `i` stay as they were. -/
theorem run_clients_other (P : Parsers) (i : ℕ) (es : List (ℕ × Event)) (w : World) (h : ∀ p ∈ es, p.1 ≠ i) :
    (after (run P es w)).clients i = w.clients i :=
  run_of_step P (R := fun w w' => w'.clients i = w.clients i) (fun _ => rfl) (fun hab hbc => hbc.trans hab) es w
    fun p hp w' => by dsimp only; rw [after_step, put_clients_other w' _ (h p hp).symm]

/-- One event leaves the class attribute `responses` as it was or appends to it. -/
theorem isPrefix_responses_step (P : Parsers) (e : Event) (v : View) :
    v.responses <+: (after (e.step P v)).responses := by
  cases e with
  | makeRequest request =>
    show v.responses <+: (after (makeRequest P request v)).responses
    simp [(makeRequest_received (P := P) request v).1]
  | handleRead chunk =>
    show v.responses <+: (after (handleRead P chunk v)).responses
    rcases responses_handleRead P chunk v with h | ⟨-, response, h⟩ <;> simp [h]
  | handleWrite n => exact List.prefix_refl _

/-- Over a run, completed or raised, the class attribute `responses` only grows. -/
theorem isPrefix_responses_run (P : Parsers) (es : List (ℕ × Event)) (w : World) :
    w.responses <+: (after (run P es w)).responses :=
  run_of_step P (R := fun w w' => w.responses <+: w'.responses) (fun w => List.prefix_refl w.responses)
    (fun hab hbc => hab.trans hbc) es w fun p _ w' => by
      dsimp only
      rw [after_step, put_responses]
      exact isPrefix_responses_step P p.2 (w'.view p.1)

/-- Over a run of events on the other instances, completed or raised, a
client that has made a request and seen every response since keeps its own
attributes, the shared `responses` only grows, and its `wait_for_response`
returns True exactly when another instance has recorded a response meanwhile. -/
theorem run_others_wait (P : Parsers) {i : ℕ} (es : List (ℕ × Event)) (w : World) (hes : ∀ p ∈ es, p.1 ≠ i)
    (hstarted : (w.clients i).started = true) (hnr : (w.clients i).nr = w.responses.length) :
    (after (run P es w)).clients i = w.clients i ∧ w.responses <+: (after (run P es w)).responses ∧
      (waitForResponse ((after (run P es w)).clients i) [(after (run P es w)).responses] = true ↔
        w.responses.length < (after (run P es w)).responses.length) := by
  have hi := run_clients_other P i es w hes
  have hle := (isPrefix_responses_run P es w).length_le
  refine ⟨hi, isPrefix_responses_run P es w, ?_⟩
  rw [hi]
  simp only [waitForResponse, hstarted, if_true, waitLoop, hnr]
  split <;> simp <;> omega

end World

/-- Two fresh clients. -/
def twoClients : World := ⟨[], fun _ => fresh.inst⟩

theorem run_others_wait_twoClients :
    let w := after (World.run (fixedResponse okResponse) [(0, .makeRequest requestOne)] twoClients)
    let es : List (ℕ × Event) := [(1, .makeRequest requestTwo), (1, .handleRead okResponse)]
    (∀ p ∈ es, p.1 ≠ 0) ∧ (w.clients 0).started = true ∧ (w.clients 0).nr = w.responses.length ∧
      (after (World.run (fixedResponse okResponse) es w)).clients 0 = w.clients 0 ∧
        w.responses <+: (after (World.run (fixedResponse okResponse) es w)).responses ∧
        (waitForResponse ((after (World.run (fixedResponse okResponse) es w)).clients 0)
            [(after (World.run (fixedResponse okResponse) es w)).responses] = true ↔
          w.responses.length < (after (World.run (fixedResponse okResponse) es w)).responses.length) :=
  ⟨by decide, rfl, rfl, World.run_others_wait _ _ _ (by decide) rfl rfl⟩

/-- When another instance's `handle_read` records a response, a client that
has made a request and recorded nothing since sees `wait_for_response`
return True, though its own attributes did not change. -/
theorem waitForResponse_of_other_handleRead (P : Parsers) (w : World) {i j : ℕ} (hij : i ≠ j)
    (chunk : Bytes) (hstarted : (w.clients i).started = true) (hnr : (w.clients i).nr = w.responses.length)
    {response : Response} {w' : World} (hj : World.step P w j (.handleRead chunk) = .ok () w')
    (hrec : w'.responses = w.responses ++ [response]) :
    w'.clients i = w.clients i ∧ waitForResponse (w'.clients i) [w'.responses] = true := by
  have hw' : w' = w.put j (after (handleRead P chunk (w.view j))) := by
    simpa [hj] using World.after_step P w j (.handleRead chunk)
  have hi : w'.clients i = w.clients i := by rw [hw', World.put_clients_other w _ hij]
  refine ⟨hi, ?_⟩
  simp [hi, waitForResponse, waitLoop, hstarted, hnr, hrec]

theorem other_client_response_satisfies_wait :
    ∃ w, World.run (fixedResponse okResponse)
        [(0, .makeRequest requestOne), (1, .makeRequest requestTwo), (1, .handleRead okResponse)]
        twoClients = .ok () w ∧
      (w.clients 0).responseBuffer = [] ∧ (w.clients 0).lastResponse = none ∧
      (w.view 0).responses = [⟨okResponse⟩] ∧ waitForResponse (w.clients 0) [w.responses] = true :=
  ⟨_, rfl, rfl, rfl, rfl, rfl⟩

end TempestaTest.Deproxy
