import TempestaTest.Deproxy.Client

/-! Fragmentation of the client's receive path. `Frames` is what is assumed of
`deproxy.Response` on a set of well-formed responses: a strict prefix of one is
incomplete, and one followed by any bytes parses to itself. Chunks are aligned
with a sequence of responses when every response ends at a chunk end.

Proved: after `make_request`, feeding any cutting of well-formed responses
`R₁ … Rₖ` into non-empty chunks to successive `handle_read` calls records all
of them and raises nothing exactly when the chunks are aligned; otherwise the
run raises `ParseError` on the first chunk that holds the end of a response and
bytes after it, having recorded only the responses before it. The client does
not parse pipelined responses, so fragmentation decides the outcome there. -/

namespace TempestaTest.Deproxy

/-- What is assumed of `deproxy.Response` on the well-formed responses `wf`: a
well-formed response is not empty, each strict prefix of one is incomplete, and
one followed by any bytes parses to itself. -/
structure Frames (P : Parsers) (wf : Bytes → Prop) : Prop where
  ne_nil : ∀ R, wf R → R ≠ []
  incomplite : ∀ R p method, wf R → p <+: R → p ≠ R → P.response p method = .error .incompliteMessage
  message : ∀ R rest method, wf R → P.response (R ++ rest) method = .ok ⟨R⟩

/-- The chunks `cs` cut the responses `Rs` at their ends: they group into one
run of chunks per response. -/
def Aligned (cs Rs : List Bytes) : Prop :=
  ∃ gs : List (List Bytes), gs.flatten = cs ∧ gs.map List.flatten = Rs

/-! ### Alignment -/

theorem eq_nil_of_flatten_eq_nil {cs : List Bytes} (hne : ∀ c ∈ cs, c ≠ []) (h : cs.flatten = []) :
    cs = [] := by
  rcases cs with _ | ⟨c, cs⟩
  · rfl
  · exact absurd (List.flatten_eq_nil_iff.mp h c (List.mem_cons_self _ _)) (hne c (List.mem_cons_self _ _))

section Aligned

variable {c r : Bytes} {cs Rs : List Bytes}

theorem aligned_nil : Aligned [] [] := ⟨[], rfl, rfl⟩

/-- Aligned with responses `r :: Rs`: the first group of chunks makes `r`. -/
theorem aligned_iff_cons :
    Aligned cs (r :: Rs) ↔ ∃ (g : List Bytes) (gs : List (List Bytes)),
      cs = g ++ gs.flatten ∧ r = g.flatten ∧ Rs = gs.map List.flatten := by
  constructor
  · rintro ⟨(_ | ⟨g, gs⟩), rfl, hmap⟩
    · simp at hmap
    · simp only [List.map_cons, List.cons.injEq] at hmap
      exact ⟨g, gs, rfl, hmap.1.symm, hmap.2.symm⟩
  · rintro ⟨g, gs, rfl, rfl, rfl⟩
    exact ⟨g :: gs, rfl, rfl⟩

/-- When the first response is not empty, the first chunk opens its group. -/
theorem aligned_cons_iff (hr : r ≠ []) :
    Aligned (c :: cs) (r :: Rs) ↔
      ∃ (g : List Bytes) (gs : List (List Bytes)),
        cs = g ++ gs.flatten ∧ r = c ++ g.flatten ∧ Rs = gs.map List.flatten := by
  rw [aligned_iff_cons]
  constructor
  · rintro ⟨(_ | ⟨d, g⟩), gs, hcs, rfl, rfl⟩
    · simp at hr
    · simp only [List.cons_append, List.cons.injEq] at hcs
      obtain ⟨rfl, rfl⟩ := hcs
      exact ⟨g, gs, rfl, rfl, rfl⟩
  · rintro ⟨g, gs, rfl, rfl, rfl⟩
    exact ⟨c :: g, gs, rfl, rfl, rfl⟩

/-- A chunk that ends strictly inside the first response joins its group. -/
theorem aligned_cons_inside_iff (hc : c ≠ []) :
    Aligned (c :: cs) ((c ++ r) :: Rs) ↔ Aligned cs (r :: Rs) := by
  rw [aligned_cons_iff (by simp [hc]), aligned_iff_cons]
  simp only [List.append_cancel_left_eq]

/-- A chunk that ends where the first response ends is a group of its own. -/
theorem aligned_cons_end_iff (hne : ∀ d ∈ c :: cs, d ≠ []) :
    Aligned (c :: cs) (c :: Rs) ↔ Aligned cs Rs := by
  rw [aligned_cons_iff (hne c (List.mem_cons_self _ _))]
  constructor
  · rintro ⟨g, gs, rfl, hg, rfl⟩
    obtain rfl : g = [] := eq_nil_of_flatten_eq_nil (fun d hd => hne d (by simp [hd]))
      (by simpa using hg)
    exact ⟨gs, rfl, rfl⟩
  · rintro ⟨gs, rfl, rfl⟩
    exact ⟨[], gs, rfl, by simp, rfl⟩

/-- A chunk that runs past the end of the first response is never aligned. -/
theorem not_aligned_of_straddle {x : Bytes} (hr : r ≠ []) (hx : x ≠ []) :
    ¬ Aligned ((r ++ x) :: cs) (r :: Rs) := by
  rw [aligned_cons_iff hr]
  rintro ⟨g, gs, -, h, -⟩
  have := congrArg List.length h
  simp only [List.length_append] at this
  exact hx (List.length_eq_zero.mp (by omega))

end Aligned

/-! ### One chunk -/

section Step

variable {P : Parsers} {wf : Bytes → Prop} (hP : Frames P wf) {R : Bytes} (hR : wf R)
  {v : View} {request : Request} (hq : v.inst.request = some request) (chunk : Bytes)
include hP hR hq

theorem handleRead_inside (hpre : v.inst.responseBuffer ++ chunk <+: R)
    (hne : v.inst.responseBuffer ++ chunk ≠ R) (hnil : v.inst.responseBuffer ++ chunk ≠ []) :
    handleRead P chunk v = .ok () (v.setResponseBuffer (v.inst.responseBuffer ++ chunk)) :=
  handleRead_of_incomplite P chunk v hq hnil (hP.incomplite R _ _ hR hpre hne)

theorem handleRead_end (h : v.inst.responseBuffer ++ chunk = R) :
    handleRead P chunk v = .ok () ((recieveResponse ⟨R⟩ v).setResponseBuffer []) := by
  refine handleRead_of_message P chunk v hq (h ▸ hP.ne_nil R hR) ?_ (by rw [h])
  simpa [h] using hP.message R [] request.method hR

theorem handleRead_straddle {x : Bytes} (h : v.inst.responseBuffer ++ chunk = R ++ x) (hx : x ≠ []) :
    handleRead P chunk v = .error (.parseError (garbageAfterResponse x))
      (v.setResponseBuffer x) := by
  have hlen : R.length < (v.inst.responseBuffer ++ chunk).length := by
    rw [h, List.length_append]
    exact Nat.lt_add_of_pos_right (List.length_pos.mpr hx)
  have hgarbage := handleRead_of_garbage P chunk v hq (by rw [h]; simp [hx])
    (by rw [h]; exact hP.message R x _ hR) hlen
  simpa only [h, List.drop_left] using hgarbage

end Step

/-! ### A run of chunks -/

section Run

variable {P : Parsers} {wf : Bytes → Prop} (hP : Frames P wf) {request : Request}
include hP

/-- The two ends of a run of `handle_read` calls, from a buffer holding the
start of the response `response_buffer ++ r`, followed by the responses `Rs`. -/
theorem run_reads_from (cs : List Bytes) :
    ∀ (v : View) (r : Bytes) (Rs : List Bytes), v.inst.request = some request →
      wf (v.inst.responseBuffer ++ r) → r ≠ [] → (∀ R ∈ Rs, wf R) → (∀ c ∈ cs, c ≠ []) →
      cs.flatten = r ++ Rs.flatten →
      (Aligned cs (r :: Rs) ∧ ∃ v', run P (cs.map .handleRead) v = .ok () v' ∧
          v'.responses = v.responses ++ ((v.inst.responseBuffer ++ r) :: Rs).map Response.mk ∧
          v'.inst.responseBuffer = []) ∨
      (¬ Aligned cs (r :: Rs) ∧ ∃ j < Rs.length + 1, ∃ x v',
          run P (cs.map .handleRead) v = .error (.parseError (garbageAfterResponse x)) v' ∧
          v'.responses = v.responses ++ (((v.inst.responseBuffer ++ r) :: Rs).take j).map Response.mk) := by
  induction cs with
  | nil =>
    intro v r Rs _ _ hr _ _ hflat
    exact absurd (List.append_eq_nil.mp hflat.symm).1 hr
  | cons c cs ih =>
    intro v r Rs hq hwf hr hRs hne hflat
    have hc : c ≠ [] := hne c (List.mem_cons_self _ _)
    have hne' : ∀ d ∈ cs, d ≠ [] := fun d hd => hne d (List.mem_cons_of_mem _ hd)
    simp only [List.flatten_cons, List.map_cons] at hflat ⊢
    by_cases hcr : c = r
    · -- the chunk ends the response
      subst hcr
      rw [run_handleRead_of_ok _ (handleRead_end hP hwf hq c rfl)]
      rcases Rs with _ | ⟨R, Rs⟩
      · obtain rfl : cs = [] := eq_nil_of_flatten_eq_nil hne' (by simpa using hflat)
        exact .inl ⟨(aligned_cons_end_iff hne).mpr aligned_nil, _, rfl, by simp [recieveResponse], rfl⟩
      have hR : wf R := hRs R (List.mem_cons_self _ _)
      rcases ih ((recieveResponse ⟨v.inst.responseBuffer ++ c⟩ v).setResponseBuffer []) R Rs hq
          (by simpa using hR) (hP.ne_nil R hR)
          (fun R' h => hRs R' (List.mem_cons_of_mem _ h)) hne' (by simpa using hflat) with
        ⟨ha, v', hrun, hresp, hbuf⟩ | ⟨ha, j, hj, x, v', hrun, hresp⟩
      · exact .inl ⟨(aligned_cons_end_iff hne).mpr ha, v', hrun,
          by simp [hresp, recieveResponse], hbuf⟩
      · exact .inr ⟨mt (aligned_cons_end_iff hne).mp ha, j + 1, by simp; omega, x, v', hrun,
          by simp [hresp, recieveResponse]⟩
    rcases List.append_eq_append_iff.mp hflat with ⟨a, rfl, hcs⟩ | ⟨x, rfl, -⟩
    · -- the chunk ends inside the response
      have ha : a ≠ [] := by rintro rfl; simp at hcr
      have hstep := handleRead_inside hP hwf hq c
        (by rw [← List.append_assoc]; exact List.prefix_append _ a) (by simpa using ha) (by simp [hc])
      rw [run_handleRead_of_ok _ hstep]
      rcases ih (v.setResponseBuffer (v.inst.responseBuffer ++ c)) a Rs hq (by simpa using hwf) ha
          hRs hne' hcs with
        ⟨hal, v', hrun, hresp, hbuf⟩ | ⟨hal, j, hj, x, v', hrun, hresp⟩
      · exact .inl ⟨(aligned_cons_inside_iff hc).mpr hal, v', hrun, by simpa using hresp, hbuf⟩
      · exact .inr ⟨mt (aligned_cons_inside_iff hc).mp hal, j, hj, x, v', hrun,
          by simpa using hresp⟩
    · -- the chunk runs past the end of the response
      have hx : x ≠ [] := by rintro rfl; simp at hcr
      rw [run_handleRead_of_error _ (handleRead_straddle hP hwf hq _ (List.append_assoc _ _ _).symm hx)]
      exact .inr ⟨not_aligned_of_straddle hr hx, 0, by omega, x, _, rfl, by simp⟩

/-- After `make_request`, from an empty buffer, a cutting of well-formed
responses into non-empty chunks records them all and raises nothing exactly
when it is aligned with them; otherwise it raises `ParseError` on leftover
bytes, having recorded a proper prefix of them. -/
theorem run_reads {v : View} (hq : v.inst.request = some request) (hb : v.inst.responseBuffer = [])
    (Rs : List Bytes) (hRs : ∀ R ∈ Rs, wf R) (cs : List Bytes) (hne : ∀ c ∈ cs, c ≠ [])
    (hflat : cs.flatten = Rs.flatten) :
    (Aligned cs Rs ∧ ∃ v', run P (cs.map .handleRead) v = .ok () v' ∧
        v'.responses = v.responses ++ Rs.map Response.mk ∧ v'.inst.responseBuffer = []) ∨
    (¬ Aligned cs Rs ∧ ∃ j < Rs.length, ∃ x v',
        run P (cs.map .handleRead) v = .error (.parseError (garbageAfterResponse x)) v' ∧
        v'.responses = v.responses ++ (Rs.take j).map Response.mk) := by
  rcases Rs with _ | ⟨R, Rs⟩
  · obtain rfl : cs = [] := eq_nil_of_flatten_eq_nil hne hflat
    exact .inl ⟨aligned_nil, v, rfl, by simp, hb⟩
  have hR := hRs R (List.mem_cons_self _ _)
  simpa [hb] using run_reads_from hP cs v R Rs hq (by simpa [hb] using hR) (hP.ne_nil R hR)
    (fun R' h => hRs R' (List.mem_cons_of_mem _ h)) hne hflat

end Run

/-! ### A parser with one well-formed response -/

/-- A `deproxy.Response` that knows one response `R`: a strict prefix of `R`
is incomplete, and `R` followed by anything parses to `R`. -/
def fixedResponse (R : Bytes) : Parsers where
  request _ := .ok ⟨"GET".toList⟩
  response buf _ :=
    if R.isPrefixOf buf then .ok ⟨R⟩
    else if buf.isPrefixOf R then .error .incompliteMessage
    else .error (.parseError "bad response".toList)

theorem frames_fixedResponse {R : Bytes} (hR : R ≠ []) : Frames (fixedResponse R) (· = R) where
  ne_nil _ h := h ▸ hR
  incomplite R' p _ h hp hne := by
    subst h
    have hnot : ¬ R' <+: p := fun h' => hne (hp.eq_of_length (le_antisymm hp.length_le h'.length_le))
    simp [fixedResponse, hnot, hp]
  message R' rest _ h := by
    subst h
    simp [fixedResponse]

/-- A complete response with an empty body. -/
def okResponse : Bytes := "HTTP/1.1 200 OK\r\nContent-Length: 0\r\n\r\n".toList

/-- A client right after `make_request`, with nothing received. -/
def afterRequest : View :=
  ⟨⟨[], "GET / HTTP/1.1\r\n\r\n".toList, [], some ⟨"GET".toList⟩, none, 0, true⟩, []⟩

theorem run_reads_okResponse :
    (Aligned [okResponse, okResponse] [okResponse, okResponse] ∧
      ∃ v', run (fixedResponse okResponse) [.handleRead okResponse, .handleRead okResponse] afterRequest =
        .ok () v' ∧ v'.responses = afterRequest.responses ++ [⟨okResponse⟩, ⟨okResponse⟩] ∧
        v'.inst.responseBuffer = []) ∨
    (¬ Aligned [okResponse, okResponse] [okResponse, okResponse] ∧ ∃ j < 2, ∃ x v',
      run (fixedResponse okResponse) [.handleRead okResponse, .handleRead okResponse] afterRequest =
        .error (.parseError (garbageAfterResponse x)) v' ∧
      v'.responses = afterRequest.responses ++ ([okResponse, okResponse].take j).map Response.mk) :=
  run_reads (frames_fixedResponse (by decide)) rfl rfl [okResponse, okResponse] (by simp)
    [okResponse, okResponse] (by decide) rfl

/-- Two responses in one chunk raise `ParseError`; the same bytes in two chunks
record both. -/
theorem pipelined_responses_one_chunk :
    Frames (fixedResponse okResponse) (· = okResponse) ∧
    (∃ v', run (fixedResponse okResponse) [.handleRead (okResponse ++ okResponse)] afterRequest =
      .error (.parseError (garbageAfterResponse okResponse)) v' ∧ v'.responses = []) ∧
    (∃ v', run (fixedResponse okResponse) [.handleRead okResponse, .handleRead okResponse] afterRequest =
      .ok () v' ∧ v'.responses = [⟨okResponse⟩, ⟨okResponse⟩]) :=
  ⟨frames_fixedResponse (by decide), ⟨_, rfl, rfl⟩, ⟨_, rfl, rfl⟩⟩

end TempestaTest.Deproxy
