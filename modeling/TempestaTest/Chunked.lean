import TempestaTest.Str

/-! The chunked body that `TestTransformPayload.make_chain` of
`msg_modification/tests_encode_to_chunked.py` expects the client to receive,
and the chunked decoding of the deproxy message parser. The parser is not in
the source, so its chunked decoding is modelled from the spec: chunk-size
lines in hex, exactly that many bytes and a CRLF after each, until a chunk of
size zero and the terminating CRLF, with the spec's `Incomplete` and
`Malformed` outcomes. Proved: for every body, the decoder reads
`make_chain`'s chunked body back to exactly that body and consumes all of it,
whatever bytes the body holds and however many digits its length has in hex,
and reads every strict prefix of it as `Incomplete`, never as `Malformed`.
The headers and the server response of the chain are not modelled. -/

namespace TempestaTest.Chunked

open Str

/-- `'\r\n'`. -/
def crlf : Bytes := ['\r', '\n']

/-- `'0\r\n\r\n'`: the chunk of size zero and the empty trailer. -/
def lastChunk : Bytes := ['0', '\r', '\n', '\r', '\n']

/-- `TestTransformPayload.make_body`: `body_len` letters cycling through the alphabet. -/
def makeBody (bodyLen : ℕ) : Bytes :=
  (List.range bodyLen).map fun i => Char.ofNat (i % 26 + 'a'.toNat)

/-- The `chunked_body` of `TestTransformPayload.make_chain`:
`'\r\n'.join(['%X' % len(body), body, '0', '', ''])`, and
`'\r\n'.join(['0', '', ''])` for an empty body. -/
def chunkedBody (body : Bytes) : Bytes :=
  if body ≠ [] then crlf.intercalate [formatHex body.length, body, ['0'], [], []]
  else crlf.intercalate [['0'], [], []]

example : chunkedBody (makeBody 3) = "3\r\nabc\r\n0\r\n\r\n".toList := by decide

theorem chunkedBody_of_ne_nil {body : Bytes} (h : body ≠ []) :
    chunkedBody body = formatHex body.length ++ crlf ++ body ++ crlf ++ lastChunk := by
  simp [chunkedBody, h, crlf, lastChunk, List.intercalate]

theorem chunkedBody_nil : chunkedBody [] = lastChunk := rfl

theorem chunkedBody_ne_nil (body : Bytes) : chunkedBody body ≠ [] := by
  by_cases h : body = []
  · simp [h, chunkedBody_nil, lastChunk]
  · simp [chunkedBody_of_ne_nil h, lastChunk]

/-! ### Chunked decoding -/

/-- What a decoding step reads: a value and the input after it, or one of
the outcomes `Incomplete` (more bytes are needed) and `Malformed`. -/
inductive Read (α : Type)
  | done (a : α) (rest : Bytes)
  | incomplete
  | malformed
  deriving DecidableEq, Repr

/-- Read with `r`, then go on from what it read and the input after it. -/
def Read.andThen (r : Read α) (f : α → Bytes → Read β) : Read β :=
  match r with
  | .done a rest => f a rest
  | .incomplete => .incomplete
  | .malformed => .malformed

@[simp] theorem Read.done_andThen (a : α) (rest : Bytes) (f : α → Bytes → Read β) :
    (Read.done a rest).andThen f = f a rest := rfl

/-- The value of a hex digit of either case. -/
def hexValue (c : Char) : Option ℕ :=
  if '0' ≤ c ∧ c ≤ '9' then some (c.toNat - '0'.toNat)
  else if 'a' ≤ c ∧ c ≤ 'f' then some (c.toNat - 'a'.toNat + 10)
  else if 'A' ≤ c ∧ c ≤ 'F' then some (c.toNat - 'A'.toNat + 10)
  else none

/-- Modelled from the spec: the CRLF that ends a line and a chunk. -/
def readCrlf : Bytes → Read Unit
  | '\r' :: '\n' :: rest => .done () rest
  | [] | ['\r'] => .incomplete
  | _ => .malformed

theorem readCrlf_crlf (rest : Bytes) : readCrlf (crlf ++ rest) = .done () rest := rfl

/-- Modelled from the spec: the rest of a chunk-size line, hex digits and
CRLF, after digits of value `acc`; `seen` says whether a digit was read. -/
def readChunkSize (acc : ℕ) (seen : Bool) : Bytes → Read ℕ
  | [] => .incomplete
  | c :: s =>
    match hexValue c with
    | some d => readChunkSize (acc * 16 + d) true s
    | none => if seen then (readCrlf (c :: s)).andThen fun () rest => .done acc rest else .malformed

/-- Modelled from the spec: the chunks after the body bytes `body` read so
far. A chunk-size line, then that many bytes and CRLF, repeated until a chunk
of size zero, which the terminating CRLF ends; `fuel` bounds the number of chunks. -/
def readChunks : ℕ → Bytes → Bytes → Read Bytes
  | 0, _, _ => .incomplete
  | fuel + 1, body, s => (readChunkSize 0 false s).andThen fun n data =>
    if n = 0 then (readCrlf data).andThen fun () rest => .done body rest
    else if data.length < n then .incomplete
    else (readCrlf (data.drop n)).andThen fun () rest => readChunks fuel (body ++ data.take n) rest

/-- Modelled from the spec: the chunked decoding of a message body, with one
round for each byte of the input and one more. -/
def decodeChunked (s : Bytes) : Read Bytes := readChunks (s.length + 1) [] s

/-! ### Reading back what `make_chain` writes -/

theorem hexValue_hexChar : ∀ d < 16, hexValue (hexChar d) = some d := by decide

/-- A chunk-size line of the digits `L` reads back to their value after `acc`. -/
theorem readChunkSize_digits (rest : Bytes) :
    ∀ (L : List ℕ) (acc : ℕ) (seen : Bool), (∀ d ∈ L, d < 16) → (seen = true ∨ L ≠ []) →
      readChunkSize acc seen (L.map hexChar ++ crlf ++ rest) =
        .done (L.foldl (fun v d => v * 16 + d) acc) rest
  | [], acc, seen, _, hs => by
    have : seen = true := by simpa using hs
    simp [readChunkSize, crlf, hexValue, this, readCrlf]
  | d :: L, acc, seen, hL, _ => by
    have hd : hexValue (hexChar d) = some d := hexValue_hexChar d (hL d (by simp))
    simp only [List.map_cons, List.cons_append, readChunkSize, hd, List.foldl_cons]
    exact readChunkSize_digits rest L _ true (fun d h => hL d (by simp [h])) (.inl rfl)

theorem readChunkSize_formatHex (n : ℕ) (rest : Bytes) :
    readChunkSize 0 false (formatHex n ++ (crlf ++ rest)) = .done n rest := by
  obtain ⟨L, hL, hne, hlt, hval⟩ := formatHex_digits n
  rw [hL, ← List.append_assoc, readChunkSize_digits rest L 0 false hlt (.inr hne), hval]

/-- One chunk of data, with its size in hex, adds the data to the body. -/
theorem readChunks_chunk (fuel : ℕ) (body data rest : Bytes) (h : data ≠ []) :
    readChunks (fuel + 1) body (formatHex data.length ++ crlf ++ data ++ crlf ++ rest) =
      readChunks fuel (body ++ data) rest := by
  have hn : data.length ≠ 0 := by simpa using h
  have hlt : ¬(data ++ (crlf ++ rest)).length < data.length := by simp
  simp only [readChunks, List.append_assoc, readChunkSize_formatHex, Read.done_andThen, hn, hlt,
    if_false, List.drop_left, List.take_left, readCrlf_crlf]

/-- The last chunk and the terminating CRLF end the body. -/
theorem readChunks_last (fuel : ℕ) (body rest : Bytes) :
    readChunks (fuel + 1) body (lastChunk ++ rest) = .done body rest := rfl

theorem readChunks_chunkedBody (fuel : ℕ) (body rest : Bytes) :
    readChunks (fuel + 2) [] (chunkedBody body ++ rest) = .done body rest := by
  by_cases h : body = []
  · subst h
    rfl
  · rw [chunkedBody_of_ne_nil h]
    simpa [List.append_assoc] using
      (readChunks_chunk (fuel + 1) [] body (lastChunk ++ rest) h).trans
        (readChunks_last fuel body rest)

/-- The decoder reads the chunked body of `make_chain` back to exactly the
body, and consumes all of it. -/
theorem decodeChunked_chunkedBody (body : Bytes) :
    decodeChunked (chunkedBody body) = .done body [] := by
  have hlen : 0 < (chunkedBody body).length := List.length_pos.mpr (chunkedBody_ne_nil body)
  have h := readChunks_chunkedBody ((chunkedBody body).length - 1) body []
  have hfuel : (chunkedBody body).length - 1 + 2 = (chunkedBody body).length + 1 := by omega
  rwa [List.append_nil, hfuel] at h

/-! ### Pieces of a chunked body -/

@[simp] theorem Read.incomplete_andThen (f : α → Bytes → Read β) :
    (Read.incomplete : Read α).andThen f = .incomplete := rfl

theorem readCrlf_take : ∀ k < 2, readCrlf (crlf.take k) = .incomplete := by decide

theorem readChunks_take_lastChunk (fuel : ℕ) (body : Bytes) :
    ∀ m < 5, readChunks (fuel + 1) body (lastChunk.take m) = .incomplete
  | 0, _ | 1, _ | 2, _ | 3, _ | 4, _ => rfl
  | _ + 5, h => absurd h (by omega)

/-- A strict prefix of a chunk-size line of the digits `L` is incomplete. -/
theorem readChunkSize_take_digits :
    ∀ (L : List ℕ) (acc : ℕ) (seen : Bool) (k : ℕ), (∀ d ∈ L, d < 16) → (seen = true ∨ L ≠ []) →
      k < L.length + 2 → readChunkSize acc seen ((L.map hexChar ++ crlf).take k) = .incomplete
  | [], acc, seen, k, _, hs, hk => by
    have : seen = true := by simpa using hs
    match k, hk with
    | 0, _ => rfl
    | 1, _ => simp [readChunkSize, crlf, hexValue, this, readCrlf]
  | d :: L, acc, seen, k, hL, _, hk => by
    rcases k with _ | k
    · rfl
    have hd : hexValue (hexChar d) = some d := hexValue_hexChar d (hL d (by simp))
    simp only [List.map_cons, List.cons_append, List.take_succ_cons, readChunkSize, hd]
    exact readChunkSize_take_digits L _ true k (fun d h => hL d (by simp [h])) (.inl rfl)
      (by simpa using hk)

/-- Every strict prefix of `make_chain`'s chunked body reads as `Incomplete`. -/
theorem readChunks_take_chunkedBody (fuel : ℕ) (body : Bytes) {k : ℕ}
    (hk : k < (chunkedBody body).length) :
    readChunks (fuel + 2) [] ((chunkedBody body).take k) = .incomplete := by
  by_cases h : body = []
  · subst h
    exact readChunks_take_lastChunk (fuel + 1) [] k (by simpa [chunkedBody_nil, lastChunk] using hk)
  have hn : body.length ≠ 0 := by simpa using h
  obtain ⟨L, hL, hne, hlt, -⟩ := formatHex_digits body.length
  rw [chunkedBody_of_ne_nil h, show formatHex body.length ++ crlf ++ body ++ crlf ++ lastChunk =
    (formatHex body.length ++ crlf) ++ (body ++ (crlf ++ lastChunk)) by simp] at hk ⊢
  by_cases hline : k < (formatHex body.length ++ crlf).length
  · -- the prefix ends inside the chunk-size line
    have hsize : readChunkSize 0 false ((formatHex body.length ++ crlf).take k) = .incomplete := by
      rw [hL] at hline ⊢
      exact readChunkSize_take_digits L 0 false k hlt (.inr hne) (by simpa using hline)
    rw [List.take_append_of_le_length hline.le]
    simp only [readChunks, hsize, Read.incomplete_andThen]
  -- the prefix holds the chunk-size line
  obtain ⟨i, rfl⟩ : ∃ i, k = (formatHex body.length ++ crlf).length + i :=
    ⟨_, (Nat.add_sub_of_le (Nat.le_of_not_lt hline)).symm⟩
  rw [List.take_append, List.append_assoc]
  simp only [readChunks, readChunkSize_formatHex, Read.done_andThen, hn, if_false]
  by_cases hdata : i < body.length
  · -- the prefix ends inside the data
    have : ((body ++ (crlf ++ lastChunk)).take i).length < body.length := by simp; omega
    simp only [this, if_true]
  obtain ⟨j, rfl⟩ : ∃ j, i = body.length + j := ⟨_, (Nat.add_sub_of_le (Nat.le_of_not_lt hdata)).symm⟩
  have hlen : ¬(body ++ (crlf ++ lastChunk).take j).length < body.length := by simp
  rw [List.take_append]
  simp only [hlen, if_false, List.drop_left, List.take_left, List.nil_append]
  by_cases hcrlf : j < 2
  · -- the prefix ends inside the CRLF after the data
    rw [List.take_append_of_le_length (by simp [crlf]; omega), readCrlf_take j hcrlf,
      Read.incomplete_andThen]
  -- the prefix ends inside the last chunk
  obtain ⟨m, rfl⟩ : ∃ m, j = crlf.length + m := ⟨j - 2, by simp [crlf]; omega⟩
  rw [List.take_append, readCrlf_crlf, Read.done_andThen]
  exact readChunks_take_lastChunk fuel _ m (by simp [crlf, lastChunk] at hk; omega)

/-- A chunked body of `make_chain` delivered in pieces reads as `Incomplete`
until its last byte has arrived. -/
theorem decodeChunked_take_chunkedBody (body : Bytes) {k : ℕ} (hk : k < (chunkedBody body).length) :
    decodeChunked ((chunkedBody body).take k) = .incomplete := by
  rcases k with _ | k
  · rfl
  have hlen : ((chunkedBody body).take (k + 1)).length = k + 1 := by simp; omega
  rw [decodeChunked, hlen]
  exact readChunks_take_chunkedBody k body hk

theorem decodeChunked_take_chunkedBody_abc :
    9 < (chunkedBody "abc".toList).length ∧ decodeChunked ((chunkedBody "abc".toList).take 9) = .incomplete :=
  ⟨by decide, decodeChunked_take_chunkedBody _ (by decide)⟩

end TempestaTest.Chunked
