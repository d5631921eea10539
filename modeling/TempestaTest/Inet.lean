import TempestaTest.Str
import Mathlib.Algebra.Group.Nat.Basic
import Mathlib.Algebra.Group.Int

/-! The C library conversions that `ip_str_to_number` and `ip_number_to_str` of
`helpers/sysnet.py` reach through CPython's `socket` and `struct`: the byte
order of `struct`'s `"!L"`, four bytes most significant first; glibc's
`inet_aton`, which reads an address in the numbers-and-dots notation (one to
four parts, each decimal, octal after a `0` or hex after `0x`, the last part
filling the bytes the others leave, ended by the end of the string or by
whitespace); and `inet_ntoa`, which prints four bytes as `%d.%d.%d.%d`.
Proved: the byte order reads back what it writes; `inet_aton` reads four
decimal octets joined by dots as their values, so it reads back every address
`inet_ntoa` prints, and `inet_ntoa` prints every canonical dotted quad (four
octets `0..255` without leading zeros) back from the bytes `inet_aton` reads.
The other forms `inet_aton` accepts are modelled but not studied. -/

namespace TempestaTest.Inet

open Str

/-! ### The byte order of `"!L"` -/

/-- The `w` bytes of `v` below `256 ^ w`, most significant first. -/
def bigEndian : ℕ → ℕ → List ℕ
  | 0, _ => []
  | w + 1, v => bigEndian w (v / 256) ++ [v % 256]

/-- The number whose bytes, most significant first, are `bs`. -/
def fromBigEndian (bs : List ℕ) : ℕ := bs.foldl (fun v b => v * 256 + b) 0

@[simp] theorem length_bigEndian (w v : ℕ) : (bigEndian w v).length = w := by
  induction w generalizing v <;> simp [bigEndian, *]

theorem lt_of_mem_bigEndian {w v b : ℕ} (h : b ∈ bigEndian w v) : b < 256 := by
  induction w generalizing v with
  | zero => simp [bigEndian] at h
  | succ w ih =>
    simp only [bigEndian, List.mem_append, List.mem_singleton] at h
    rcases h with h | rfl
    exacts [ih h, Nat.mod_lt _ (by omega)]

theorem foldl_bigEndian (w : ℕ) :
    ∀ v acc, (bigEndian w v).foldl (fun v b => v * 256 + b) acc = acc * 256 ^ w + v % 256 ^ w := by
  induction w with
  | zero => simp [bigEndian, Nat.mod_one]
  | succ w ih =>
    intro v acc
    rw [bigEndian, List.foldl_append, ih, List.foldl_cons, List.foldl_nil, Nat.pow_succ', Nat.mod_mul,
      Nat.mul_left_comm]
    omega

theorem fromBigEndian_bigEndian (w v : ℕ) : fromBigEndian (bigEndian w v) = v % 256 ^ w := by
  simpa using foldl_bigEndian w v 0

theorem bigEndian_fromBigEndian (bs : List ℕ) (h : ∀ b ∈ bs, b < 256) :
    bigEndian bs.length (fromBigEndian bs) = bs := by
  induction bs using List.reverseRecOn with
  | nil => rfl
  | append_singleton bs b ih =>
    have hb : b < 256 := h b (by simp)
    have hv : fromBigEndian (bs ++ [b]) = fromBigEndian bs * 256 + b := by
      simp [fromBigEndian, List.foldl_append]
    have hdiv : (fromBigEndian bs * 256 + b) / 256 = fromBigEndian bs := by omega
    have hmod : (fromBigEndian bs * 256 + b) % 256 = b := by omega
    rw [List.length_append, List.length_singleton, bigEndian, hv, hdiv, hmod,
      ih fun c hc => h c (List.mem_append_left _ hc)]

theorem fromBigEndian_lt (bs : List ℕ) (h : ∀ b ∈ bs, b < 256) : fromBigEndian bs < 256 ^ bs.length := by
  rw [← bigEndian_fromBigEndian bs h, fromBigEndian_bigEndian, length_bigEndian]
  exact Nat.mod_lt _ (Nat.pos_pow_of_pos _ (by omega))

/-! ### `inet_aton` -/

/-- The value of `c` as a digit in `base`, a letter of either case counting
from ten, as `strtoul` reads digits. -/
def digitValue (base : ℕ) (c : Char) : Option ℕ :=
  (if c.isDigit then some (c.toNat - '0'.toNat)
    else if 'a' ≤ c ∧ c ≤ 'z' then some (c.toNat - 'a'.toNat + 10)
    else if 'A' ≤ c ∧ c ≤ 'Z' then some (c.toNat - 'A'.toNat + 10)
    else none).filter fun d => decide (d < base)

/-- The digits in `base` at the front of `s`, read after the value `acc`: the
value and the rest of `s`, as `strtoul` reads them. -/
def readDigits (base acc : ℕ) : Bytes → ℕ × Bytes
  | [] => (acc, [])
  | c :: s =>
    match digitValue base c with
    | some d => readDigits base (acc * base + d) s
    | none => (acc, c :: s)

/-- `strtoul(cp, &endp, 0)` where `cp` starts with a decimal digit: hex after
`0x` or `0X` when a hex digit follows, octal after any other leading `0`,
decimal otherwise. A `0x` with no hex digit after it reads as `0`, ending at
the `x`. -/
def strtoul : Bytes → ℕ × Bytes
  | '0' :: x :: c :: s =>
    if (x = 'x' ∨ x = 'X') ∧ (digitValue 16 c).isSome then readDigits 16 0 (c :: s)
    else readDigits 8 0 (x :: c :: s)
  | '0' :: s => readDigits 8 0 s
  | s => readDigits 10 0 s

/-- What may follow the last part: nothing, or whitespace and then anything. -/
def endsAddress : Bytes → Bool
  | [] => true
  | c :: _ => isSpace c

/-- `inet_aton` from the part after the earlier parts `parts`, each a byte,
with `dots` more dots allowed. A part starts with a decimal digit and is a
number as `strtoul` reads it; a dot must be followed by another part; the
last part fills the bytes the others leave, so it is below
`256 ^ (4 - parts.length)`. -/
def readParts : ℕ → List ℕ → Bytes → Option (List ℕ)
  | _, _, [] => none
  | dots, parts, c :: s =>
    if c.isDigit then
      match strtoul (c :: s), dots with
      | (val, '.' :: rest), dots + 1 => if val ≤ 255 then readParts dots (parts ++ [val]) rest else none
      | (_, '.' :: _), 0 => none
      | (val, rest), _ =>
        if endsAddress rest ∧ val < 256 ^ (4 - parts.length) then
          some (parts ++ bigEndian (4 - parts.length) val)
        else none
    else none

/-- glibc's `inet_aton`: the four bytes of the address, or `none` where it
returns 0. -/
def inetAton (cp : Bytes) : Option (List ℕ) := readParts 3 [] cp

/-- glibc's `inet_ntoa`: the bytes as `%d.%d.%d.%d`. -/
def inetNtoa (packed : List ℕ) : Bytes := ['.'].intercalate (packed.map fun b : ℕ => formatInt b)

example : inetAton "10.1".toList = some [10, 0, 0, 1] := by decide

example : inetAton "0x7f.1 x".toList = some [127, 0, 0, 1] := by decide

example : inetAton "1.2.3.4.5".toList = none := by decide

/-- `readParts` reads four bytes from parts that leave room for them. -/
theorem readParts_bytes : ∀ (dots : ℕ) (parts : List ℕ) (s : Bytes) {bs : List ℕ},
    readParts dots parts s = some bs → parts.length + dots = 3 → (∀ b ∈ parts, b < 256) →
      bs.length = 4 ∧ ∀ b ∈ bs, b < 256
  | _, _, [], _, h, _, _ => by simp [readParts] at h
  | dots, parts, c :: s, bs, h, hlen, hlt => by
    rw [readParts.eq_def] at h
    simp only at h
    split at h
    · split at h
      · next _ _ _ val rest dots _ =>
        split at h
        · next hval =>
          refine readParts_bytes dots (parts ++ [val]) rest h (by simp; omega) ?_
          simp only [List.mem_append, List.mem_singleton]
          rintro b (hb | rfl)
          exacts [hlt b hb, by omega]
        · cases h
      · cases h
      · split at h
        · cases h
          refine ⟨by simp; omega, ?_⟩
          simp only [List.mem_append]
          rintro b (hb | hb)
          exacts [hlt b hb, lt_of_mem_bigEndian hb]
        · cases h
    · cases h

/-- What `inet_aton` reads is four bytes. -/
theorem inetAton_bytes {s : Bytes} {bs : List ℕ} (h : inetAton s = some bs) : bs.length = 4 ∧ ∀ b ∈ bs, b < 256 :=
  readParts_bytes 3 [] s h rfl (by simp)

/-! ### Canonical dotted quads -/

/-- A byte as `%d` prints it: a decimal numeral of value at most 255. -/
structure IsOctet (w : Bytes) : Prop where
  numeral : Numeral w
  le : decimalValue w ≤ 255

/-- Four octets joined by dots. -/
def Canonical (s : Bytes) : Prop :=
  (s.splitOn '.').length = 4 ∧ ∀ w ∈ s.splitOn '.', IsOctet w

instance (w : Bytes) : Decidable (IsOctet w) :=
  decidable_of_iff ((w ≠ [] ∧ (∀ c ∈ w, c.isDigit = true) ∧ (w.head? = some '0' → w = ['0'])) ∧
      decimalValue w ≤ 255)
    ⟨fun ⟨⟨a, b, c⟩, d⟩ => ⟨⟨a, b, c⟩, d⟩, fun ⟨⟨a, b, c⟩, d⟩ => ⟨⟨a, b, c⟩, d⟩⟩

instance (s : Bytes) : Decidable (Canonical s) := inferInstanceAs (Decidable (_ ∧ _))

example : Canonical "192.168.0.1".toList := by decide

example : ¬Canonical "192.168.00.1".toList := by decide

theorem IsOctet.dot_not_mem {w : Bytes} (hw : IsOctet w) : '.' ∉ w :=
  fun h => absurd (hw.numeral.digits '.' h) (by decide)

theorem isOctet_formatInt {b : ℕ} (h : b < 256) : IsOctet (formatInt b) ∧ decimalValue (formatInt b) = b := by
  obtain ⟨hn, hv⟩ := numeral_toDigits b
  rw [formatInt_natCast]
  exact ⟨⟨hn, by omega⟩, hv⟩

theorem canonical_iff {s : Bytes} : Canonical s ↔
    ∃ a b c d, IsOctet a ∧ IsOctet b ∧ IsOctet c ∧ IsOctet d ∧ s = ['.'].intercalate [a, b, c, d] := by
  constructor
  · rintro ⟨hlen, hw⟩
    match h : s.splitOn '.', hlen with
    | [a, b, c, d], _ =>
      rw [h] at hw
      refine ⟨a, b, c, d, hw a (by simp), hw b (by simp), hw c (by simp), hw d (by simp), ?_⟩
      rw [← h, List.intercalate_splitOn]
  · rintro ⟨a, b, c, d, ha, hb, hc, hd, rfl⟩
    have hsplit : (['.'].intercalate [a, b, c, d]).splitOn '.' = [a, b, c, d] := by
      refine List.splitOn_intercalate _ '.' ?_ (by simp)
      simp only [List.mem_cons, List.not_mem_nil, or_false]
      rintro w (rfl | rfl | rfl | rfl)
      exacts [ha.dot_not_mem, hb.dot_not_mem, hc.dot_not_mem, hd.dot_not_mem]
    rw [Canonical, hsplit]
    refine ⟨rfl, ?_⟩
    simp only [List.mem_cons, List.not_mem_nil, or_false]
    rintro w (rfl | rfl | rfl | rfl) <;> assumption

/-- A canonical dotted quad holds only digits and dots. -/
theorem Canonical.not_mem {s : Bytes} (hs : Canonical s) {c : Char} (hc : c.isDigit = false) (hd : c ≠ '.') :
    c ∉ s := by
  obtain ⟨a, b, c', d, ha, hb, hc', hd', rfl⟩ := canonical_iff.mp hs
  have hw : ∀ w, IsOctet w → c ∉ w := fun w hw hm => by simpa [hc] using hw.numeral.digits c hm
  simp [List.intercalate, hd, hw a ha, hw b hb, hw c' hc', hw d hd']

/-! ### Reading octets back -/

theorem digitValue_of_isDigit {base : ℕ} {c : Char} (h : c.isDigit = true) (hb : c.toNat - '0'.toNat < base) :
    digitValue base c = some (c.toNat - '0'.toNat) := by
  simpa [digitValue, h] using hb

theorem digitValue_dot (base : ℕ) : digitValue base '.' = none := rfl

theorem readDigits_append (base : ℕ) (rest : Bytes) (hr : ∀ c ∈ rest.head?, digitValue base c = none) :
    ∀ (w : Bytes) (acc : ℕ), (∀ c ∈ w, c.isDigit = true ∧ c.toNat - '0'.toNat < base) →
      readDigits base acc (w ++ rest) = (w.foldl (fun v c => v * base + (c.toNat - '0'.toNat)) acc, rest)
  | [], acc, _ => by
    cases rest with
    | nil => rfl
    | cons c s => simp [readDigits, hr c rfl]
  | c :: w, acc, hw => by
    obtain ⟨hd, hb⟩ := hw c (by simp)
    rw [List.cons_append, readDigits, digitValue_of_isDigit hd hb]
    exact readDigits_append base rest hr w _ fun c hc => hw c (by simp [hc])

theorem strtoul_of_ne_zero {c : Char} (hc : c ≠ '0') (s : Bytes) : strtoul (c :: s) = readDigits 10 0 (c :: s) := by
  unfold strtoul
  split <;> simp_all

/-- `strtoul` reads a decimal numeral ended by a dot or by the end as its value. -/
theorem strtoul_numeral {w : Bytes} (hw : Numeral w) (rest : Bytes) (hr : rest = [] ∨ ∃ r, rest = '.' :: r) :
    strtoul (w ++ rest) = (decimalValue w, rest) := by
  obtain ⟨c, t, rfl⟩ := List.exists_cons_of_ne_nil hw.ne_nil
  by_cases hc : c = '0'
  · obtain ⟨rfl, rfl⟩ : c = '0' ∧ t = [] := by simpa using hw.no_leading_zero (by simp [hc])
    rcases hr with rfl | ⟨r, rfl⟩
    · rfl
    · cases r <;> rfl
  · have hr' : ∀ d ∈ rest.head?, digitValue 10 d = none := by
      rcases hr with rfl | ⟨r, rfl⟩ <;> simp [digitValue_dot]
    rw [List.cons_append, strtoul_of_ne_zero hc, ← List.cons_append, readDigits_append 10 rest hr']
    · rfl
    · intro d hd
      have := (isDigit_iff d).mp (hw.digits d hd)
      exact ⟨hw.digits d hd, by change d.toNat - 48 < 10; omega⟩

theorem strtoul_octet {w : Bytes} (hw : IsOctet w) (rest : Bytes) (hr : rest = [] ∨ ∃ r, rest = '.' :: r) :
    strtoul (w ++ rest) = (decimalValue w, rest) :=
  strtoul_numeral hw.numeral rest hr

theorem readParts_octet_dot {w : Bytes} (hw : IsOctet w) (dots : ℕ) (parts : List ℕ) (rest : Bytes) :
    readParts (dots + 1) parts (w ++ '.' :: rest) = readParts dots (parts ++ [decimalValue w]) rest := by
  have hs := strtoul_octet hw ('.' :: rest) (.inr ⟨rest, rfl⟩)
  obtain ⟨c, t, rfl⟩ := List.exists_cons_of_ne_nil hw.numeral.ne_nil
  rw [List.cons_append] at hs ⊢
  rw [readParts.eq_def]
  simp only [if_pos (hw.numeral.digits c (by simp)), hs, if_pos hw.le]

theorem readParts_octet_last {w : Bytes} (hw : IsOctet w) (dots : ℕ) {parts : List ℕ} (hp : parts.length = 3) :
    readParts dots parts w = some (parts ++ [decimalValue w]) := by
  have hs := strtoul_octet hw [] (.inl rfl)
  have hlt : decimalValue w < 256 := Nat.lt_succ_of_le hw.le
  rw [List.append_nil] at hs
  obtain ⟨c, t, rfl⟩ := List.exists_cons_of_ne_nil hw.numeral.ne_nil
  rw [readParts.eq_def]
  simp only [if_pos (hw.numeral.digits c (by simp)), hs, hp]
  simp [endsAddress, hlt, bigEndian, Nat.mod_eq_of_lt hlt]

/-- `inet_aton` reads four octets joined by dots as their values. -/
theorem inetAton_octets {a b c d : Bytes} (ha : IsOctet a) (hb : IsOctet b) (hc : IsOctet c) (hd : IsOctet d) :
    inetAton (['.'].intercalate [a, b, c, d]) =
      some [decimalValue a, decimalValue b, decimalValue c, decimalValue d] := by
  have : ['.'].intercalate [a, b, c, d] = a ++ '.' :: (b ++ '.' :: (c ++ '.' :: d)) := by
    simp [List.intercalate]
  rw [inetAton, this, readParts_octet_dot ha, readParts_octet_dot hb, readParts_octet_dot hc,
    readParts_octet_last hd 0 (by simp)]
  rfl

/-- `inet_aton` reads a decimal numeral alone as the address of that value
where it is below `2 ^ 32`, and rejects it otherwise. -/
theorem inetAton_numeral {w : Bytes} (hw : Numeral w) :
    inetAton w = if decimalValue w < 2 ^ 32 then some (bigEndian 4 (decimalValue w)) else none := by
  have hs := strtoul_numeral hw [] (.inl rfl)
  rw [List.append_nil] at hs
  obtain ⟨c, t, rfl⟩ := List.exists_cons_of_ne_nil hw.ne_nil
  rw [inetAton, readParts.eq_def]
  simp only [if_pos (hw.digits c (by simp)), hs]
  simp [endsAddress]

/-- `inet_aton` reads back the bytes `inet_ntoa` prints, and what it prints is
a canonical dotted quad. -/
theorem inetAton_inetNtoa {bs : List ℕ} (hlen : bs.length = 4) (hlt : ∀ b ∈ bs, b < 256) :
    inetAton (inetNtoa bs) = some bs ∧ Canonical (inetNtoa bs) := by
  match bs, hlen with
  | [b₀, b₁, b₂, b₃], _ =>
    obtain ⟨h₀, v₀⟩ := isOctet_formatInt (hlt b₀ (by simp))
    obtain ⟨h₁, v₁⟩ := isOctet_formatInt (hlt b₁ (by simp))
    obtain ⟨h₂, v₂⟩ := isOctet_formatInt (hlt b₂ (by simp))
    obtain ⟨h₃, v₃⟩ := isOctet_formatInt (hlt b₃ (by simp))
    refine ⟨?_, canonical_iff.mpr ⟨_, _, _, _, h₀, h₁, h₂, h₃, rfl⟩⟩
    rw [inetNtoa, List.map_cons, List.map_cons, List.map_cons, List.map_cons, List.map_nil,
      inetAton_octets h₀ h₁ h₂ h₃, v₀, v₁, v₂, v₃]

/-- `inet_ntoa` prints a canonical dotted quad back from the bytes `inet_aton`
reads from it. -/
theorem inetNtoa_inetAton {s : Bytes} (hs : Canonical s) :
    ∃ bs, inetAton s = some bs ∧ bs.length = 4 ∧ (∀ b ∈ bs, b < 256) ∧ inetNtoa bs = s := by
  obtain ⟨a, b, c, d, ha, hb, hc, hd, rfl⟩ := canonical_iff.mp hs
  refine ⟨_, inetAton_octets ha hb hc hd, rfl, ?_, ?_⟩
  · simp only [List.mem_cons, List.not_mem_nil, or_false]
    rintro v (rfl | rfl | rfl | rfl)
    exacts [Nat.lt_succ_of_le ha.le, Nat.lt_succ_of_le hb.le, Nat.lt_succ_of_le hc.le, Nat.lt_succ_of_le hd.le]
  · simp only [inetNtoa, List.map_cons, List.map_nil, formatInt_natCast, toDigits_decimalValue ha.numeral,
      toDigits_decimalValue hb.numeral, toDigits_decimalValue hc.numeral, toDigits_decimalValue hd.numeral]

end TempestaTest.Inet
