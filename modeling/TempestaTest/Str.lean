import Mathlib.Data.List.Basic

/-! The Python 2 `str` operations that the modelled code applies to bodies,
command output and messages: `'%X' % n`, `'%d' % n`, `s.split()` and
`int(s)`; `sep.join(parts)` is `List.intercalate`. A `str` is a list of
characters. Proved: `'%X' % n` is a non-empty list of hex digits whose
big-endian value is `n`, `split` reads a word ended by whitespace off the
front, and `int` reads a non-empty run of decimal digits. -/

namespace TempestaTest

/-- A Python 2 `str`: a byte string. -/
abbrev Bytes := List Char

namespace Str

/-! ### `'%X' % n` -/

/-- The digit `d < 16` as `'%X'` prints it. -/
def hexChar (d : ℕ) : Char := (Nat.digitChar d).toUpper

/-- `'%X' % n` for `n ≥ 0`: the hex digits of `n`, uppercase, with no leading zeros. -/
def formatHex (n : ℕ) : Bytes := (Nat.toDigits 16 n).map Char.toUpper

theorem toDigitsCore_succ (b fuel n : ℕ) (ds : Bytes) :
    Nat.toDigitsCore b (fuel + 1) n ds = if n / b = 0 then Nat.digitChar (n % b) :: ds
      else Nat.toDigitsCore b fuel (n / b) (Nat.digitChar (n % b) :: ds) := rfl

theorem toDigits_eq (b n : ℕ) : Nat.toDigits b n = Nat.toDigitsCore b (n + 1) n [] := rfl

/-- The digits `Nat.toDigitsCore` puts before `ds` once it has the fuel: big-endian,
below the base, and led by a digit that is zero only for `n = 0`. -/
theorem toDigitsCore_digits {b : ℕ} (hb : 1 < b) (fuel n : ℕ) (ds : Bytes) (h : n < fuel) :
    ∃ L : List ℕ, Nat.toDigitsCore b fuel n ds = L.map Nat.digitChar ++ ds ∧ L ≠ [] ∧
      (∀ d ∈ L, d < b) ∧ L.foldl (fun v d => v * b + d) 0 = n ∧ (L.head? = some 0 → n = 0) := by
  induction fuel generalizing n ds with
  | zero => omega
  | succ fuel ih =>
    rw [toDigitsCore_succ]
    split
    · next h0 =>
      have hn : n % b = n := Nat.mod_eq_of_lt ((Nat.div_eq_zero_iff (by omega)).mp h0)
      exact ⟨[n % b], rfl, by simp, by simpa using Nat.mod_lt n (by omega), by simp [hn], by simp [hn]⟩
    · next h0 =>
      have hn : 0 < n := Nat.pos_of_ne_zero fun hn => h0 (by simp [hn])
      have hlt : n / b < fuel := by have := Nat.div_lt_self hn hb; omega
      obtain ⟨L, hL, hne, hlt, hval, hhead⟩ := ih (n / b) (Nat.digitChar (n % b) :: ds) hlt
      refine ⟨L ++ [n % b], by simp [hL], by simp, ?_, ?_, ?_⟩
      · simp only [List.mem_append, List.mem_singleton]
        rintro d (hd | rfl)
        exacts [hlt d hd, Nat.mod_lt _ (by omega)]
      · rw [List.foldl_append, hval]
        exact Nat.div_add_mod' n b
      · rw [List.head?_append_of_ne_nil _ hne]
        exact fun h => absurd (hhead h) h0

theorem le_foldl_digits {b : ℕ} (hb : 0 < b) :
    ∀ (L : List ℕ) (acc : ℕ), acc ≤ L.foldl (fun v d => v * b + d) acc
  | [], _ => le_rfl
  | d :: L, acc => (Nat.le_mul_of_pos_right acc hb).trans ((Nat.le_add_right _ d).trans (le_foldl_digits hb L _))

/-- A digit list led by a digit other than zero, or `[0]`, is what
`Nat.toDigitsCore` prints for its value. -/
theorem toDigitsCore_foldl {b : ℕ} (hb : 1 < b) (L : List ℕ) (hL : ∀ d ∈ L, d < b) (hne : L ≠ [])
    (h0 : L.head? = some 0 → L = [0]) (fuel : ℕ) (ds : Bytes)
    (hf : L.foldl (fun v d => v * b + d) 0 < fuel) :
    Nat.toDigitsCore b fuel (L.foldl (fun v d => v * b + d) 0) ds = L.map Nat.digitChar ++ ds := by
  induction L using List.reverseRecOn generalizing fuel ds with
  | nil => contradiction
  | append_singleton L d ih =>
    obtain ⟨fuel, rfl⟩ : ∃ f, fuel = f + 1 := ⟨fuel - 1, by omega⟩
    have hd : d < b := hL d (by simp)
    simp only [List.foldl_append, List.foldl_cons, List.foldl_nil] at hf ⊢
    generalize hm : L.foldl (fun v d => v * b + d) 0 = m at hf ih
    have hdiv : (m * b + d) / b = m := by
      rw [Nat.add_comm, Nat.add_mul_div_right _ _ (by omega), Nat.div_eq_of_lt hd, Nat.zero_add]
    have hmod : (m * b + d) % b = d := by rw [Nat.add_comm, Nat.add_mul_mod_self_right, Nat.mod_eq_of_lt hd]
    rw [toDigitsCore_succ, hdiv, hmod]
    cases L with
    | nil =>
      subst hm
      simp
    | cons a t =>
      have ha : a ≠ 0 := fun ha => by simpa [ha] using h0 (by simp [ha])
      have hm0 : m ≠ 0 := by
        have := le_foldl_digits (by omega : 0 < b) t (0 * b + a)
        simp only [List.foldl_cons] at hm
        omega
      have hmb : m * 2 ≤ m * b := Nat.mul_le_mul_left m hb
      rw [if_neg hm0, ih (fun e he => hL e (List.mem_append_left _ he)) (by simp) (by simp [ha]) fuel _ (by omega)]
      simp

theorem formatHex_digits (n : ℕ) :
    ∃ L : List ℕ, formatHex n = L.map hexChar ∧ L ≠ [] ∧ (∀ d ∈ L, d < 16) ∧
      L.foldl (fun v d => v * 16 + d) 0 = n := by
  obtain ⟨L, hL, hne, hlt, hval, -⟩ := toDigitsCore_digits (by omega : 1 < 16) (n + 1) n [] (by omega)
  refine ⟨L, ?_, hne, hlt, hval⟩
  change (Nat.toDigitsCore 16 (n + 1) n []).map Char.toUpper = _
  simp [hL, hexChar]

/-- `'%d' % n`. -/
def formatInt (n : ℤ) : Bytes := (toString n).toList

theorem formatInt_natCast (n : ℕ) : formatInt n = Nat.toDigits 10 n := rfl

/-! ### `s.split()` -/

/-- The whitespace of `str.isspace`. -/
def isSpace (c : Char) : Bool :=
  c = ' ' || c = '\t' || c = '\n' || c = '\r' || c = '\x0b' || c = '\x0c'

/-- `s.split()` after the characters `word` (reversed) of the current word:
the maximal runs of non-whitespace characters. -/
def splitWords (word : Bytes) : Bytes → List Bytes
  | [] => if word.isEmpty then [] else [word.reverse]
  | c :: s =>
    if isSpace c then
      if word.isEmpty then splitWords [] s else word.reverse :: splitWords [] s
    else splitWords (c :: word) s

/-- `s.split()` with no separator. -/
def split (s : Bytes) : List Bytes := splitWords [] s

theorem splitWords_append (w : Bytes) (hw : ∀ c ∈ w, isSpace c = false) {c : Char}
    (hc : isSpace c = true) (s : Bytes) :
    ∀ word : Bytes, word.reverse ++ w ≠ [] →
      splitWords word (w ++ c :: s) = (word.reverse ++ w) :: splitWords [] s := by
  induction w with
  | nil =>
    intro word hne
    have : word ≠ [] := by simpa using hne
    simp [splitWords, hc, this]
  | cons a w ih =>
    intro word _
    have ha : isSpace a = false := hw a (by simp)
    rw [List.cons_append, splitWords, if_neg (by simp [ha]),
      ih (fun c hc => hw c (by simp [hc])) (a :: word) (by simp)]
    simp

/-- `split` reads a non-empty word ended by whitespace off the front. -/
theorem split_append (w : Bytes) (hw : ∀ c ∈ w, isSpace c = false) (hne : w ≠ [])
    {c : Char} (hc : isSpace c = true) (s : Bytes) : split (w ++ c :: s) = w :: split s := by
  simpa using splitWords_append w hw hc s [] (by simpa using hne)

/-! ### `int(s)` -/

/-- The value of a run of decimal digits. -/
def decimalValue (s : Bytes) : ℕ := s.foldl (fun n c => n * 10 + (c.toNat - '0'.toNat)) 0

/-- A non-empty run of decimal digits, and its value. -/
def decimal (s : Bytes) : Option ℕ :=
  if s ≠ [] ∧ ∀ c ∈ s, c.isDigit = true then some (decimalValue s) else none

/-- `int(s)` of a word with no whitespace: an optional sign, then decimal digits;
`none` where Python raises `ValueError`. -/
def parseInt : Bytes → Option ℤ
  | [] => none
  | c :: s =>
    if c = '-' then (decimal s).map fun n => -(n : ℤ)
    else if c = '+' then (decimal s).map fun n => (n : ℤ)
    else (decimal (c :: s)).map fun n => (n : ℤ)

theorem parseInt_of_digits {s : Bytes} (hne : s ≠ []) (hd : ∀ c ∈ s, c.isDigit = true) :
    parseInt s = some (decimalValue s : ℤ) := by
  obtain ⟨c, t, rfl⟩ := List.exists_cons_of_ne_nil hne
  have hc : c.isDigit = true := hd c (by simp)
  have hminus : c ≠ '-' := by rintro rfl; exact absurd hc (by decide)
  have hplus : c ≠ '+' := by rintro rfl; exact absurd hc (by decide)
  rw [parseInt, if_neg hminus, if_neg hplus, decimal, if_pos ⟨hne, hd⟩]
  rfl

theorem isDigit_iff (c : Char) : c.isDigit = true ↔ 48 ≤ c.toNat ∧ c.toNat ≤ 57 := by
  change (decide (48 ≤ c.val) && decide (c.val ≤ 57)) = true ↔
    48 ≤ c.val.toBitVec.toNat ∧ c.val.toBitVec.toNat ≤ 57
  simp only [Bool.and_eq_true, decide_eq_true_eq, UInt32.le_def, BitVec.le_def]
  exact Iff.rfl

theorem digitChar_digit : ∀ d < 10, (Nat.digitChar d).isDigit = true ∧
    (Nat.digitChar d).toNat - '0'.toNat = d := by decide

theorem digitChar_ofNat : ∀ k < 10, Nat.digitChar ((Char.ofNat (48 + k)).toNat - '0'.toNat) = Char.ofNat (48 + k) := by
  decide

theorem digitChar_sub {c : Char} (h : c.isDigit = true) : Nat.digitChar (c.toNat - '0'.toNat) = c := by
  have := (isDigit_iff c).mp h
  obtain ⟨k, hk, hc⟩ : ∃ k, k < 10 ∧ c.toNat = 48 + k := ⟨c.toNat - 48, by omega, by omega⟩
  rw [← Char.ofNat_toNat c, hc]
  exact digitChar_ofNat k hk

/-- A run of decimal digits with no leading zero: how `'%d'` prints a natural number. -/
structure Numeral (w : Bytes) : Prop where
  ne_nil : w ≠ []
  digits : ∀ c ∈ w, c.isDigit = true
  no_leading_zero : w.head? = some '0' → w = ['0']

/-- `'%d'` prints the value of a numeral back as the numeral. -/
theorem toDigits_decimalValue {w : Bytes} (hw : Numeral w) : Nat.toDigits 10 (decimalValue w) = w := by
  have hL : (w.map fun c => c.toNat - '0'.toNat).map Nat.digitChar = w := by
    rw [List.map_map]
    exact (List.map_congr_left fun c hc => digitChar_sub (hw.digits c hc)).trans (List.map_id w)
  have hval : decimalValue w = (w.map fun c => c.toNat - '0'.toNat).foldl (fun v d => v * 10 + d) 0 := by
    rw [decimalValue, List.foldl_map]
  rw [hval, toDigits_eq, toDigitsCore_foldl (by omega : 1 < 10) _ ?digits ?ne ?h0 _ _ (by omega), hL, List.append_nil]
  case digits =>
    simp only [List.mem_map]
    rintro d ⟨c, hc, rfl⟩
    have := (isDigit_iff c).mp (hw.digits c hc)
    change c.toNat - 48 < 10
    omega
  case ne => simpa using hw.ne_nil
  case h0 =>
    intro h
    obtain ⟨c, t, rfl⟩ := List.exists_cons_of_ne_nil hw.ne_nil
    have hc : c = '0' := by
      simp only [List.map_cons, List.head?_cons, Option.some.injEq] at h
      rw [← digitChar_sub (hw.digits c (by simp)), h]
      rfl
    obtain ⟨rfl, rfl⟩ : c = '0' ∧ t = [] := by simpa using hw.no_leading_zero (by simp [hc])
    rfl

/-- `'%d' % n` is a numeral of value `n`. -/
theorem numeral_toDigits (n : ℕ) : Numeral (Nat.toDigits 10 n) ∧ decimalValue (Nat.toDigits 10 n) = n := by
  obtain ⟨L, hL, hne, hlt, hval, hhead⟩ := toDigitsCore_digits (by omega : 1 < 10) (n + 1) n [] (by omega)
  have hdig : ∀ d ∈ L, (Nat.digitChar d).toNat - '0'.toNat = d := fun d hd => (digitChar_digit d (hlt d hd)).2
  rw [List.append_nil] at hL
  rw [toDigits_eq, hL]
  refine ⟨⟨by simpa using hne, ?_, ?_⟩, ?_⟩
  · simp only [List.mem_map]
    rintro c ⟨d, hd, rfl⟩
    exact (digitChar_digit d (hlt d hd)).1
  · intro h
    obtain ⟨d, t, rfl⟩ := List.exists_cons_of_ne_nil hne
    have hd : d = 0 := by
      simp only [List.map_cons, List.head?_cons, Option.some.injEq] at h
      rw [← hdig d (by simp), h]
      rfl
    obtain rfl := hhead (by simp [hd])
    rw [← hL]
    rfl
  · rw [← hval, decimalValue, List.foldl_map]
    exact List.foldl_ext _ _ _ fun v d hd => by rw [hdig d hd]

theorem isSpace_of_isDigit {c : Char} (h : c.isDigit = true) : isSpace c = false := by
  cases hs : isSpace c
  · rfl
  simp only [isSpace, Bool.or_eq_true, decide_eq_true_eq] at hs
  rcases hs with (((((rfl | rfl) | rfl) | rfl) | rfl) | rfl) <;> exact absurd h (by decide)

end Str

end TempestaTest
