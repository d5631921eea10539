import TempestaTest.Sysnet
import TempestaTest.Inet

/-! The address helpers of `helpers/sysnet.py`: `ip_str_to_number`,
`ip_number_to_str`, `create_interface`, `remove_interface`,
`create_interfaces` and `remove_interfaces`. The conversions are pure and
return or raise, so they are `Except` values; the alias helpers run commands
on `remote.server`, a `Node` as for the MTU helpers, and take `tf_cfg.dbg` as
a parameter, so that the module's own binding of that name can be set beside
one that works. The conversions follow Python 2, as the whole model does:
`str` is a byte string, `socket.inet_aton` refuses a NUL byte with
`TypeError`, and `socket.error` is an `IOError`. Proved: the conversions are
inverse on `[0, 2 ^ 32)` and on
canonical dotted quads, so `ip_number_to_str` is injective there.
`sysnet.py` does not import `tf_cfg`: the `tf_cfg.dbg` in the `try` of
`create_interface` raises `NameError`, the bare `except` catches it, and the
one in the handler raises `NameError` again. So every `create_interfaces` of
at least one alias, and every `remove_interfaces` of at least one address,
raises `NameError` before any command runs. With a `tf_cfg.dbg` that returns,
`create_interfaces` returns the addresses after the base, distinct and in
order, whatever each command does, and raises `struct.error` past the end of
the address space instead of wrapping around; `remove_interfaces` returns. -/

namespace TempestaTest.Sysnet

open Str Inet

/-! ### Address conversions -/

/-- Python 2's `socket.inet_aton(ip_string)`: `TypeError` for an embedded NUL,
which its `"s"` argument format refuses, and `socket.error` where glibc's
`inet_aton` rejects the string. -/
def socketInetAton (ipString : Bytes) : Except Exc (List ℕ) :=
  if '\x00' ∈ ipString then throw .typeError
  else match inetAton ipString with
    | some packed => pure packed
    | none => throw .osError

/-- `struct.unpack("!L", buffer)[0]`. -/
def structUnpack (buffer : List ℕ) : Except Exc ℤ :=
  if buffer.length = 4 then pure (fromBigEndian buffer) else throw .structError

/-- `struct.pack("!L", v)`. -/
def structPack (v : ℤ) : Except Exc (List ℕ) :=
  if 0 ≤ v ∧ v < 2 ^ 32 then pure (bigEndian 4 v.toNat) else throw .structError

/-- `socket.inet_ntoa(packed_ip)`. -/
def socketInetNtoa (packedIp : List ℕ) : Except Exc Bytes :=
  if packedIp.length = 4 then pure (inetNtoa packedIp) else throw .osError

/-- `ip_str_to_number`. -/
def ipStrToNumber (ipAddr : Bytes) : Except Exc ℤ := do
  let packed ← socketInetAton ipAddr
  structUnpack packed

/-- `ip_number_to_str`. -/
def ipNumberToStr (ipAddr : ℤ) : Except Exc Bytes := do
  let packed ← structPack ipAddr
  socketInetNtoa packed

/-- The address `ip_number_to_str` prints for `x` in `[0, 2 ^ 32)`. -/
def dotted (x : ℤ) : Bytes := inetNtoa (bigEndian 4 x.toNat)

theorem ipNumberToStr_of_lt {x : ℤ} (h0 : 0 ≤ x) (h : x < 2 ^ 32) : ipNumberToStr x = .ok (dotted x) := by
  rw [ipNumberToStr, structPack, if_pos ⟨h0, h⟩, except_pure, except_ok_bind, socketInetNtoa,
    if_pos (length_bigEndian 4 _)]
  rfl

theorem ipNumberToStr_of_ge {x : ℤ} (h : 2 ^ 32 ≤ x) : ipNumberToStr x = .error .structError := by
  rw [ipNumberToStr, structPack, if_neg (by omega), except_throw, except_error_bind]

/-- What `ip_str_to_number` returns is in `[0, 2 ^ 32)`. -/
theorem ipStrToNumber_range {s : Bytes} {v : ℤ} (h : ipStrToNumber s = .ok v) : 0 ≤ v ∧ v < 2 ^ 32 := by
  rcases hs : socketInetAton s with e | bs
  · simp [ipStrToNumber, hs] at h
  have hread : inetAton s = some bs := by
    simp only [socketInetAton] at hs
    split at hs
    · cases hs
    · split at hs <;> simp_all
  obtain ⟨hlen, hlt⟩ := inetAton_bytes hread
  have hbound := fromBigEndian_lt bs hlt
  rw [hlen] at hbound
  simp only [ipStrToNumber, hs, except_ok_bind, structUnpack, if_pos hlen, except_pure, Except.ok.injEq] at h
  subst h
  constructor <;> omega

/-- `ip_str_to_number` reads back what `ip_number_to_str` prints. -/
theorem ipStrToNumber_dotted {x : ℤ} (h0 : 0 ≤ x) (h : x < 2 ^ 32) : ipStrToNumber (dotted x) = .ok x := by
  have hlen : (bigEndian 4 x.toNat).length = 4 := length_bigEndian 4 _
  obtain ⟨hread, hcan⟩ := inetAton_inetNtoa hlen fun b hb => lt_of_mem_bigEndian hb
  have hnul : '\x00' ∉ dotted x := hcan.not_mem rfl (by decide)
  have hval : (fromBigEndian (bigEndian 4 x.toNat) : ℤ) = x := by
    rw [fromBigEndian_bigEndian, Nat.mod_eq_of_lt (by omega)]
    exact Int.toNat_of_nonneg h0
  rw [dotted] at hnul ⊢
  simp only [ipStrToNumber, socketInetAton, if_neg hnul, hread, except_pure, except_ok_bind, structUnpack,
    if_pos hlen, hval]

theorem dotted_injective {x y : ℤ} (hx0 : 0 ≤ x) (hx : x < 2 ^ 32) (hy0 : 0 ≤ y) (hy : y < 2 ^ 32)
    (h : dotted x = dotted y) : x = y := by
  have := (ipStrToNumber_dotted hx0 hx).symm.trans (h ▸ ipStrToNumber_dotted hy0 hy)
  exact Except.ok.inj this

/-- `ip_number_to_str` prints a canonical dotted quad back from the number
`ip_str_to_number` reads from it. -/
theorem ipNumberToStr_ipStrToNumber {s : Bytes} (hs : Canonical s) :
    ∃ x, ipStrToNumber s = .ok x ∧ ipNumberToStr x = .ok s := by
  obtain ⟨bs, hread, hlen, hlt, hntoa⟩ := inetNtoa_inetAton hs
  have hnul : '\x00' ∉ s := hs.not_mem rfl (by decide)
  have hbound : fromBigEndian bs < 2 ^ 32 := by
    have := fromBigEndian_lt bs hlt
    rw [hlen] at this
    exact this
  refine ⟨fromBigEndian bs, ?_, ?_⟩
  · simp only [ipStrToNumber, socketInetAton, if_neg hnul, hread, except_pure, except_ok_bind, structUnpack,
      if_pos hlen]
  · rw [ipNumberToStr_of_lt (by omega) (by omega), dotted, Int.toNat_ofNat, ← hlen,
      bigEndian_fromBigEndian bs hlt, hntoa]

/-- `ip_str_to_number` reads a decimal number alone as itself below `2 ^ 32`,
and raises `OSError` for a larger one: an address needs no dots. -/
theorem ipStrToNumber_formatInt (n : ℕ) :
    ipStrToNumber (formatInt n) = if n < 2 ^ 32 then .ok n else .error .osError := by
  obtain ⟨hw, hv⟩ := numeral_toDigits n
  rw [← formatInt_natCast] at hw hv
  have hnul : '\x00' ∉ formatInt n := fun h => absurd (hw.digits _ h) (by decide)
  rw [ipStrToNumber, socketInetAton, if_neg hnul, inetAton_numeral hw, hv]
  by_cases h : n < 2 ^ 32
  · simp only [if_pos h, except_pure, except_ok_bind, structUnpack, length_bigEndian, if_true, fromBigEndian_bigEndian]
    rw [Nat.mod_eq_of_lt (by simpa using h)]
  · simp only [if_neg h]
    rfl

/-- `ip_str_to_number` and `ip_number_to_str` are inverse on `[0, 2 ^ 32)` and
on canonical dotted quads, and `ip_number_to_str` is injective on `[0, 2 ^ 32)`. -/
theorem ip_conversions_inverse :
    (∀ x : ℤ, 0 ≤ x → x < 2 ^ 32 → (ipNumberToStr x >>= ipStrToNumber) = .ok x) ∧
      (∀ s, Canonical s → (ipStrToNumber s >>= ipNumberToStr) = .ok s) ∧
      ∀ x y : ℤ, 0 ≤ x → x < 2 ^ 32 → 0 ≤ y → y < 2 ^ 32 → ipNumberToStr x = ipNumberToStr y → x = y := by
  refine ⟨fun x h0 h => ?_, fun s hs => ?_, fun x y hx0 hx hy0 hy h => ?_⟩
  · rw [ipNumberToStr_of_lt h0 h, except_ok_bind, ipStrToNumber_dotted h0 h]
  · obtain ⟨x, hx, hs⟩ := ipNumberToStr_ipStrToNumber hs
    rw [hx, except_ok_bind, hs]
  · rw [ipNumberToStr_of_lt hx0 hx, ipNumberToStr_of_lt hy0 hy] at h
    exact dotted_injective hx0 hx hy0 hy (Except.ok.inj h)

theorem ip_conversions_inverse_loopback :
    (ipNumberToStr 2130706433 >>= ipStrToNumber) = .ok 2130706433 ∧
      (ipStrToNumber "127.0.0.1".toList >>= ipNumberToStr) = .ok "127.0.0.1".toList ∧
      (ipNumberToStr 2130706433 = ipNumberToStr 2130706433 → (2130706433 : ℤ) = 2130706433) :=
  ⟨ip_conversions_inverse.1 _ (by decide) (by decide), ip_conversions_inverse.2.1 _ (by decide),
    ip_conversions_inverse.2.2 _ _ (by decide) (by decide) (by decide) (by decide)⟩

/-! ### Interface aliases -/

/-- `tf_cfg.dbg` as `sysnet.py` resolves it: the module imports `remote` and
`Error` but not `tf_cfg`, so looking up the name raises `NameError`. -/
def tfCfgDbg : ℕ → Bytes → EStateM Exc (List Bytes) Unit := fun _ _ => throw (.nameError "tf_cfg".toList)

/-- `"LANG=C ip address add %s/24 dev %s label %s" % (iface_ip, base_iface_name, iface)`. -/
def addressAddCmd (ifaceIp baseIfaceName iface : Bytes) : Bytes :=
  "LANG=C ip address add ".toList ++ ifaceIp ++ "/24 dev ".toList ++ baseIfaceName ++ " label ".toList ++ iface

/-- `template % (iface_ip, interface_name)`, `template` being
`"LANG=C ip address del %s/24 dev %s"`. -/
def addressDelCmd (ifaceIp interfaceName : Bytes) : Bytes :=
  "LANG=C ip address del ".toList ++ ifaceIp ++ "/24 dev ".toList ++ interfaceName

/-- `"%s:%i" % (base_iface_name, iface_id)`: the name of an alias. -/
def aliasName (baseIfaceName : Bytes) (ifaceId : ℕ) : Bytes := baseIfaceName ++ ':' :: formatInt ifaceId

/-- `create_interface`: the alias `iface_id` of `base_iface_name`, at the
address `iface_id` after `base_ip`, with `tf_cfg.dbg` as `dbg`; a failing
`ip address add` is taken for an alias already added. -/
def createInterface (dbg : ℕ → Bytes → EStateM Exc (List Bytes) Unit) (server : Node) (ifaceId : ℕ)
    (baseIfaceName baseIp : Bytes) : EStateM Exc (List Bytes) (Bytes × Bytes) := do
  let baseIpAddr ← ofExcept (ipStrToNumber baseIp)
  let ifaceIp ← ofExcept (ipNumberToStr (baseIpAddr + ifaceId))
  let iface := aliasName baseIfaceName ifaceId
  tryCatch (do
      dbg 3 ("Adding ip ".toList ++ ifaceIp)
      let _ ← runCmd server (addressAddCmd ifaceIp baseIfaceName iface)
      pure ())
    fun _ => dbg 3 "Interface alias already added".toList
  return (iface, ifaceIp)

/-- `remove_interface`: a failing `ip address del` is taken for an alias
already removed. -/
def removeInterface (dbg : ℕ → Bytes → EStateM Exc (List Bytes) Unit) (server : Node)
    (interfaceName ifaceIp : Bytes) : EStateM Exc (List Bytes) Unit :=
  tryCatch (do
      dbg 3 ("Removing ip ".toList ++ ifaceIp)
      let _ ← runCmd server (addressDelCmd ifaceIp interfaceName)
      pure ())
    fun _ => dbg 3 "Interface alias already removed".toList

/-- `create_interfaces`: the aliases `0, ..., number_of_ip - 1`, and their
addresses in order. -/
def createInterfaces (dbg : ℕ → Bytes → EStateM Exc (List Bytes) Unit) (server : Node)
    (baseInterfaceName baseInterfaceIp : Bytes) (numberOfIp : ℕ) : EStateM Exc (List Bytes) (List Bytes) :=
  (List.range numberOfIp).foldlM (fun ips i => do
      let (_, ip) ← createInterface dbg server i baseInterfaceName baseInterfaceIp
      pure (ips ++ [ip])) []

/-- `remove_interfaces`. -/
def removeInterfaces (dbg : ℕ → Bytes → EStateM Exc (List Bytes) Unit) (server : Node)
    (baseInterfaceName : Bytes) (ips : List Bytes) : EStateM Exc (List Bytes) Unit :=
  ips.forM fun ip => removeInterface dbg server baseInterfaceName ip

section Aliases

variable {dbg : ℕ → Bytes → EStateM Exc (List Bytes) Unit} {server : Node} {name base : Bytes} {v : ℤ}

theorem createInterfaces_zero : createInterfaces dbg server name base 0 = pure [] := rfl

theorem createInterfaces_succ (n : ℕ) :
    createInterfaces dbg server name base (n + 1) = (do
      let ips ← createInterfaces dbg server name base n
      let (_, ip) ← createInterface dbg server n name base
      pure (ips ++ [ip])) := by
  simp only [createInterfaces, List.range_succ, List.foldlM_append, List.foldlM_cons, List.foldlM_nil, bind_pure]

/-- An exception of the first `m` rounds of `create_interfaces` ends it. -/
theorem createInterfaces_add_of_error {m : ℕ} {log s : List Bytes} {e : Exc}
    (h : createInterfaces dbg server name base m log = .error e s) (j : ℕ) :
    createInterfaces dbg server name base (m + j) log = .error e s := by
  induction j with
  | zero => exact h
  | succ j ih => rw [← Nat.add_assoc, createInterfaces_succ, bind_apply, ih]

/-- Past the end of the address space the alias `i` raises `struct.error`
before running anything. -/
theorem createInterface_error_of_ge (hb : ipStrToNumber base = .ok v) {i : ℕ} (h : 2 ^ 32 ≤ v + i)
    (log : List Bytes) : createInterface dbg server i name base log = .error .structError log := by
  simp only [createInterface, bind_apply, hb, ofExcept_ok, pure_apply, ipNumberToStr_of_ge h, ofExcept_error,
    throw_apply]

theorem removeInterfaces_cons (ip : Bytes) (ips : List Bytes) :
    removeInterfaces dbg server name (ip :: ips) =
      (removeInterface dbg server name ip >>= fun _ => removeInterfaces dbg server name ips) :=
  List.forM_cons _ _ _

end Aliases

/-! ### With `sysnet.py`'s `tf_cfg` -/

section Unbound

variable {server : Node} {name base : Bytes} {v : ℤ}

theorem createInterface_tfCfgDbg (hb : ipStrToNumber base = .ok v) {i : ℕ} (h0 : 0 ≤ v + i)
    (h : v + i < 2 ^ 32) (log : List Bytes) :
    createInterface tfCfgDbg server i name base log = .error (.nameError "tf_cfg".toList) log := by
  simp only [createInterface, bind_apply, hb, ofExcept_ok, pure_apply, ipNumberToStr_of_lt h0 h,
    tryCatch_apply, tfCfgDbg, throw_apply]

theorem removeInterface_tfCfgDbg (ip : Bytes) (log : List Bytes) :
    removeInterface tfCfgDbg server name ip log = .error (.nameError "tf_cfg".toList) log := by
  simp only [removeInterface, tryCatch_apply, bind_apply, tfCfgDbg, throw_apply]

/-- With `sysnet.py`'s own `tf_cfg`, `create_interfaces` of at least one alias
and `remove_interfaces` of at least one address raise `NameError` for
`tf_cfg` before running any command. -/
theorem interface_helpers_raise_nameError (server : Node) (name base : Bytes) {v : ℤ}
    (hb : ipStrToNumber base = .ok v) (n : ℕ) (ip : Bytes) (ips log : List Bytes) :
    createInterfaces tfCfgDbg server name base (n + 1) log = .error (.nameError "tf_cfg".toList) log ∧
      removeInterfaces tfCfgDbg server name (ip :: ips) log = .error (.nameError "tf_cfg".toList) log := by
  obtain ⟨h0, hlt⟩ := ipStrToNumber_range hb
  have hfirst : createInterfaces tfCfgDbg server name base 1 log = .error (.nameError "tf_cfg".toList) log := by
    simp only [createInterfaces_succ, bind_apply, createInterfaces_zero, pure_apply,
      createInterface_tfCfgDbg hb (by omega : 0 ≤ v + (0 : ℕ)) (by omega)]
  refine ⟨by simpa [Nat.add_comm] using createInterfaces_add_of_error hfirst n, ?_⟩
  rw [removeInterfaces_cons, bind_apply, removeInterface_tfCfgDbg]

/-- A node on which every command succeeds and prints nothing. -/
def quietNode : Node := ⟨fun _ _ => .ok []⟩

theorem quietNode_interface_helpers_raise_nameError :
    ipStrToNumber "10.0.0.1".toList = .ok 167772161 ∧
      createInterfaces tfCfgDbg quietNode "eth0".toList "10.0.0.1".toList (0 + 1) [] =
        .error (.nameError "tf_cfg".toList) [] ∧
      removeInterfaces tfCfgDbg quietNode "eth0".toList ["10.0.0.1".toList] [] =
        .error (.nameError "tf_cfg".toList) [] :=
  have hb : ipStrToNumber "10.0.0.1".toList = .ok 167772161 := rfl
  ⟨hb, interface_helpers_raise_nameError quietNode _ _ hb 0 _ [] []⟩

end Unbound

/-! ### With a `tf_cfg.dbg` that returns -/

section Working

variable {dbg : ℕ → Bytes → EStateM Exc (List Bytes) Unit} (hdbg : ∀ lvl msg log, dbg lvl msg log = .ok () log)
  {server : Node} {name base : Bytes} {v : ℤ}

include hdbg in
/-- With a `tf_cfg.dbg` that returns, `create_interface` runs `ip address add`
once and returns the alias and its address, whether the command succeeds or
fails. -/
theorem createInterface_of_dbg (hb : ipStrToNumber base = .ok v) {i : ℕ} (h0 : 0 ≤ v + i) (h : v + i < 2 ^ 32)
    (log : List Bytes) :
    createInterface dbg server i name base log =
      .ok (aliasName name i, dotted (v + i)) (log ++ [addressAddCmd (dotted (v + i)) name (aliasName name i)]) := by
  rcases hr : server.runCmd log (addressAddCmd (dotted (v + i)) name (aliasName name i)) with msg | res <;>
    simp only [createInterface, bind_apply, hb, ofExcept_ok, pure_apply, ipNumberToStr_of_lt h0 h,
      tryCatch_apply, hdbg, runCmd, hr]

/-- The commands `create_interfaces` runs for the first `n` aliases. -/
def addCmds (name : Bytes) (v : ℤ) (n : ℕ) : List Bytes :=
  (List.range n).map fun i : ℕ => addressAddCmd (dotted (v + i)) name (aliasName name i)

include hdbg in
/-- With a `tf_cfg.dbg` that returns and a base address at most `2 ^ 32 - n`,
`create_interfaces` returns the `n` addresses from the base on, whatever each
`ip address add` does. -/
theorem createInterfaces_of_dbg (hb : ipStrToNumber base = .ok v) :
    ∀ n : ℕ, v + n ≤ 2 ^ 32 → ∀ log, createInterfaces dbg server name base n log =
      .ok ((List.range n).map fun i : ℕ => dotted (v + i)) (log ++ addCmds name v n)
  | 0, _, log => by simp [createInterfaces_zero, addCmds]
  | n + 1, hn, log => by
    have h0 := (ipStrToNumber_range hb).1
    simp only [createInterfaces_succ, bind_apply, createInterfaces_of_dbg hb n (by omega) log,
      createInterface_of_dbg hdbg hb (by omega : 0 ≤ v + (n : ℕ)) (by omega), pure_apply]
    simp [addCmds, List.range_succ]

/-- The addresses `create_interfaces` returns are distinct. -/
theorem dotted_nodup (h0 : 0 ≤ v) (n : ℕ) (hn : v + n ≤ 2 ^ 32) :
    ((List.range n).map fun i : ℕ => dotted (v + i)).Nodup := by
  rw [List.Nodup, List.pairwise_map]
  refine (List.nodup_range n).imp_of_mem fun hi hj hij heq => hij ?_
  rw [List.mem_range] at hi hj
  have := dotted_injective (by omega) (by omega) (by omega) (by omega) heq
  omega

include hdbg in
/-- Past the end of the address space `create_interfaces` raises
`struct.error`, after adding the aliases below it, instead of wrapping around. -/
theorem createInterfaces_overflow (hb : ipStrToNumber base = .ok v) (n : ℕ) (hn : 2 ^ 32 < v + n)
    (log : List Bytes) :
    createInterfaces dbg server name base n log = .error .structError (log ++ addCmds name v (2 ^ 32 - v).toNat) := by
  obtain ⟨h0, hlt⟩ := ipStrToNumber_range hb
  obtain ⟨j, rfl⟩ : ∃ j, n = (2 ^ 32 - v).toNat + 1 + j := ⟨n - ((2 ^ 32 - v).toNat + 1), by omega⟩
  refine createInterfaces_add_of_error ?_ j
  simp only [createInterfaces_succ, bind_apply, createInterfaces_of_dbg hdbg hb (2 ^ 32 - v).toNat (by omega),
    createInterface_error_of_ge hb (by omega : 2 ^ 32 ≤ v + ((2 ^ 32 - v).toNat : ℕ))]

include hdbg in
theorem removeInterface_of_dbg (ip : Bytes) (log : List Bytes) :
    removeInterface dbg server name ip log = .ok () (log ++ [addressDelCmd ip name]) := by
  rcases hr : server.runCmd log (addressDelCmd ip name) with msg | res <;>
    simp only [removeInterface, tryCatch_apply, bind_apply, hdbg, runCmd, hr, pure_apply]

include hdbg in
/-- With a `tf_cfg.dbg` that returns, `remove_interfaces` runs `ip address del`
for each address and returns, whatever each command does. -/
theorem removeInterfaces_of_dbg (ips log : List Bytes) :
    removeInterfaces dbg server name ips log = .ok () (log ++ ips.map fun ip => addressDelCmd ip name) := by
  induction ips generalizing log with
  | nil => simp [removeInterfaces]
  | cons ip ips ih => simp [removeInterfaces_cons, bind_apply, removeInterface_of_dbg hdbg, ih]

include hdbg in
/-- With a `tf_cfg.dbg` that returns, `create_interfaces` returns the `n`
addresses from the base on, distinct and in order, having run one
`ip address add` for each whatever the command did, while they fit below
`2 ^ 32`; past that it raises `struct.error` after adding the aliases below
`2 ^ 32`, instead of wrapping around. -/
theorem createInterfaces_addresses (hb : ipStrToNumber base = .ok v) (n : ℕ) (log : List Bytes) :
    (v + n ≤ 2 ^ 32 → createInterfaces dbg server name base n log =
        .ok ((List.range n).map fun i : ℕ => dotted (v + i)) (log ++ addCmds name v n) ∧
      ((List.range n).map fun i : ℕ => dotted (v + i)).Nodup) ∧
    (2 ^ 32 < v + n →
      createInterfaces dbg server name base n log = .error .structError (log ++ addCmds name v (2 ^ 32 - v).toNat)) :=
  ⟨fun hn => ⟨createInterfaces_of_dbg hdbg hb n hn log, dotted_nodup (ipStrToNumber_range hb).1 n hn⟩,
    fun hn => createInterfaces_overflow hdbg hb n hn log⟩

end Working

theorem createInterfaces_addresses_two :
    (∀ lvl msg log, (fun _ _ => pure () : ℕ → Bytes → EStateM Exc (List Bytes) Unit) lvl msg log = .ok () log) ∧
      ipStrToNumber "10.0.0.1".toList = .ok 167772161 ∧
      ((167772161 : ℤ) + (2 : ℕ) ≤ 2 ^ 32 → createInterfaces (fun _ _ => pure ()) quietNode "eth0".toList
          "10.0.0.1".toList 2 [] = .ok ((List.range 2).map fun i : ℕ => dotted (167772161 + i))
            ([] ++ addCmds "eth0".toList 167772161 2) ∧
        ((List.range 2).map fun i : ℕ => dotted (167772161 + i)).Nodup) ∧
      ((2 : ℤ) ^ 32 < 167772161 + (2 : ℕ) → createInterfaces (fun _ _ => pure ()) quietNode "eth0".toList
          "10.0.0.1".toList 2 [] =
            .error .structError ([] ++ addCmds "eth0".toList 167772161 ((2 : ℤ) ^ 32 - 167772161).toNat)) :=
  have hb : ipStrToNumber "10.0.0.1".toList = .ok 167772161 := rfl
  ⟨fun _ _ _ => rfl, hb, createInterfaces_addresses (fun _ _ _ => rfl) hb 2 []⟩

theorem removeInterfaces_of_dbg_two :
    (∀ lvl msg log, (fun _ _ => pure () : ℕ → Bytes → EStateM Exc (List Bytes) Unit) lvl msg log = .ok () log) ∧
      removeInterfaces (fun _ _ => pure ()) quietNode "eth0".toList ["10.0.0.1".toList, "10.0.0.2".toList] [] =
        .ok () ([] ++ ["10.0.0.1".toList, "10.0.0.2".toList].map fun ip => addressDelCmd ip "eth0".toList) :=
  ⟨fun _ _ _ => rfl, removeInterfaces_of_dbg (fun _ _ _ => rfl) _ []⟩

end TempestaTest.Sysnet
