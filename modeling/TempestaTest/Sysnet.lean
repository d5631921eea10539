import TempestaTest.Method
import TempestaTest.Str

/-! The MTU helpers of `helpers/sysnet.py`: `route_dst_ip`, `get_mtu` and
`change_mtu`. `node.run_cmd` and `helpers.error.Error` are not in the
source; the node is a parameter that, given the commands run on it before,
either prints the next command's output or makes `run_cmd` raise `Error`
with a message. A helper's state is the list of commands it has run.
Proved: on a node that prints what the `grep` pipelines print,
`route_dst_ip` returns the device or raises `Error`; `get_mtu` returns the
MTU but, where a command fails, raises `NameError`, since its handler and the
one of `change_mtu` format `ip`, which neither function binds; a
`change_mtu` that returns gives the MTU `get_mtu` read before the change,
and `get_mtu` reads the new MTU after it. In the only caller,
`TlsIntegrityTester.tcp_flow_check`, a failing route command fails the test
with its message as intended, but a failing MTU command raises `NameError`,
and one in the restore of `mtu_ctx` replaces the exception of the body; a
`tcp_flow_check` that returns has set the MTU back. -/

namespace TempestaTest.Sysnet

open Str

/-- The exceptions that can leave the helpers. -/
inductive Exc
  /-- `helpers.error.Error` with its message. -/
  | error (msg : Bytes)
  /-- `NameError` for a name that is not bound. -/
  | nameError (name : Bytes)
  /-- `IndexError` from `res.split()[1]`. -/
  | indexError
  /-- `ValueError` from `int(...)`. -/
  | valueError
  /-- `AssertionError` from `self.fail` in the caller. -/
  | assertionError (msg : Bytes)
  /-- `socket.error`, an `IOError`, from `socket.inet_aton` and `socket.inet_ntoa`. -/
  | osError
  /-- `TypeError` from the argument parsing of `socket.inet_aton`, for a string
  with a NUL byte. -/
  | typeError
  /-- `struct.error` from `struct.pack` and `struct.unpack`. -/
  | structError
  deriving DecidableEq, Repr

/-- A remote node as `run_cmd` sees it: given the commands run before, the
text the next command prints, or the message of the `Error` that `run_cmd` raises. -/
structure Node where
  runCmd : List Bytes → Bytes → Except Bytes Bytes

/-- `node.run_cmd(command)`, keeping the printed text of `(res, _)`. -/
def runCmd (node : Node) (cmd : Bytes) : EStateM Exc (List Bytes) Bytes := fun log =>
  match node.runCmd log cmd with
  | .ok res => .ok res (log ++ [cmd])
  | .error msg => .error (.error msg) (log ++ [cmd])

/-- `xs[i]`. -/
def getItem (xs : List Bytes) (i : ℕ) : EStateM Exc (List Bytes) Bytes :=
  match xs.get? i with
  | some x => pure x
  | none => throw .indexError

/-- `int(s)`. -/
def int (s : Bytes) : EStateM Exc (List Bytes) ℤ :=
  match parseInt s with
  | some n => pure n
  | none => throw .valueError

/-! ### The helpers -/

/-- `"LANG=C ip route get to %s | grep -o 'dev [a-zA-Z0-9_-]*'" % ip`. -/
def routeCmd (ip : Bytes) : Bytes :=
  "LANG=C ip route get to ".toList ++ ip ++ " | grep -o \x27dev [a-zA-Z0-9_-]*\x27".toList

/-- `"LANG=C ip addr show %s|grep -o 'mtu [0-9]*'" % dev`. -/
def mtuCmd (dev : Bytes) : Bytes :=
  "LANG=C ip addr show ".toList ++ dev ++ "|grep -o \x27mtu [0-9]*\x27".toList

/-- `"LANG=C ip link set %s mtu %d" % (dev, mtu)`. -/
def setMtuCmd (dev : Bytes) (mtu : ℤ) : Bytes :=
  "LANG=C ip link set ".toList ++ dev ++ " mtu ".toList ++ formatInt mtu

/-- `route_dst_ip`: the device of the route to `ip`. -/
def routeDstIp (node : Node) (ip : Bytes) : EStateM Exc (List Bytes) Bytes :=
  tryCatch (do
      let res ← runCmd node (routeCmd ip)
      getItem (split res) 1)
    fun
    | .error err => throw (.error ("Can not determine outgoing device for ".toList ++ ip ++ ": ".toList ++ err))
    | e => throw e

/-- What the handlers of `get_mtu` and `change_mtu` raise: their messages are
formatted with `% (ip, err)`, and neither function nor the module binds `ip`. -/
def unboundIp : Exc := .nameError "ip".toList

/-- `get_mtu`: the MTU of `dev`. -/
def getMtu (node : Node) (dev : Bytes) : EStateM Exc (List Bytes) ℤ :=
  tryCatch (do
      let res ← runCmd node (mtuCmd dev)
      int (← getItem (split res) 1))
    fun
    | .error _ => throw unboundIp
    | e => throw e

/-- `change_mtu`: set the MTU of `dev` and return the one before. -/
def changeMtu (node : Node) (dev : Bytes) (mtu : ℤ) : EStateM Exc (List Bytes) ℤ := do
  let prevMtu ← getMtu node dev
  let _ ← tryCatch (runCmd node (setMtuCmd dev mtu)) fun
    | .error _ => throw unboundIp
    | e => throw e
  if mtu ≠ (← getMtu node dev) then
    throw (.error ("Cannot set MTU ".toList ++ formatInt mtu ++ " for device ".toList ++ dev))
  return prevMtu

/-! ### What the helpers read -/

/-- Output of `grep -o 'mtu [0-9]*'` whose first line gives the MTU `v`. -/
def MtuOutput (res : Bytes) (v : ℕ) : Prop :=
  ∃ w rest, res = "mtu ".toList ++ w ++ '\n' :: rest ∧ w ≠ [] ∧ (∀ c ∈ w, c.isDigit = true) ∧
    decimalValue w = v

/-- Output of `grep -o 'dev [a-zA-Z0-9_-]*'` whose first line names the device `name`. -/
def DevOutput (res name : Bytes) : Prop :=
  ∃ rest, res = "dev ".toList ++ name ++ '\n' :: rest ∧ name ≠ [] ∧ ∀ c ∈ name, isSpace c = false

/-- Every run of the MTU command for `dev` on `node` raises `Error` or prints `mtu` lines. -/
def PrintsMtu (node : Node) (dev : Bytes) : Prop :=
  ∀ log res, node.runCmd log (mtuCmd dev) = .ok res → ∃ v, MtuOutput res v

/-- Every run of the route command for `ip` on `node` raises `Error` or prints `dev` lines. -/
def PrintsDev (node : Node) (ip : Bytes) : Prop :=
  ∀ log res, node.runCmd log (routeCmd ip) = .ok res → ∃ name, DevOutput res name

theorem split_mtuOutput (w rest : Bytes) (hne : w ≠ []) (hd : ∀ c ∈ w, c.isDigit = true) :
    split ("mtu ".toList ++ w ++ '\n' :: rest) = "mtu".toList :: w :: split rest := by
  have hw : ∀ c ∈ w, isSpace c = false := fun c hc => isSpace_of_isDigit (hd c hc)
  rw [show "mtu ".toList ++ w ++ '\n' :: rest = "mtu".toList ++ ' ' :: (w ++ '\n' :: rest) by simp,
    split_append _ (by decide) (by decide) (by decide), split_append w hw hne (by decide)]

theorem split_devOutput (name rest : Bytes) (hne : name ≠ []) (hw : ∀ c ∈ name, isSpace c = false) :
    split ("dev ".toList ++ name ++ '\n' :: rest) = "dev".toList :: name :: split rest := by
  rw [show "dev ".toList ++ name ++ '\n' :: rest = "dev".toList ++ ' ' :: (name ++ '\n' :: rest) by simp,
    split_append _ (by decide) (by decide) (by decide), split_append name hw hne (by decide)]

/-! ### `get_mtu` and `route_dst_ip` -/

section Node

variable {node : Node} {log : List Bytes} {msg res : Bytes}

theorem getMtu_of_error {dev : Bytes} (h : node.runCmd log (mtuCmd dev) = .error msg) :
    getMtu node dev log = .error unboundIp (log ++ [mtuCmd dev]) := by
  simp only [getMtu, tryCatch_apply, bind_apply, runCmd, h]
  rfl

theorem getMtu_of_mtuOutput {dev : Bytes} {v : ℕ} (h : node.runCmd log (mtuCmd dev) = .ok res)
    (hv : MtuOutput res v) : getMtu node dev log = .ok (v : ℤ) (log ++ [mtuCmd dev]) := by
  obtain ⟨w, rest, rfl, hne, hd, rfl⟩ := hv
  simp only [getMtu, tryCatch_apply, bind_apply, runCmd, h, split_mtuOutput w rest hne hd]
  simp [getItem, int, parseInt_of_digits hne hd]

/-- On a node that prints `mtu` lines, `get_mtu` returns the MTU, or raises
`NameError` where the command fails; it never raises `Error`. -/
theorem getMtu_cases {dev : Bytes} (hn : PrintsMtu node dev) (log : List Bytes) :
    (∃ v : ℕ, getMtu node dev log = .ok (v : ℤ) (log ++ [mtuCmd dev])) ∨
      getMtu node dev log = .error unboundIp (log ++ [mtuCmd dev]) := by
  rcases h : node.runCmd log (mtuCmd dev) with msg | res
  · exact .inr (getMtu_of_error h)
  · obtain ⟨v, hv⟩ := hn log res h
    exact .inl ⟨v, getMtu_of_mtuOutput h hv⟩

theorem routeDstIp_of_error {ip : Bytes} (h : node.runCmd log (routeCmd ip) = .error msg) :
    routeDstIp node ip log = .error (.error ("Can not determine outgoing device for ".toList ++ ip ++
      ": ".toList ++ msg)) (log ++ [routeCmd ip]) := by
  simp only [routeDstIp, tryCatch_apply, bind_apply, runCmd, h]
  rfl

theorem routeDstIp_of_devOutput {ip name : Bytes} (h : node.runCmd log (routeCmd ip) = .ok res)
    (hv : DevOutput res name) : routeDstIp node ip log = .ok name (log ++ [routeCmd ip]) := by
  obtain ⟨rest, rfl, hne, hw⟩ := hv
  simp only [routeDstIp, tryCatch_apply, bind_apply, runCmd, h, split_devOutput name rest hne hw]
  rfl

/-- On a node that prints `dev` lines, `route_dst_ip` returns the device, or
raises `Error` with the command's message where the command fails. -/
theorem routeDstIp_cases {ip : Bytes} (hn : PrintsDev node ip) (log : List Bytes) :
    (∃ name, routeDstIp node ip log = .ok name (log ++ [routeCmd ip])) ∨
      ∃ msg, routeDstIp node ip log = .error (.error msg) (log ++ [routeCmd ip]) := by
  rcases h : node.runCmd log (routeCmd ip) with msg | res
  · exact .inr ⟨_, routeDstIp_of_error h⟩
  · obtain ⟨name, hv⟩ := hn log res h
    exact .inl ⟨name, routeDstIp_of_devOutput h hv⟩

end Node

/-! ### `change_mtu` -/

section ChangeMtu

variable {node : Node} {dev : Bytes} {mtu : ℤ} {log s : List Bytes}

/-- The `Error` of `change_mtu` when `get_mtu` reads another MTU after the change. -/
def cannotSetMtu (dev : Bytes) (mtu : ℤ) : Exc :=
  .error ("Cannot set MTU ".toList ++ formatInt mtu ++ " for device ".toList ++ dev)

theorem changeMtu_of_getMtu_error {e : Exc} (h : getMtu node dev log = .error e s) :
    changeMtu node dev mtu log = .error e s := by
  simp only [changeMtu, bind_apply, h]

theorem changeMtu_of_set_error {prev : ℤ} {msg : Bytes} (h : getMtu node dev log = .ok prev s)
    (hset : node.runCmd s (setMtuCmd dev mtu) = .error msg) :
    changeMtu node dev mtu log = .error unboundIp (s ++ [setMtuCmd dev mtu]) := by
  simp only [changeMtu, bind_apply, tryCatch_apply, h, runCmd, hset]
  rfl

theorem changeMtu_of_reread_error {prev : ℤ} {res : Bytes} {e : Exc} {s₂ : List Bytes}
    (h : getMtu node dev log = .ok prev s) (hset : node.runCmd s (setMtuCmd dev mtu) = .ok res)
    (h₂ : getMtu node dev (s ++ [setMtuCmd dev mtu]) = .error e s₂) :
    changeMtu node dev mtu log = .error e s₂ := by
  simp only [changeMtu, bind_apply, tryCatch_apply, h, runCmd, hset, h₂]

theorem changeMtu_of_reread {prev v : ℤ} {res : Bytes} {s₂ : List Bytes}
    (h : getMtu node dev log = .ok prev s) (hset : node.runCmd s (setMtuCmd dev mtu) = .ok res)
    (h₂ : getMtu node dev (s ++ [setMtuCmd dev mtu]) = .ok v s₂) :
    changeMtu node dev mtu log = if mtu = v then .ok prev s₂ else .error (cannotSetMtu dev mtu) s₂ := by
  simp only [changeMtu, bind_apply, tryCatch_apply, h, runCmd, hset, h₂, ne_eq, ite_not]
  split <;> rfl

/-- A `change_mtu` that returns gives the MTU `get_mtu` read before it set
the new one, and `get_mtu` read `mtu` after. -/
theorem changeMtu_returns {prev : ℤ} {s' : List Bytes} (h : changeMtu node dev mtu log = .ok prev s') :
    ∃ s, getMtu node dev log = .ok prev s ∧ (∃ res, node.runCmd s (setMtuCmd dev mtu) = .ok res) ∧
      getMtu node dev (s ++ [setMtuCmd dev mtu]) = .ok mtu s' := by
  rcases h₁ : getMtu node dev log with ⟨p, s⟩ | ⟨e, s⟩
  · rcases hset : node.runCmd s (setMtuCmd dev mtu) with msg | res
    · rw [changeMtu_of_set_error h₁ hset] at h
      cases h
    rcases h₂ : getMtu node dev (s ++ [setMtuCmd dev mtu]) with ⟨v, s₂⟩ | ⟨e, s₂⟩
    · rw [changeMtu_of_reread h₁ hset h₂] at h
      split at h
      · cases h
        subst mtu
        exact ⟨s, rfl, ⟨res, hset⟩, h₂⟩
      · cases h
    · rw [changeMtu_of_reread_error h₁ hset h₂] at h
      cases h
  · rw [changeMtu_of_getMtu_error h₁] at h
    cases h

/-- On a node that prints `mtu` lines, `change_mtu` returns, raises `Error`
when `get_mtu` reads another MTU after the change, or raises `NameError`
where a command fails. -/
theorem changeMtu_cases (hn : PrintsMtu node dev) (mtu : ℤ) (log : List Bytes) :
    (∃ prev s, changeMtu node dev mtu log = .ok prev s) ∨
      (∃ s, changeMtu node dev mtu log = .error (cannotSetMtu dev mtu) s) ∨
      ∃ s, changeMtu node dev mtu log = .error unboundIp s := by
  rcases getMtu_cases hn log with ⟨v, h₁⟩ | h₁
  · rcases hset : node.runCmd (log ++ [mtuCmd dev]) (setMtuCmd dev mtu) with msg | res
    · exact .inr (.inr ⟨_, changeMtu_of_set_error h₁ hset⟩)
    rcases getMtu_cases hn (log ++ [mtuCmd dev] ++ [setMtuCmd dev mtu]) with ⟨v', h₂⟩ | h₂
    · rw [changeMtu_of_reread h₁ hset h₂]
      split
      · exact .inl ⟨_, _, rfl⟩
      · exact .inr (.inl ⟨_, rfl⟩)
    · exact .inr (.inr ⟨_, changeMtu_of_reread_error h₁ hset h₂⟩)
  · exact .inr (.inr ⟨_, changeMtu_of_getMtu_error h₁⟩)

end ChangeMtu

/-- Where the MTU command fails, `get_mtu` raises `NameError` for `ip`, and
so does `change_mtu`, before it sets anything. -/
theorem mtu_helpers_raise_nameError (node : Node) (dev : Bytes) (mtu : ℤ) (log : List Bytes)
    (msg : Bytes) (h : node.runCmd log (mtuCmd dev) = .error msg) :
    getMtu node dev log = .error (.nameError "ip".toList) (log ++ [mtuCmd dev]) ∧
      changeMtu node dev mtu log = .error (.nameError "ip".toList) (log ++ [mtuCmd dev]) :=
  ⟨getMtu_of_error h, changeMtu_of_getMtu_error (getMtu_of_error h)⟩

/-- A node without the device `eth9`: every command fails. -/
def noDevice : Node := ⟨fun _ _ => .error "Device \"eth9\" does not exist.".toList⟩

theorem noDevice_mtu_helpers_raise_nameError :
    noDevice.runCmd [] (mtuCmd "eth9".toList) = .error "Device \"eth9\" does not exist.".toList ∧
      getMtu noDevice "eth9".toList [] = .error (.nameError "ip".toList) [mtuCmd "eth9".toList] ∧
      changeMtu noDevice "eth9".toList 1500 [] = .error (.nameError "ip".toList) [mtuCmd "eth9".toList] :=
  ⟨rfl, mtu_helpers_raise_nameError noDevice _ 1500 [] _ rfl⟩

/-! ### The caller -/

/-- `TlsIntegrityTester.mtu_ctx`: run the body, then, whether it returned or
raised, set the MTU of `dev` back to `mtu`; an exception of the restore
replaces the body's. -/
def mtuCtx (node : Node) (dev : Bytes) (mtu : ℤ) (body : EStateM Exc (List Bytes) Unit) :
    EStateM Exc (List Bytes) Unit := fun log =>
  match body log with
  | .ok () log => match changeMtu node dev mtu log with
    | .ok _ log => .ok () log
    | .error e log => .error e log
  | .error e log => match changeMtu node dev mtu log with
    | .ok _ log => .error e log
    | .error e' log => .error e' log

/-- `except Error as err: self.fail(err)`: fail the test on `Error`, and let
any other exception through. -/
def failOnError : Exc → EStateM Exc (List Bytes) α
  | .error err => throw (.assertionError err)
  | e => throw e

theorem failOnError_apply (e : Exc) (s : List Bytes) :
    (failOnError e s : EStateM.Result Exc (List Bytes) α) =
      .error (match e with | .error err => .assertionError err | e => e) s := by
  cases e <;> rfl

/-- The MTU steps of `TlsIntegrityTester.tcp_flow_check` around its body (the
request, the response check and the sniffer): find the device of the route
to `addr` and set its MTU to 1500, failing the test on `Error`, then run the
body in `mtu_ctx`. -/
def tcpFlowCheck (node : Node) (addr : Bytes) (body : EStateM Exc (List Bytes) Unit) :
    EStateM Exc (List Bytes) Unit := do
  let (dev, prevMtu) ← tryCatch (do
      let dev ← routeDstIp node addr
      let prevMtu ← changeMtu node dev 1500
      pure (dev, prevMtu))
    failOnError
  mtuCtx node dev prevMtu body

section Caller

variable {node : Node} {addr dev msg : Bytes} {body : EStateM Exc (List Bytes) Unit} {log s : List Bytes}

/-- Where the route command fails, `tcp_flow_check` fails the test with the
message of `route_dst_ip`'s `Error`. -/
theorem tcpFlowCheck_of_route_error (h : node.runCmd log (routeCmd addr) = .error msg) :
    tcpFlowCheck node addr body log = .error (.assertionError ("Can not determine outgoing device for ".toList ++
      addr ++ ": ".toList ++ msg)) (log ++ [routeCmd addr]) := by
  simp only [tcpFlowCheck, bind_apply, tryCatch_apply, routeDstIp_of_error h]
  rfl

/-- Where the MTU command fails once the route is found, `tcp_flow_check`
raises `NameError` instead of failing the test. -/
theorem tcpFlowCheck_of_mtu_error (hroute : routeDstIp node addr log = .ok dev s)
    (h : node.runCmd s (mtuCmd dev) = .error msg) :
    tcpFlowCheck node addr body log = .error unboundIp (s ++ [mtuCmd dev]) := by
  simp only [tcpFlowCheck, bind_apply, tryCatch_apply, hroute, changeMtu_of_getMtu_error (getMtu_of_error h)]
  rfl

/-- When the body raises and the restore finds the MTU command failing, the
body's exception is lost to a `NameError`. -/
theorem mtuCtx_masks {mtu : ℤ} {e : Exc} (hbody : body log = .error e s)
    (h : node.runCmd s (mtuCmd dev) = .error msg) :
    mtuCtx node dev mtu body log = .error unboundIp (s ++ [mtuCmd dev]) := by
  simp only [mtuCtx, hbody, changeMtu_of_getMtu_error (getMtu_of_error h)]

/-- A `tcp_flow_check` that returns has set the MTU back: the restore's last
`get_mtu` read the MTU that `change_mtu` found before the test. -/
theorem tcpFlowCheck_restores {s' : List Bytes} (h : tcpFlowCheck node addr body log = .ok () s') :
    ∃ dev s₁ prev s₂, routeDstIp node addr log = .ok dev s₁ ∧ getMtu node dev s₁ = .ok prev s₂ ∧
      ∃ s₃, getMtu node dev s₃ = .ok prev s' := by
  rcases hr : routeDstIp node addr log with ⟨dev, s₁⟩ | ⟨e, s₁⟩
  swap
  · simp only [tcpFlowCheck, bind_apply, tryCatch_apply, hr, failOnError_apply] at h
    cases h
  rcases hc : changeMtu node dev 1500 s₁ with ⟨prev, s₂⟩ | ⟨e, s₂⟩
  swap
  · simp only [tcpFlowCheck, bind_apply, tryCatch_apply, hr, hc, failOnError_apply] at h
    cases h
  simp only [tcpFlowCheck, bind_apply, tryCatch_apply, hr, hc, pure_apply] at h
  obtain ⟨s₀, hget, -⟩ := changeMtu_returns hc
  rcases hb : body s₂ with ⟨⟨⟩, s₄⟩ | ⟨e, s₄⟩ <;>
    rcases hm : changeMtu node dev prev s₄ with ⟨p, s₅⟩ | ⟨e', s₅⟩ <;>
    simp only [mtuCtx, hb, hm] at h <;> cases h
  obtain ⟨s₃, -, -, hget'⟩ := changeMtu_returns hm
  exact ⟨dev, s₁, prev, s₀, rfl, hget, _, hget'⟩

end Caller

/-- A node whose route to `10.0.0.1` goes through `eth0`, whose MTU reads 1500,
and on which every command succeeds. -/
def steadyNode : Node :=
  ⟨fun _ cmd => if cmd = routeCmd "10.0.0.1".toList then .ok "dev eth0\n".toList else .ok "mtu 1500\n".toList⟩

theorem tcpFlowCheck_restores_steadyNode :
    ∃ s', tcpFlowCheck steadyNode "10.0.0.1".toList (pure ()) [] = .ok () s' ∧
      ∃ dev s₁ prev s₂, routeDstIp steadyNode "10.0.0.1".toList [] = .ok dev s₁ ∧
        getMtu steadyNode dev s₁ = .ok prev s₂ ∧ ∃ s₃, getMtu steadyNode dev s₃ = .ok prev s' :=
  ⟨_, rfl, @tcpFlowCheck_restores steadyNode "10.0.0.1".toList (pure ()) [] _ rfl⟩

end TempestaTest.Sysnet
