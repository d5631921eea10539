import Mathlib.Logic.Basic

/-! A Python method as an `EStateM` computation: its state is the attributes
it can touch, and a raised exception keeps the attributes assigned before it.
`after` is the state a call leaves either way. `Returns p x` says every value
`x` returns satisfies `p`; `Leads pre post x` says `x` ends, returning or
raising, in a state with `post` when it starts in one with `pre`; `Keeps inv x`
and `Establishes inv x` are the cases `pre = post = inv` and `pre = True`.
`Triple pre x ok err` keeps the two endings apart, with what was returned or
raised, for properties that change as a method goes from line to line.
Each comes with one rule per way a `do` block is built, so that a method's
property follows its code line by line. -/

namespace TempestaTest

variable {ε σ α β : Type}

/-- The attributes as a call left them, whether it returned or raised. -/
def after : EStateM.Result ε σ α → σ
  | .ok _ s => s
  | .error _ s => s

@[simp] theorem after_ok (a : α) (s : σ) : after (.ok a s : EStateM.Result ε σ α) = s := rfl

@[simp] theorem after_error (e : ε) (s : σ) : after (.error e s : EStateM.Result ε σ α) = s := rfl

theorem bind_apply (x : EStateM ε σ α) (f : α → EStateM ε σ β) (s : σ) :
    (x >>= f) s = match x s with
      | .ok a s => f a s
      | .error e s => .error e s := rfl

@[simp] theorem get_apply (s : σ) : (get : EStateM ε σ σ) s = .ok s s := rfl

@[simp] theorem throw_apply (e : ε) (s : σ) : (throw e : EStateM ε σ α) s = .error e s := rfl

@[simp] theorem pure_apply (a : α) (s : σ) : (pure a : EStateM ε σ α) s = .ok a s := rfl

@[simp] theorem modify_apply (f : σ → σ) (s : σ) : (modify f : EStateM ε σ PUnit) s = .ok () (f s) := rfl

/-- A `do` block's join points: a branch that raises skips the rest, one that
passes on `()` runs it. -/
theorem throw_bind_eq (e : ε) (f : α → EStateM ε σ β) : (throw e >>= f : EStateM ε σ β) = throw e := rfl

theorem pure_bind_eq (a : α) (f : α → EStateM ε σ β) : (pure a >>= f : EStateM ε σ β) = f a := rfl

/-- A pure function's result, returned or raised, in a method. -/
@[simp] theorem ofExcept_ok (a : α) : (ofExcept (.ok a : Except ε α) : EStateM ε σ α) = pure a := rfl

@[simp] theorem ofExcept_error (e : ε) : (ofExcept (.error e : Except ε α) : EStateM ε σ α) = throw e := rfl

/-- A pure function's `return` and `raise`, and the `do` block that goes on
after its value or stops at its exception. -/
@[simp] theorem except_pure (a : α) : (pure a : Except ε α) = .ok a := rfl

@[simp] theorem except_throw (e : ε) : (throw e : Except ε α) = .error e := rfl

@[simp] theorem except_ok_bind (a : α) (f : α → Except ε β) : (Except.ok a >>= f) = f a := rfl

@[simp] theorem except_error_bind (e : ε) (f : α → Except ε β) : (Except.error e >>= f) = .error e := rfl

theorem tryCatch_apply (x : EStateM ε σ α) (handle : ε → EStateM ε σ α) (s : σ) :
    (tryCatch x handle : EStateM ε σ α) s = match x s with
      | .ok a s => .ok a s
      | .error e s => handle e s := by
  change EStateM.tryCatch x handle s = _
  rcases h : x s with ⟨a, s'⟩ | ⟨e, s'⟩
  · simp only [EStateM.tryCatch, h]
  · simp only [EStateM.tryCatch, h]
    rfl

/-! ### Returned values -/

/-- Every value `x` returns satisfies `p`. -/
def Returns (p : α → Prop) (x : EStateM ε σ α) : Prop :=
  ∀ s a s', x s = .ok a s' → p a

namespace Returns

variable {p : α → Prop}

theorem pure {a : α} (h : p a) : Returns p (Pure.pure a : EStateM ε σ α) := by
  intro s b s' hx
  cases hx
  exact h

theorem throw {e : ε} : Returns p (MonadExcept.throw e : EStateM ε σ α) := by
  intro s b s' hx
  cases hx

theorem bind {q : β → Prop} {x : EStateM ε σ β} {f : β → EStateM ε σ α} (hx : Returns q x)
    (hf : ∀ b, q b → Returns p (f b)) : Returns p (x >>= f) := by
  intro s a s' h
  rw [bind_apply] at h
  split at h
  · exact hf _ (hx _ _ _ (by assumption)) _ _ _ h
  · cases h

/-- The rule for a `bind` whose first part returns anything. -/
theorem bind_any {x : EStateM ε σ β} {f : β → EStateM ε σ α} (hf : ∀ b, Returns p (f b)) :
    Returns p (x >>= f) :=
  bind (fun _ _ _ _ => trivial : Returns (fun _ => True) x) fun b _ => hf b

theorem tryCatch {x : EStateM ε σ α} {handle : ε → EStateM ε σ α} (hx : Returns p x)
    (hh : ∀ e, Returns p (handle e)) : Returns p (MonadExcept.tryCatch x handle) := by
  intro s a s' h
  rw [tryCatch_apply] at h
  split at h
  · cases h
    exact hx _ _ _ (by assumption)
  · exact hh _ _ _ _ h

end Returns

/-! ### Invariants of the state -/

/-- From a state with `pre`, `x` ends, returning or raising, in a state with `post`. -/
def Leads (pre post : σ → Prop) (x : EStateM ε σ α) : Prop :=
  ∀ s, pre s → post (after (x s))

/-- From a state with `inv`, `x` ends, returning or raising, in a state with `inv`. -/
def Keeps (inv : σ → Prop) (x : EStateM ε σ α) : Prop := Leads inv inv x

/-- From any state, `x` ends, returning or raising, in a state with `inv`. -/
def Establishes (inv : σ → Prop) (x : EStateM ε σ α) : Prop := Leads (fun _ => True) inv x

namespace Leads

variable {pre post : σ → Prop}

/-- An exception in `x` skips `f`, so `f` has to keep what `x` ends in. -/
theorem bind {x : EStateM ε σ β} {f : β → EStateM ε σ α} (hx : Leads pre post x)
    (hf : ∀ b, Keeps post (f b)) : Leads pre post (x >>= f) := by
  intro s hs
  have := hx s hs
  rw [bind_apply]
  split <;> simp_all [after]
  exact hf _ _ this

theorem tryCatch {x : EStateM ε σ α} {handle : ε → EStateM ε σ α} (hx : Leads pre post x)
    (hh : ∀ e, Keeps post (handle e)) : Leads pre post (MonadExcept.tryCatch x handle) := by
  intro s hs
  have := hx s hs
  rw [tryCatch_apply]
  split <;> simp_all [after]
  exact hh _ _ this

end Leads

namespace Keeps

variable {inv : σ → Prop}

theorem pure {a : α} : Keeps inv (Pure.pure a : EStateM ε σ α) := fun _ h => h

theorem throw {e : ε} : Keeps inv (MonadExcept.throw e : EStateM ε σ α) := fun _ h => h

theorem get : Keeps inv (MonadState.get : EStateM ε σ σ) := fun _ h => h

theorem modify {f : σ → σ} (hf : ∀ s, inv s → inv (f s)) :
    Keeps inv (MonadState.modifyGet fun s => ((), f s) : EStateM ε σ Unit) := hf

theorem set {s' : σ} (h : inv s') : Keeps inv (MonadState.set s' : EStateM ε σ PUnit) := fun _ _ => h

theorem bind {x : EStateM ε σ β} {f : β → EStateM ε σ α} (hx : Keeps inv x) (hf : ∀ b, Keeps inv (f b)) :
    Keeps inv (x >>= f) :=
  Leads.bind hx hf

theorem tryCatch {x : EStateM ε σ α} {handle : ε → EStateM ε σ α} (hx : Keeps inv x)
    (hh : ∀ e, Keeps inv (handle e)) : Keeps inv (MonadExcept.tryCatch x handle) :=
  Leads.tryCatch hx hh

end Keeps

namespace Establishes

variable {inv : σ → Prop}

theorem bind {x : EStateM ε σ β} {f : β → EStateM ε σ α} (hx : Establishes inv x)
    (hf : ∀ b, Keeps inv (f b)) : Establishes inv (x >>= f) :=
  Leads.bind hx hf

theorem modify {f : σ → σ} (hf : ∀ s, inv (f s)) :
    Establishes inv (MonadState.modifyGet fun s => ((), f s) : EStateM ε σ Unit) := fun s _ => hf s

end Establishes

/-! ### Returned values and exceptions together -/

/-- From a state with `pre`, `x` returns `a` in a state with `ok a`, or
raises `e` in a state with `err e`. -/
def Triple (pre : σ → Prop) (x : EStateM ε σ α) (ok : α → σ → Prop) (err : ε → σ → Prop) : Prop :=
  ∀ s, pre s → match x s with
    | .ok a s' => ok a s'
    | .error e s' => err e s'

namespace Triple

variable {pre : σ → Prop} {ok : α → σ → Prop} {err : ε → σ → Prop}

theorem pure {a : α} (h : ∀ s, pre s → ok a s) : Triple pre (Pure.pure a : EStateM ε σ α) ok err := h

theorem throw {e : ε} (h : ∀ s, pre s → err e s) : Triple pre (MonadExcept.throw e : EStateM ε σ α) ok err := h

theorem get : Triple pre (MonadState.get : EStateM ε σ σ) (fun a s => a = s ∧ pre s) err :=
  fun _ hs => ⟨rfl, hs⟩

theorem modify {f : σ → σ} {ok : Unit → σ → Prop} (h : ∀ s, pre s → ok () (f s)) :
    Triple pre (MonadState.modifyGet fun s => ((), f s) : EStateM ε σ Unit) ok err := h

theorem bind {mid : β → σ → Prop} {x : EStateM ε σ β} {f : β → EStateM ε σ α} (hx : Triple pre x mid err)
    (hf : ∀ b, Triple (mid b) (f b) ok err) : Triple pre (x >>= f) ok err := by
  intro s hs
  have hx' := hx s hs
  rw [bind_apply]
  rcases h : x s with ⟨b, s'⟩ | ⟨e, s'⟩ <;> rw [h] at hx'
  · exact hf b s' hx'
  · exact hx'

theorem tryCatch {mid : ε → σ → Prop} {x : EStateM ε σ α} {handle : ε → EStateM ε σ α}
    (hx : Triple pre x ok mid) (hh : ∀ e, Triple (mid e) (handle e) ok err) :
    Triple pre (MonadExcept.tryCatch x handle) ok err := by
  intro s hs
  have hx' := hx s hs
  rw [tryCatch_apply]
  rcases h : x s with ⟨a, s'⟩ | ⟨e, s'⟩ <;> rw [h] at hx'
  · exact hx'
  · exact hh e s' hx'

/-- A fact every state with `pre` gives can be used to prove the rest. -/
theorem assume {x : EStateM ε σ α} {P : Prop} (hP : ∀ s, pre s → P) (h : P → Triple pre x ok err) :
    Triple pre x ok err :=
  fun s hs => h (hP s hs) s hs

theorem mono {pre' : σ → Prop} {ok' : α → σ → Prop} {err' : ε → σ → Prop} {x : EStateM ε σ α}
    (h : Triple pre x ok err) (hpre : ∀ s, pre' s → pre s) (hok : ∀ a s, ok a s → ok' a s)
    (herr : ∀ e s, err e s → err' e s) : Triple pre' x ok' err' := by
  intro s hs
  have h' := h s (hpre s hs)
  rcases hx : x s with ⟨a, s'⟩ | ⟨e, s'⟩ <;> rw [hx] at h'
  · exact hok a s' h'
  · exact herr e s' h'

end Triple

end TempestaTest
