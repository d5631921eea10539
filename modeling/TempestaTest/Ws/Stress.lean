import Mathlib.Data.List.Basic

/-! The restarts of Tempesta in `Wss_stress.wss_ping_test` of
`ws/test_ws_ping.py`. Before the loop `next_restart` is drawn with
`randint(0, int(n/4))`; each of the `n` rounds adds one to `count` and, where
`count` meets `next_restart`, sets `count` to 0, draws `next_restart` again and
restarts Tempesta, then pings over a websocket. The draws are a parameter:
`randint k` is what the `k`-th call of `randint` returns, any natural number,
so every sequence `randint(0, int(n/4))` can return is one of them. Proved:
over every run, the restarts fall at the running sums of the draws, one round
before each sum, for as many draws as are met; a drawn value of at least 1 is
met that many rounds after it was drawn while rounds remain, but a drawn 0 is
never met, since `count` is at least 1 where it is compared, and the run makes
no restart after it however many rounds remain. The websocket exchange reads
and writes none of these variables and is not modelled. -/

namespace TempestaTest.Ws

/-- `count` and `next_restart` of `wss_ping_test`, the number of `randint`
calls so far, and the rounds, counted from 0, at which Tempesta was restarted. -/
structure Loop where
  count : ℕ
  nextRestart : ℕ
  draws : ℕ
  restarts : List ℕ
  deriving DecidableEq, Repr

variable (randint : ℕ → ℕ)

/-- Before the loop: `count = 0` and the first draw. -/
def Loop.init : Loop := ⟨0, randint 0, 1, []⟩

/-- Round `i` of `for _ in range(n)`: `count += 1`, and where it meets
`next_restart`, `count = 0`, a new draw and a restart. -/
def round (s : Loop) (i : ℕ) : Loop :=
  if s.count + 1 = s.nextRestart then ⟨0, randint s.draws, s.draws + 1, s.restarts ++ [i]⟩
  else { s with count := s.count + 1 }

/-- `wss_ping_test(port, n)`: the loop variables after its `n` rounds. -/
def wssPingTest (n : ℕ) : Loop := (List.range n).foldl (round randint) (Loop.init randint)

theorem wssPingTest_zero : wssPingTest randint 0 = Loop.init randint := rfl

theorem wssPingTest_succ (n : ℕ) : wssPingTest randint (n + 1) = round randint (wssPingTest randint n) n := by
  rw [wssPingTest, List.range_succ, List.foldl_append]
  rfl

example : (wssPingTest (fun _ => 3) 10).restarts = [2, 5, 8] := by decide

/-! ### The restarts, draw by draw -/

/-- The sum of the first `r` draws: the `r`-th restart comes in round
`meetAt r - 1` when every one of these draws is at least 1. -/
def meetAt : ℕ → ℕ
  | 0 => 0
  | r + 1 => meetAt r + randint r

theorem meetAt_mono {r r' : ℕ} (h : r ≤ r') : meetAt randint r ≤ meetAt randint r' := by
  induction h with
  | refl => exact le_rfl
  | step _ ih => exact ih.trans (Nat.le_add_right _ _)

/-- The loop after `i` rounds, with `r` restarts so far: the `k`-th restart
came in round `meetAt (k + 1) - 1`, every draw met was at least 1, `count`
has run since the last restart, and the current draw, if at least 1, is not
met yet. -/
structure Inv (i : ℕ) (s : Loop) : Prop where
  draws_eq : s.draws = s.restarts.length + 1
  next_eq : s.nextRestart = randint s.restarts.length
  restarts_eq : s.restarts = (List.range s.restarts.length).map fun k => meetAt randint (k + 1) - 1
  met_le : meetAt randint s.restarts.length ≤ i
  count_eq : s.count = i - meetAt randint s.restarts.length
  pos : ∀ k < s.restarts.length, 0 < randint k
  pending : 0 < randint s.restarts.length → i < meetAt randint (s.restarts.length + 1)

theorem Inv.init : Inv randint 0 (Loop.init randint) :=
  ⟨rfl, rfl, rfl, le_rfl, rfl, fun _ h => absurd h (Nat.not_lt_zero _), fun h => by simpa [meetAt] using h⟩

variable {randint}

/-- A round keeps the invariant: a restart happens exactly when the round
meets the sum of the draws. -/
theorem Inv.step {i : ℕ} {s : Loop} (h : Inv randint i s) : Inv randint (i + 1) (round randint s i) := by
  have hmet := h.met_le
  have hcount := h.count_eq
  have hnext := h.next_eq
  by_cases hr : s.count + 1 = s.nextRestart
  · have hsum : meetAt randint (s.restarts.length + 1) = i + 1 := by simp only [meetAt]; omega
    rw [round, if_pos hr]
    refine ⟨by simp [h.draws_eq], by simp [h.draws_eq], ?_, by simp [hsum], by simp [hsum], ?_, ?_⟩
    · simp only [List.length_append, List.length_singleton, List.range_succ, List.map_append, List.map_singleton,
        hsum, Nat.add_sub_cancel, ← h.restarts_eq]
    · simp only [List.length_append, List.length_singleton]
      intro k hk
      rcases Nat.lt_succ_iff_lt_or_eq.mp hk with hk | rfl
      exacts [h.pos k hk, by omega]
    · simp only [List.length_append, List.length_singleton, meetAt, hsum]
      omega
  · rw [round, if_neg hr]
    have hpending := h.pending
    refine ⟨h.draws_eq, h.next_eq, h.restarts_eq, by simp only; omega, by simp only; omega, h.pos, fun hp => ?_⟩
    have := hpending hp
    simp only [meetAt] at this ⊢
    omega

variable (randint)

theorem inv_wssPingTest (n : ℕ) : Inv randint n (wssPingTest randint n) := by
  induction n with
  | zero => rw [wssPingTest_zero]; exact Inv.init randint
  | succ n ih => rw [wssPingTest_succ]; exact ih.step

/-- The restarts of every run: the `k`-th in round `meetAt (k + 1) - 1`, for
as many draws as are met, each of them at least 1; after the last, the run
ends before the sum of the next draw, or that draw is 0. -/
theorem wssPingTest_restarts (n : ℕ) :
    (wssPingTest randint n).restarts =
        (List.range (wssPingTest randint n).restarts.length).map (fun k => meetAt randint (k + 1) - 1) ∧
      (∀ k < (wssPingTest randint n).restarts.length, 0 < randint k) ∧
      meetAt randint (wssPingTest randint n).restarts.length ≤ n ∧
      (randint (wssPingTest randint n).restarts.length = 0 ∨
        n < meetAt randint ((wssPingTest randint n).restarts.length + 1)) := by
  have h := inv_wssPingTest randint n
  refine ⟨h.restarts_eq, h.pos, h.met_le, ?_⟩
  rcases Nat.eq_zero_or_pos (randint (wssPingTest randint n).restarts.length) with h0 | hp
  exacts [.inl h0, .inr (by have := h.pending hp; omega)]

/-- A drawn value of at least 1 is met while rounds remain: if the first
`j + 1` draws are at least 1 and their sum is at most `n`, the run restarts a
`j + 1`-th time, in round `meetAt (j + 1) - 1`. -/
theorem restart_of_pos_draws (n j : ℕ) (hpos : ∀ k ≤ j, 0 < randint k) (hn : meetAt randint (j + 1) ≤ n) :
    (wssPingTest randint n).restarts[j]? = some (meetAt randint (j + 1) - 1) := by
  have h := inv_wssPingTest randint n
  have hj : j < (wssPingTest randint n).restarts.length := by
    by_contra hle
    have hmono := meetAt_mono randint (by omega : (wssPingTest randint n).restarts.length + 1 ≤ j + 1)
    have := h.pending (hpos _ (Nat.le_of_not_lt hle))
    omega
  rw [h.restarts_eq, List.getElem?_map, List.getElem?_range hj]
  rfl

theorem restart_of_pos_draws_three :
    (∀ k ≤ 1, 0 < (fun _ => 3 : ℕ → ℕ) k) ∧ meetAt (fun _ => 3) (1 + 1) ≤ 10 ∧
      (wssPingTest (fun _ => 3) 10).restarts[1]? = some (meetAt (fun _ => 3) (1 + 1) - 1) :=
  ⟨by decide, by decide, restart_of_pos_draws _ 10 1 (by decide) (by decide)⟩

/-! ### A drawn 0 -/

variable {randint}

theorem round_of_nextRestart_zero {s : Loop} (h : s.nextRestart = 0) (i : ℕ) :
    round randint s i = { s with count := s.count + 1 } := by
  rw [round, if_neg (by omega)]

/-- Once the `k`-th draw is 0, no more restarts come: every run makes at
most `k` restarts, and a run that has made `k` makes none in later rounds. -/
theorem zero_draw_stops_restarts (randint : ℕ → ℕ) (k : ℕ) (h : randint k = 0) (n m : ℕ) :
    (wssPingTest randint n).restarts.length ≤ k ∧
      ((wssPingTest randint n).restarts.length = k →
        (wssPingTest randint (n + m)).restarts = (wssPingTest randint n).restarts) := by
  refine ⟨Nat.le_of_not_lt fun hk => absurd h (Nat.pos_iff_ne_zero.mp ((inv_wssPingTest randint n).pos k hk)), ?_⟩
  intro hk
  have hstuck : ∀ m, (wssPingTest randint (n + m)).restarts = (wssPingTest randint n).restarts ∧
      (wssPingTest randint (n + m)).nextRestart = 0 := by
    intro m
    induction m with
    | zero => exact ⟨rfl, by rw [Nat.add_zero, (inv_wssPingTest randint n).next_eq, hk, h]⟩
    | succ m ih =>
      rw [← Nat.add_assoc, wssPingTest_succ, round_of_nextRestart_zero ih.2]
      exact ih
  exact (hstuck m).1

theorem zero_first_draw_no_restart :
    (fun _ => 0 : ℕ → ℕ) 0 = 0 ∧ (wssPingTest (fun _ => 0) 400).restarts.length ≤ 0 ∧
      ((wssPingTest (fun _ => 0) 400).restarts.length = 0 →
        (wssPingTest (fun _ => 0) (400 + 0)).restarts = (wssPingTest (fun _ => 0) 400).restarts) :=
  ⟨rfl, zero_draw_stops_restarts (fun _ => 0) 0 rfl 400 0⟩

end TempestaTest.Ws
