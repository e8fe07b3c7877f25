import Mathlib.Data.Rat.Defs
import Mathlib.Algebra.Order.Ring.Rat
import Mathlib.Tactic.Linarith
import R2N.Common

/-!
# Paths to a peer

`r2n-dataplane`'s `PathManager`: the addresses a peer can be reached at, with smoothed round trip
time, jitter and loss, and the index of the active one.  The smoothed values are exact rationals
in place of `f32`, and an `Instant` is a number of nanoseconds.

The active index is always that of a path.  `PathManager` carries this as a field, so that
`active_addr` cannot panic.
-/

namespace R2N

/-- `std::time::Instant`, in nanoseconds. -/
abbrev Instant := ℕ

/-- `Duration::from_secs`. -/
def fromSecs (s : ℕ) : ℕ := s * 1000000000

/-- `Duration::as_secs`. -/
def asSecs (d : ℕ) : ℕ := d / 1000000000

/-- Fewer than `n` whole seconds have passed since `t` as long as it is before `t` plus `n`. -/
lemma asSecs_sub_lt_iff {now t n : ℕ} (hn : 0 < n) :
    asSecs (now - t) < n ↔ now < t + fromSecs n := by
  unfold asSecs fromSecs
  omega

structure PathInfo where
  addr : SocketAddr
  isRelay : Bool
  rttEwma : ℚ
  jitterEwma : ℚ
  lossEwma : ℚ
  lastSuccess : Instant
deriving DecidableEq

namespace PathInfo

def new (now : Instant) (addr : SocketAddr) (isRelay : Bool) : PathInfo where
  addr := addr
  isRelay := isRelay
  rttEwma := if isRelay then 100 else 200
  jitterEwma := 0
  lossEwma := 0
  lastSuccess := now

def score (p : PathInfo) : ℚ :=
  let relayPenalty := if p.isRelay then 80 else 0
  p.rttEwma + p.jitterEwma * 2 + p.lossEwma * 1000 + relayPenalty

def updateRtt (now : Instant) (p : PathInfo) (rttMs : ℚ) : PathInfo :=
  let alpha := 1 / 8
  let diff := rttMs - p.rttEwma
  { p with
    rttEwma := p.rttEwma + alpha * diff
    jitterEwma := p.jitterEwma + alpha * (|diff| - p.jitterEwma)
    lastSuccess := now }

end PathInfo

/-- `f32::MAX`. -/
def f32Max : ℚ := 340282346638528859811704183484516925440

/-- The loop of `PathManager::reevaluate` from index `i` on: the best index and its score. -/
def bestPath (now : Instant) : ℕ → ℕ × ℚ → List PathInfo → ℕ × ℚ
  | _, best, [] => best
  | i, best, p :: ps =>
      let best :=
        if asSecs (now - p.lastSuccess) < 5 ∧ p.score < best.2 then (i, p.score) else best
      bestPath now (i + 1) best ps

lemma bestPath_fst (now : Instant) (i : ℕ) (best : ℕ × ℚ) (ps : List PathInfo)
    (hbest : best.1 < i + ps.length) : (bestPath now i best ps).1 < i + ps.length := by
  induction ps generalizing i best with
  | nil => exact hbest
  | cons p ps ih =>
      have hlen : i + (p :: ps).length = i + 1 + ps.length := by
        simp only [List.length_cons]
        omega
      rw [bestPath, hlen]
      apply ih
      split_ifs
      · show i < i + 1 + ps.length
        omega
      · omega

/-- `PathManager`, with the fact that its active index is in range. -/
structure PathManager where
  paths : List PathInfo
  activeIndex : ℕ
  active_lt : activeIndex < paths.length
deriving DecidableEq

namespace PathManager

def new (now : Instant) (relayAddr : SocketAddr) : PathManager where
  paths := [PathInfo.new now relayAddr true]
  activeIndex := 0
  active_lt := by simp

/-- `self.paths[self.active_index]`. -/
def active (m : PathManager) : PathInfo := m.paths.get ⟨m.activeIndex, m.active_lt⟩

def activeAddr (m : PathManager) : SocketAddr := m.active.addr

/-- `add_or_update_path`; no caller reads the index it returns. -/
def addOrUpdatePath (now : Instant) (m : PathManager) (addr : SocketAddr) (isRelay : Bool) :
    PathManager :=
  if m.paths.any fun p => p.addr = addr then m
  else
    { paths := m.paths ++ [PathInfo.new now addr isRelay]
      activeIndex := m.activeIndex
      active_lt := by
        have := m.active_lt
        simp only [List.length_append]
        omega }

/-- Changes the first path with address `addr`, as `iter_mut().find(..)` does. -/
def modifyFirst (addr : SocketAddr) (f : PathInfo → PathInfo) : List PathInfo → List PathInfo
  | [] => []
  | p :: ps => if p.addr = addr then f p :: ps else p :: modifyFirst addr f ps

@[simp] lemma length_modifyFirst (addr : SocketAddr) (f : PathInfo → PathInfo)
    (ps : List PathInfo) : (modifyFirst addr f ps).length = ps.length := by
  induction ps with
  | nil => rfl
  | cons p ps ih =>
      rw [modifyFirst]
      split_ifs
      · rfl
      · simp [ih]

/-- `PathManager::reevaluate` on the manager with paths `paths`. -/
def reevaluate (now : Instant) (paths : List PathInfo) (h : 0 < paths.length) : PathManager where
  paths := paths
  activeIndex := (bestPath now 0 (0, f32Max) paths).1
  active_lt := by
    have := bestPath_fst now 0 (0, f32Max) paths (by omega)
    omega

lemma paths_pos (m : PathManager) : 0 < m.paths.length := by
  have := m.active_lt
  omega

def recordSuccess (now : Instant) (m : PathManager) (addr : SocketAddr) (rttMs : ℚ) :
    PathManager :=
  let update := fun p : PathInfo =>
    let p := p.updateRtt now rttMs
    { p with lossEwma := p.lossEwma * (1 - 1 / 10) + 1 / 10 * 0 }
  reevaluate now (modifyFirst addr update m.paths) (by simpa using m.paths_pos)

def recordFailure (now : Instant) (m : PathManager) (addr : SocketAddr) : PathManager :=
  let update := fun p : PathInfo =>
    { p with lossEwma := p.lossEwma * (1 - 1 / 10) + 1 / 10 * 1 }
  reevaluate now (modifyFirst addr update m.paths) (by simpa using m.paths_pos)

/-- `paths.iter().find(|p| p.addr == addr).map(|p| p.is_relay).unwrap_or(false)`. -/
def isRelayAddr (m : PathManager) (addr : SocketAddr) : Bool :=
  match m.paths.find? fun p => p.addr = addr with
  | some p => p.isRelay
  | none => false

end PathManager

end R2N
