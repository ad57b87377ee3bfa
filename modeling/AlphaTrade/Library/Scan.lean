import Mathlib.Data.List.Range

/-!
# Scans that index what they read

A loop `for i in range(n)` over indexed inputs folds a step that is told its index. What such a
loop can say about the past is settled by two facts: a step reads nothing beyond its index, and it
logs nothing but under its index.
-/
namespace AlphaTrade.Library

variable {σ β : Type*} (step : Nat → σ → σ)

def scan (start : σ) (n : Nat) : σ := (List.range n).foldl (fun s i => step i s) start

@[simp] theorem scan_zero (start : σ) : scan step start 0 = start := rfl

theorem scan_succ (start : σ) (n : Nat) :
    scan step start (n + 1) = step n (scan step start n) := by
  simp [scan, List.range_succ]

variable {inv : Nat → σ → Prop}

/-- What each step keeps holds after the scan. -/
theorem scan_invariant {start : σ} {n : Nat}
    (keep : ∀ i s, i < n → inv i s → inv (i + 1) (step i s)) (init : inv 0 start) :
    inv n (scan step start n) := by
  induction n with
  | zero => exact init
  | succ n ih =>
    rw [scan_succ]
    exact keep n _ (Nat.lt_succ_self n) (ih fun i s below => keep i s (by omega))

/-- Steps that agree below a bound, in the states that are met there, scan alike. -/
theorem scan_congr {other : Nat → σ → σ} {start : σ} {n : Nat}
    (keep : ∀ i s, i < n → inv i s → inv (i + 1) (step i s)) (init : inv 0 start)
    (agree : ∀ i s, i < n → inv i s → step i s = other i s) :
    scan step start n = scan other start n := by
  induction n with
  | zero => rfl
  | succ n ih =>
    have earlier : ∀ i s, i < n → inv i s → inv (i + 1) (step i s) := by grind
    rw [scan_succ, scan_succ, ← ih earlier fun i s below => agree i s (by omega)]
    exact agree n _ (Nat.lt_succ_self n) (scan_invariant step earlier init)

section Logging
variable {step} {log : σ → List β} {stamp : β → Nat} {start : σ}

def Logs (step : Nat → σ → σ) (log : σ → List β) (stamp : β → Nat) : Prop :=
  ∀ i s, ∃ added, log (step i s) = log s ++ added ∧ ∀ entry ∈ added, stamp entry = i

/-- The entries of a log are stamped below the bound of the scan. -/
theorem Logs.stamp_lt (logs : Logs step log stamp) (empty : log start = []) (n : Nat) :
    ∀ entry ∈ log (scan step start n), stamp entry < n := by
  induction n with
  | zero => simp [empty]
  | succ n ih =>
    obtain ⟨added, grown, stamped⟩ := logs n (scan step start n)
    rw [scan_succ, grown]
    grind

/-- The log of a shorter scan is the part of a longer one that is stamped below its bound. -/
theorem Logs.filter_lt (logs : Logs step log stamp) (empty : log start = []) {m n : Nat}
    (shorter : m ≤ n) :
    (log (scan step start n)).filter (stamp · < m) = log (scan step start m) := by
  induction n, shorter using Nat.le_induction with
  | base => simpa using logs.stamp_lt empty m
  | succ n le ih =>
    obtain ⟨added, grown, stamped⟩ := logs n (scan step start n)
    have late : added.filter (stamp · < m) = [] := by
      simp only [List.filter_eq_nil_iff]
      grind
    rw [scan_succ, grown, List.filter_append, ih, late, List.append_nil]

end Logging
end AlphaTrade.Library
