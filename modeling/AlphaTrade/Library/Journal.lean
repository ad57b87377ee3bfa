import Mathlib.Algebra.BigOperators.Group.List.Basic
import Mathlib.Algebra.Order.BigOperators.Group.List

/-!
# Journals of keyed postings

Every change of a total is written down as a posting under a key. The total is
then the sum of the postings, and it splits into the balances of the keys. An
invariant that fixes one balance is local to its key, and `sum_eq_sum_balance`
turns all of them into the value of the total.
-/
namespace AlphaTrade.Library

variable {ι κ M : Type*} [DecidableEq κ] [AddCommMonoid M] (key : ι → κ) (amount : ι → M)

def balance (js : List ι) (k : κ) : M :=
  ((js.filter fun j => key j = k).map amount).sum

@[simp] theorem balance_nil (k : κ) : balance key amount [] k = 0 := rfl

theorem balance_cons (j : ι) (js : List ι) (k : κ) :
    balance key amount (j :: js) k =
      (if key j = k then amount j else 0) + balance key amount js k := by
  by_cases h : key j = k <;> simp [balance, h]

theorem balance_append (js ks : List ι) (k : κ) :
    balance key amount (js ++ ks) k = balance key amount js k + balance key amount ks k := by
  simp [balance]

@[simp] theorem balance_concat_self (js : List ι) (j : ι) :
    balance key amount (js ++ [j]) (key j) = balance key amount js (key j) + amount j := by
  simp [balance_append, balance_cons]

variable {k : κ} {js : List ι} {keys : List κ}

theorem balance_concat_of_ne (js : List ι) {j : ι} (h : key j ≠ k) :
    balance key amount (js ++ [j]) k = balance key amount js k := by
  simp [balance_append, balance_cons, h]

theorem balance_eq_zero (h : ∀ j ∈ js, key j ≠ k) : balance key amount js k = 0 := by
  have : js.filter (fun j => key j = k) = [] := by simpa [List.filter_eq_nil_iff] using h
  simp [balance, this]

/-- A single key collects its own indicator once. -/
theorem sum_indicator (nodup : keys.Nodup) (hk : k ∈ keys) (m : M) :
    (keys.map fun j => if k = j then m else 0).sum = m := by
  induction keys with
  | nil => simp at hk
  | cons j keys ih =>
    obtain ⟨fresh, nodup⟩ := List.nodup_cons.mp nodup
    by_cases h : k = j
    · subst h
      have rest : (keys.map fun i => if k = i then m else 0) = keys.map fun _ => (0 : M) :=
        List.map_congr_left fun i hi => if_neg (by rintro rfl; exact fresh hi)
      simp [rest]
    · simpa [h] using ih nodup ((List.mem_cons.mp hk).resolve_left h)

/-- A total is the sum of the balances, over any list of distinct keys that
covers the postings. -/
theorem sum_eq_sum_balance (nodup : keys.Nodup) (covered : ∀ j ∈ js, key j ∈ keys) :
    (js.map amount).sum = (keys.map fun k => balance key amount js k).sum := by
  induction js with
  | nil => simp
  | cons j js ih =>
    have tail := ih fun i hi => covered i (List.mem_cons_of_mem _ hi)
    simp only [balance_cons, List.sum_map_add, List.map_cons, List.sum_cons, tail,
      sum_indicator nodup (covered j (by simp))]

/-- The postings of a kind and the others make up all of them. -/
theorem sum_filter_and_add (p q : ι → Prop) [DecidablePred p] [DecidablePred q] (js : List ι) :
    ((js.filter fun j => p j ∧ q j).map amount).sum +
        ((js.filter fun j => p j ∧ ¬q j).map amount).sum =
      ((js.filter fun j => p j).map amount).sum := by
  induction js with
  | nil => simp
  | cons j js ih =>
    by_cases hp : p j <;> by_cases hq : q j
    · simp [hp, hq, ← ih, add_assoc]
    · simp [hp, hq, ← ih, add_left_comm]
    · simpa [hp, hq] using ih
    · simpa [hp, hq] using ih

end AlphaTrade.Library
