import Mathlib.Algebra.BigOperators.Group.List.Basic
import Mathlib.Algebra.GroupWithZero.Nat
import Noxis.Foundation.Stateful

namespace Foundation

/-!
# Arithmetic that fails instead of wrapping

Sums of 64-bit numbers are formed by additions that report an overflow.  A sum
that is reported is the exact sum of the natural numbers, and an overflow is
reported only when that sum does not fit.
-/

variable {ε α : Type}

def checkedAdd (left right : UInt64) : Option UInt64 :=
  if left.toNat + right.toNat < 2 ^ 64 then some (left + right) else none

theorem checkedAdd_eq_some {left right sum : UInt64} :
    checkedAdd left right = some sum <-> sum.toNat = left.toNat + right.toNat := by
  unfold checkedAdd
  by_cases fits : left.toNat + right.toNat < 2 ^ 64
  · rw [if_pos fits]
    have exact : (left + right).toNat = left.toNat + right.toNat := by
      rw [UInt64.toNat_add, Nat.mod_eq_of_lt fits]
    constructor
    · intro same
      rw [← Option.some.inj same, exact]
    · intro same
      rw [← exact] at same
      rw [UInt64.toNat_inj.mp same]
  · rw [if_neg fits]
    constructor
    · intro impossible
      cases impossible
    · intro same
      exact absurd (same ▸ sum.toNat_lt) fits

/-- Sum a measure of the entries of a list, from the front. -/
def sumChecked (overflow : ε) (measure : α -> Except ε UInt64) (start : UInt64)
    (values : List α) : Except ε UInt64 :=
  values.foldlM (fun total value => do
    let amount ← measure value
    match checkedAdd total amount with
    | some sum => .ok sum
    | none => .error overflow) start

variable {overflow : ε} {measure : α -> Except ε UInt64} {start total : UInt64}

theorem sumChecked_cons_eq_ok {value : α} {rest : List α} :
    sumChecked overflow measure start (value :: rest) = .ok total <->
      ∃ next amount, measure value = .ok amount /\ next.toNat = start.toNat + amount.toNat /\
        sumChecked overflow measure next rest = .ok total := by
  unfold sumChecked
  simp only [List.foldlM_cons, Except.bind_eq_ok]
  refine exists_congr (fun next => ?_)
  rw [exists_and_right.symm]
  refine exists_congr (fun amount => ?_)
  rw [← checkedAdd_eq_some, and_assoc]
  cases checkedAdd start amount with
  | none => simp
  | some found => simp

/-- The sum is reported exactly when every entry can be measured and the exact
sum is a 64-bit number. -/
theorem sumChecked_eq_ok {weight : α -> Nat}
    (weighed : forall value amount, measure value = .ok amount -> amount.toNat = weight value)
    {values : List α} :
    sumChecked overflow measure start values = .ok total <->
      (forall value, value ∈ values -> ∃ amount, measure value = .ok amount) /\
        total.toNat = start.toNat + (values.map weight).sum := by
  induction values generalizing start with
  | nil =>
    change Except.ok start = Except.ok total <-> _
    rw [Except.ok.injEq, ← UInt64.toNat_inj]
    simp [eq_comm]
  | cons value rest ih =>
    simp only [sumChecked_cons_eq_ok, ih, List.forall_mem_cons, List.map_cons, List.sum_cons]
    constructor
    · rintro ⟨next, amount, measured, added, others, isTotal⟩
      have exact := weighed value amount measured
      exact ⟨⟨⟨amount, measured⟩, others⟩, by omega⟩
    · rintro ⟨⟨⟨amount, measured⟩, others⟩, isTotal⟩
      have exact := weighed value amount measured
      have bounded := total.toNat_lt
      have added : (UInt64.ofNat (start.toNat + amount.toNat)).toNat =
          start.toNat + amount.toNat := by
        refine UInt64.toNat_ofNat_of_lt' ?_
        change start.toNat + amount.toNat < 2 ^ 64
        omega
      exact ⟨_, amount, measured, added, others, by omega⟩

end Foundation
