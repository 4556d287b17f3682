import Mathlib.Algebra.Order.BigOperators.Group.Finset

namespace Foundation

/-!
# Weighted quorums

A set of voters carries weights.  Up to `faults` of the weight may belong to
voters that misbehave, and a decision needs votes of weight at least `quorum`.
Two inequalities tie the numbers together.  One makes any two decisions share
a voter that does not misbehave; the other lets the remaining voters decide
when the faulty ones stay silent.  Both are fields, so that a quorum system
that violates them cannot be built.
-/

/-- Voters with weights, a decision threshold and a bound on faulty weight. -/
structure QuorumSystem (ι : Type) [DecidableEq ι] where
  voters : Finset ι
  weight : ι -> Nat
  quorum : Nat
  faults : Nat
  intersecting : (∑ voter ∈ voters, weight voter) + faults < 2 * quorum
  available : quorum + faults <= ∑ voter ∈ voters, weight voter

namespace QuorumSystem

variable {ι : Type} [DecidableEq ι] (system : QuorumSystem ι)

/-- The joint weight of a set of voters. -/
def weigh (set : Finset ι) : Nat := ∑ voter ∈ set, system.weight voter

/-- Two deciding sets share more weight than can be faulty. -/
theorem faults_lt_weigh_inter {left right : Finset ι} (leftVoters : left ⊆ system.voters)
    (rightVoters : right ⊆ system.voters) (leftDecides : system.quorum <= system.weigh left)
    (rightDecides : system.quorum <= system.weigh right) :
    system.faults < system.weigh (left ∩ right) := by
  have inclusionExclusion : system.weigh (left ∪ right) + system.weigh (left ∩ right) =
      system.weigh left + system.weigh right := Finset.sum_union_inter
  have atMostAll : system.weigh (left ∪ right) <= ∑ voter ∈ system.voters, system.weight voter :=
    Finset.sum_le_sum_of_subset (Finset.union_subset leftVoters rightVoters)
  have intersecting := system.intersecting
  omega

/-- A set that leaves out at most the faulty weight decides. -/
theorem quorum_le_weigh {set : Finset ι} (voters : set ⊆ system.voters)
    (omitted : system.weigh (system.voters \ set) <= system.faults) :
    system.quorum <= system.weigh set := by
  have split : system.weigh (system.voters \ set) + system.weigh set =
      ∑ voter ∈ system.voters, system.weight voter := Finset.sum_sdiff voters
  have available := system.available
  omega

end QuorumSystem
end Foundation
