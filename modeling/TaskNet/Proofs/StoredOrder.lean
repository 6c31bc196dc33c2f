import Mathlib.Algebra.BigOperators.Group.Finset.Basic
import Mathlib.Algebra.GroupWithZero.Nat
import TaskNet.Proofs.Freezing

/-!
# The order of the store

The store may yield assertions in any order. As long as no two of them have the same ordinal,
look-ups find the targets in the order in which they were stated. Every assertion is found by
exactly one look-up.
-/

namespace TaskNet

/-- Sorting by ordinals restores the order in which assertions were stated. -/
theorem mergeSort_eq_of_perm {stored stated : List Assertion} (hperm : stored.Perm stated)
    (hstated : stated.Pairwise (·.ordinal < ·.ordinal)) :
    stored.mergeSort (fun hit other => hit.ordinal ≤ other.ordinal) = stated := by
  have hdistinct : (stated.map (·.ordinal)).Nodup :=
    List.pairwise_map.2 (hstated.imp Nat.ne_of_lt)
  have hsorted : (stored.mergeSort fun hit other => hit.ordinal ≤ other.ordinal).Pairwise
      fun hit other => decide (hit.ordinal ≤ other.ordinal) := by
    refine List.pairwise_mergeSort (fun hit other third => ?_) (fun hit other => ?_) stored
    · simp only [decide_eq_true_eq]
      omega
    · simp only [Bool.or_eq_true, decide_eq_true_eq]
      omega
  have hstated_sorted : stated.Pairwise fun hit other => decide (hit.ordinal ≤ other.ordinal) :=
    hstated.imp fun hlt => decide_eq_true (Nat.le_of_lt hlt)
  have hsame := (List.mergeSort_perm stored fun hit other => hit.ordinal ≤ other.ordinal).trans hperm
  refine List.Perm.eq_of_pairwise ?_ hsorted hstated_sorted hsame
  intro hit other hhit hother hle hge
  rw [decide_eq_true_eq] at hle hge
  exact List.inj_on_of_nodup_map hdistinct (hsame.mem_iff.1 hhit) hother (Nat.le_antisymm hle hge)

namespace KnowledgeGraph

theorem filter_outgoing (graph : KnowledgeGraph) (entity : EntityId) (relation : Relation) :
    (graph.outgoing entity).filter (·.relation = relation) =
      graph.assertions.filter fun assertion =>
        assertion.subject = entity && assertion.relation = relation := by
  rw [outgoing, List.filter_filter]
  exact List.filter_congr fun assertion _ => Bool.and_comm _ _

/-- Look-ups find targets as they were stated, in whatever order the store has them. -/
theorem related_eq_of_perm {graph : KnowledgeGraph} {stated : List Assertion}
    (hperm : graph.assertions.Perm stated) (hstated : stated.Pairwise (·.ordinal < ·.ordinal))
    (entity : EntityId) (relation : Relation) :
    graph.related entity relation =
      if graph.has entity then
        (stated.filter fun assertion =>
          assertion.subject = entity && assertion.relation = relation).map (·.object)
      else [] := by
  unfold related
  rw [filter_outgoing]
  by_cases hhas : graph.has entity
  · rw [if_pos hhas, if_pos hhas]
    exact congrArg _ (mergeSort_eq_of_perm (hperm.filter _) (hstated.filter _))
  · rw [if_neg hhas, if_neg hhas]

theorem length_related {graph : KnowledgeGraph} {entity : EntityId} (hhas : graph.has entity)
    (relation : Relation) : (graph.related entity relation).length =
      (graph.outgoing entity).countP (·.relation = relation) := by
  rw [related, if_pos hhas, List.length_map, List.length_mergeSort, List.countP_eq_length_filter]

/-! ### Counting -/

/-- Everything is counted once if it is counted under each of the keys that there are. -/
theorem sum_countP_eq_length {α β : Type} [DecidableEq β] (key : α → β) {keys : List β}
    (hkeys : keys.Nodup) {entries : List α} (hmem : ∀ entry ∈ entries, key entry ∈ keys) :
    (keys.map fun k => entries.countP fun entry => key entry = k).sum = entries.length := by
  have hcount (k : β) :
      entries.countP (fun entry => key entry = k) = Multiset.count k (entries.map key) := by
    rw [Multiset.coe_count, List.count, List.countP_map]
    rfl
  have hkey : ∀ k ∈ (entries.map key : Multiset β), k ∈ keys.toFinset := by
    simpa using hmem
  simp only [hcount]
  rw [← List.sum_toFinset _ hkeys, Multiset.sum_count_eq_card hkey, Multiset.coe_card,
    List.length_map]

theorem nodup_all : Relation.all.Nodup := by decide

theorem nodup_first (count : Nat) : (EntityId.first count).Nodup :=
  (List.nodup_range).map fun _ _ h => by simpa using congrArg EntityId.slot h

/-- Every assertion between entities of the graph is found by one look-up. -/
theorem assertionCount_eq_sum {graph : KnowledgeGraph}
    (hsubjects : ∀ assertion ∈ graph.assertions, graph.has assertion.subject) :
    graph.assertionCount = (graph.ids.map fun entity =>
      (Relation.all.map fun relation => (graph.related entity relation).length).sum).sum := by
  have hids (entity : EntityId) : entity ∈ graph.ids ↔ graph.has entity := by
    rw [ids, EntityId.mem_first, has, decide_eq_true_eq, entityCount]
  have hrelations {entity : EntityId} (hentity : entity ∈ graph.ids) :
      (Relation.all.map fun relation => (graph.related entity relation).length).sum =
        graph.assertions.countP (·.subject = entity) := by
    simp only [length_related ((hids entity).1 hentity)]
    rw [sum_countP_eq_length Assertion.relation nodup_all fun assertion _ => Relation.mem_all _,
      outgoing, List.countP_eq_length_filter]
  rw [List.map_congr_left fun entity hentity => hrelations hentity]
  exact (sum_countP_eq_length Assertion.subject (nodup_first graph.entityCount)
    fun assertion hassertion => (hids _).2 (hsubjects assertion hassertion)).symm

end KnowledgeGraph

/-- As long as ordinals suffice, assertions are counted upwards. -/
theorem Draft.WellFormed.pairwise_ordinal {draft : Draft} (h : draft.WellFormed)
    (hcount : draft.assertions.size ≤ UInt32.size) :
    draft.assertions.toList.Pairwise (·.ordinal < ·.ordinal) := by
  rw [List.pairwise_iff_getElem]
  intro place later hplace hlater hlt
  rw [Array.length_toList] at hplace hlater
  have hordinal := h.ordinal place _ (Array.getElem?_eq_getElem hplace)
  have hlater_ordinal := h.ordinal later _ (Array.getElem?_eq_getElem hlater)
  rw [Array.getElem_toList, Array.getElem_toList, hordinal, hlater_ordinal]
  unfold Assertion.lastOrdinal
  omega

end TaskNet
