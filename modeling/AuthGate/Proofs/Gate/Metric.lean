import AuthGate.Gate.Metric
import Mathlib.Algebra.BigOperators.Group.List.Lemmas
import Mathlib.Algebra.GroupWithZero.Nat
import Mathlib.Data.List.Dedup

namespace AuthGate

section Counting

variable {α : Type} [BEq α] [LawfulBEq α]

theorem nodup_eraseDups (items : List α) : items.eraseDups.Nodup := by
  cases items with
  | nil => exact List.nodup_nil
  | cons item rest =>
    rw [List.eraseDups_cons, List.nodup_cons]
    refine ⟨?_, nodup_eraseDups _⟩
    simp [List.mem_eraseDups]
termination_by items.length
decreasing_by exact Nat.lt_succ_of_le (List.length_filter_le _ _)

theorem sum_count_eraseDups (select : α → Bool) (items : List α) :
    ((items.eraseDups.filter select).map fun item => items.count item).sum =
      items.countP select := by
  classical
  have decided : ‹BEq α› = instBEqOfDecidableEq := lawful_beq_subsingleton _ _
  subst decided
  have same : items.eraseDups.Perm items.dedup := by
    rw [List.perm_ext_iff_of_nodup (nodup_eraseDups items) (List.nodup_dedup items)]
    simp [List.mem_eraseDups]
  rw [((same.filter select).map _).sum_eq]
  exact List.sum_map_count_dedup_filter_eq_countP select items

end Counting

/-- How much a metric adds to a sum of counters. -/
def MetricValue.count : MetricValue → Nat
  | .counter count => count
  | .histogram _ => 0

namespace Metric

/-- The key of a metric. -/
def key (metric : Metric) : MetricKey := (metric.name, metric.labels)

/-- The sum of all counters with some keys. -/
def total (select : MetricKey → Bool) (metrics : List Metric) : Nat :=
  ((metrics.filter fun metric => select metric.key).map (·.value.count)).sum

variable {select : MetricKey → Bool}

theorem total_append (front behind : List Metric) :
    total select (front ++ behind) = total select front + total select behind := by
  simp [total]

theorem total_perm {metrics others : List Metric} (same : metrics.Perm others) :
    total select metrics = total select others :=
  ((same.filter _).map _).sum_eq

theorem total_tally (keys : List MetricKey) (value : Nat → MetricValue) :
    total select (tally keys value) =
      ((keys.eraseDups.filter select).map fun key => (value (keys.count key)).count).sum := by
  simp only [total, tally, List.filter_map, List.map_map]
  rfl

/-- The counters show how often their keys have been counted. -/
theorem total_ofMeasures (measures : List Measure) :
    total select (ofMeasures measures) = (measures.map counterKey).countP select := by
  have histograms (keys : List MetricKey) : total select (tally keys .histogram) = 0 := by
    simp [total_tally, MetricValue.count]
  rw [ofMeasures, total_perm (List.mergeSort_perm _ _), total_append, histograms, Nat.add_zero,
    total_tally]
  exact sum_count_eraseDups select _

end Metric
end AuthGate
