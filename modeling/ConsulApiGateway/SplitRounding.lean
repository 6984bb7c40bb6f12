/-
The percentages of a splitter.

The weights of a splitter are percentages.  Consul keeps them in hundredths and
asks that they sum up to 100.00, but each weight is rounded for itself.

* `round_div` — a share of the total in hundredths of a percent, rounded, by its
  quotient and remainder;
* `sum_share` — what the shares of the services sum up to;
* `splitter_sums_to_hundred_iff` — when this is 100.00;
* `thirds_do_not_sum_to_hundred` — three equal weights make 99.99.
-/
import ConsulApiGateway.ChainClosure
import Mathlib.Algebra.Order.BigOperators.Group.List
import Mathlib.Algebra.Order.Floor.Ring
import Mathlib.Data.Rat.Floor
import Mathlib.Tactic.Linarith
import Mathlib.Tactic.Ring

/-! ### math.Round -/

namespace GoStd

/-- `math.Round`: halves are rounded away from zero. -/
def round (x : ℚ) : ℤ := if 0 ≤ x then ⌊x + 1 / 2⌋ else ⌈x - 1 / 2⌉

theorem round_nonpos {x : ℚ} (h : x ≤ 0) : round x ≤ 0 := by
  unfold round
  split_ifs with hx
  · rw [le_antisymm h hx, Int.floor_le_iff]
    norm_num
  · rw [Int.ceil_le]
    push_cast
    linarith

/-- A fraction is rounded up when its remainder is at least one half. -/
theorem round_div {a t : ℤ} (ha : 0 ≤ a) (ht : 0 < t) :
    round ((a : ℚ) / t) = a / t + if t ≤ 2 * (a % t) then 1 else 0 := by
  have ht' : (0 : ℚ) < t := Int.cast_pos.mpr ht
  have hnonneg : (0 : ℚ) ≤ (a : ℚ) / t := div_nonneg (Int.cast_nonneg ha) ht'.le
  have hr : 0 ≤ a % t := Int.emod_nonneg a ht.ne'
  have hlt : a % t < t := Int.emod_lt_of_pos a ht
  have hdiv : t * (a / t) + a % t = a := Int.mul_ediv_add_emod a t
  generalize a / t = q at hdiv ⊢
  generalize a % t = r at hdiv hr hlt ⊢
  have hfraction : (a : ℚ) / t = q + (r : ℚ) / t := by
    rw [← hdiv, Int.cast_add, Int.cast_mul, add_div, mul_div_cancel_left₀ _ ht'.ne']
  have hr' : (0 : ℚ) ≤ (r : ℚ) / t := div_nonneg (Int.cast_nonneg hr) ht'.le
  have hlt' : (r : ℚ) / t < 1 := (div_lt_one ht').mpr (Int.cast_lt.mpr hlt)
  rw [round, if_pos hnonneg, hfraction, Int.floor_eq_iff]
  split_ifs with hhalf
  · have hhalf' : (1 : ℚ) / 2 ≤ (r : ℚ) / t := by
      rw [div_le_div_iff₀ two_pos ht', one_mul, mul_comm]
      exact_mod_cast hhalf
    push_cast
    constructor <;> linarith
  · have hhalf' : (r : ℚ) / t < 1 / 2 := by
      rw [div_lt_div_iff₀ ht' two_pos, one_mul, mul_comm]
      exact_mod_cast not_le.mp hhalf
    push_cast
    constructor <;> linarith

end GoStd

namespace Consul

open Core

/-! ### The rounded weights of a splitter -/

/-- The weight of a split in hundredths of a percent. -/
def ServiceSplit.hundredths (split : ServiceSplit) : ℤ := GoStd.round (split.weight * 100)

/-- The weight that the services have altogether; `totalWeight` is what is left of
it in 32 bits. -/
def weightSum (services : List HTTPService) : ℤ := (services.map HTTPService.weight).sum

/-- What is left of the share of a service, in hundredths of a percent, by the
division. -/
def remainder (total : ℤ) (service : HTTPService) : ℤ := 10000 * service.weight % total

/-- The services whose share is rounded up. -/
def roundedUp (total : ℤ) (services : List HTTPService) : ℕ :=
  services.countP fun service => total ≤ 2 * remainder total service

/-- What the shares that are rounded up gain is what the others lose. -/
def RoundsEvenly (services : List HTTPService) : Prop :=
  0 < totalWeight services ∧
    10000 * (weightSum services - totalWeight services) +
        totalWeight services * roundedUp (totalWeight services) services =
      (services.map (remainder (totalWeight services))).sum

instance (services : List HTTPService) : Decidable (RoundsEvenly services) := by
  unfold RoundsEvenly
  infer_instance

/-- The share of a service in the total, in hundredths of a percent. -/
def share (total : ℤ) (service : HTTPService) : ℤ :=
  GoStd.round ((10000 * service.weight : ℤ) / total : ℚ)

theorem sum_hundredths (services : List HTTPService) :
    ((splits services).map ServiceSplit.hundredths).sum =
      (services.map (share (totalWeight services))).sum := by
  unfold splits
  generalize totalWeight services = total
  induction services with
  | nil => rfl
  | cons service services ih =>
    rw [List.map_cons, List.sum_cons, List.filterMap_cons]
    by_cases hweight : service.weight = 0
    · -- a service without weight has no share either
      have hshare : share total service = 0 := by
        norm_num [share, hweight, GoStd.round]
      rw [if_pos hweight, hshare, zero_add]
      exact ih
    · rw [if_neg hweight, List.map_cons, List.sum_cons, ih]
      congr 1
      unfold ServiceSplit.hundredths share
      congr 1
      push_cast
      ring

theorem sum_share (services : List HTTPService) {total : ℤ} (htotal : 0 < total)
    (hweights : ∀ s ∈ services, 0 ≤ s.weight) :
    total * (services.map (share total)).sum + (services.map (remainder total)).sum =
      10000 * weightSum services + total * roundedUp total services := by
  induction services with
  | nil => simp [weightSum, roundedUp]
  | cons service services ih =>
    obtain ⟨hweight, hweights⟩ := List.forall_mem_cons.mp hweights
    have hshare : share total service = 10000 * service.weight / total +
        if total ≤ 2 * remainder total service then 1 else 0 :=
      GoStd.round_div (by omega) htotal
    have hdiv : total * (10000 * service.weight / total) + remainder total service =
      10000 * service.weight := Int.mul_ediv_add_emod (10000 * service.weight) total
    have hrest := ih hweights
    unfold weightSum roundedUp at hrest ⊢
    rw [List.map_cons, List.map_cons, List.map_cons, List.sum_cons, List.sum_cons, List.sum_cons,
      List.countP_cons, hshare]
    by_cases hup : total ≤ 2 * remainder total service
    · rw [if_pos hup, if_pos (decide_eq_true hup)]
      push_cast
      linarith
    · rw [if_neg hup, if_neg (by simpa using hup)]
      push_cast
      linarith

/-- What the rounded weights of the splits sum up to is 100.00 exactly if the
rounding is even.  Where the total overflows to zero or below, no share is
positive. -/
theorem sum_hundredths_eq_iff {services : List HTTPService}
    (hweights : ∀ s ∈ services, 0 ≤ s.weight) :
    ((splits services).map ServiceSplit.hundredths).sum = 10000 ↔ RoundsEvenly services := by
  rw [sum_hundredths]
  by_cases htotal : 0 < totalWeight services
  · have hsum := sum_share services htotal hweights
    unfold RoundsEvenly
    rw [← mul_right_inj' htotal.ne']
    constructor
    · intro h
      refine ⟨htotal, ?_⟩
      linarith
    · rintro ⟨-, h⟩
      linarith
  · have hshares : (services.map (share (totalWeight services))).sum ≤ 0 := by
      refine (List.sum_le_card_nsmul _ 0 fun n hn => ?_).trans (nsmul_zero _).le
      obtain ⟨service, hservice, rfl⟩ := List.mem_map.mp hn
      refine GoStd.round_nonpos (div_nonpos_of_nonneg_of_nonpos ?_ ?_)
      · exact Int.cast_nonneg (mul_nonneg (by decide) (hweights service hservice))
      · exact Int.cast_nonpos.mpr (not_lt.mp htotal)
    refine iff_of_false (by omega) fun h => htotal h.1

theorem exists_weight_ne_zero {services : List HTTPService} (h : weightSum services ≠ 0) :
    ∃ service ∈ services, service.weight ≠ 0 := by
  by_contra hnone
  push Not at hnone
  refine h (List.sum_eq_zero fun n hn => ?_)
  obtain ⟨service, hservice, rfl⟩ := List.mem_map.mp hn
  exact hnone service hservice

/-- **The weights of a splitter, rounded to hundredths of a percent.** A rule with
several services whose weights are in the range of the Gateway API and not all
zero has a splitter, and its rounded weights sum up to 100.00 exactly if what is
gained by rounding up is lost by rounding down. -/
theorem splitter_sums_to_hundred_iff {route : HTTPRoute} {idx : ℕ} {rule : HTTPRouteRule}
    (hrule : route.rules[idx]? = some rule) (hmany : 2 ≤ rule.services.length)
    (hweights : ∀ s ∈ rule.services, 0 ≤ s.weight ∧ s.weight ≤ 1000000)
    (htotal : weightSum rule.services ≠ 0) :
    ∃ splitter ∈ (httpRouteDiscoveryChain route).2,
      ruleSplitter route idx rule = some splitter ∧
      ((splitter.splits.map ServiceSplit.hundredths).sum = 10000 ↔
        RoundsEvenly rule.services) := by
  obtain ⟨service, hservice, hweight⟩ := exists_weight_ne_zero htotal
  have hone : rule.services.length ≠ 1 := by omega
  obtain ⟨splitter, hsplitter⟩ : ∃ splitter, ruleSplitter route idx rule = some splitter :=
    exists_ruleSplitter hone hservice hweight
  refine ⟨splitter, mem_httpSplitters.mpr ⟨idx, rule, hrule, hsplitter⟩, hsplitter, ?_⟩
  rw [(ruleSplitter_eq_some hsplitter).2]
  exact sum_hundredths_eq_iff fun s hs => (hweights s hs).1

namespace SampleThirds

/-- A route with one rule and services of the given weights. -/
def rule (weights : List ℤ) : HTTPRouteRule :=
  ⟨[], [], weights.map fun weight => ⟨⟨"", "web"⟩, weight, []⟩⟩

def route (weights : List ℤ) : HTTPRoute := ⟨∅, "route", "", ["*"], [rule weights]⟩

end SampleThirds

open SampleThirds

/-- Two equal weights sum up to 100.00. -/
theorem halves_sum_to_hundred :
    ∃ splitter ∈ (httpRouteDiscoveryChain (route [1, 1])).2,
      (splitter.splits.map ServiceSplit.hundredths).sum = 10000 := by
  have hrule : (route [1, 1]).rules[0]? = some (rule [1, 1]) := rfl
  obtain ⟨splitter, hmem, -, hiff⟩ :=
    splitter_sums_to_hundred_iff hrule (by decide) (by decide) (by decide)
  exact ⟨splitter, hmem, hiff.mpr (by decide)⟩

/-- **Three equal weights sum up to 99.99.** -/
theorem thirds_do_not_sum_to_hundred :
    2 ≤ (rule [1, 1, 1]).services.length ∧
    (∀ s ∈ (rule [1, 1, 1]).services, 0 ≤ s.weight ∧ s.weight ≤ 1000000) ∧
    weightSum (rule [1, 1, 1]).services ≠ 0 ∧
    ∃ splitter, (httpRouteDiscoveryChain (route [1, 1, 1])).2 = [splitter] ∧
      splitter.splits.map ServiceSplit.hundredths = [3333, 3333, 3333] ∧
      (splitter.splits.map ServiceSplit.hundredths).sum = 9999 := by
  refine ⟨by decide, by decide, by decide, _, rfl, ?_, ?_⟩
  · decide +kernel
  · decide +kernel

end Consul
