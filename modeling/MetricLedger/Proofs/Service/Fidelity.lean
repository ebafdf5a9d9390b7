import MetricLedger.Proofs.Decimal.Rounded
import MetricLedger.Proofs.Service.Runs

/-!
# Reported rates

What is reported of a rate that was posted, for as long as its record is kept: the rate rounded to
28 digits. So a rate with more digits is not reported as it was posted.
-/

namespace MetricLedger

open Decimal (IsShort RoundsTo)
open Json (Value)
open Storage (Database Tables)

namespace Trace

theorem Sound.last_rate {trace : Trace} {t : Tables} (h : trace.Sound t)
    {before after : List (Int × Submission)} {capacity : Int} {submission : Submission}
    (haccepted : trace.accepted = before ++ (capacity, submission) :: after) {m : Metric}
    (hm : submission.metric = .ok m) {kind : RateKind}
    (hkind : submission.type.rateKind? = some kind) {denom : String} {rate : Decimal}
    (hrate : submission.rate = .ok (denom, rate))
    (hafter : ∀ post ∈ after, ¬(post.2.type.rateKind? = some kind ∧ post.2.denom = .ok denom ∧
      post.2.updateTime = .integer m.updateTime)) :
    ∃ s, (Store.rates kind).Holds t denom s ∧ ∀ r ∈ s.items, r.updateTime = m.updateTime →
      r.IsReadBackOf ⟨kind, .text denom, rate, m.updateTime⟩ := by
  have hfollows := h.follow.rates kind denom
  have hentry := Submission.enteredRate?_of_rate hm hkind hrate capacity
  rw [haccepted, List.filterMap_append, List.filterMap_cons_some hentry] at hfollows
  refine hfollows.last (RateRecord.renders kind) fun entry hlater => ?_
  obtain ⟨post, hpost, hposted⟩ := List.mem_filterMap.1 hlater
  obtain ⟨m', rate', hm', hkind', hrate', rfl⟩ := Submission.enteredRate?_eq_some hposted
  intro htime
  refine hafter post hpost ⟨hkind', (Submission.rate_eq_ok hrate').1, ?_⟩
  rw [(Submission.metric_eq_ok hm').2]
  exact congrArg Value.integer htime

/-- **A rate is reported rounded to 28 digits.** This is what becomes of an accepted rate, as long
as no other one is accepted for its kind, its denom and its time: the record that is kept of it, if
any, has the rate as it was posted only if the rate has no more digits than that. -/
theorem run_reports (steps : List (Service × Request)) {before after : List (Int × Submission)}
    {capacity : Int} {submission : Submission} {kind : RateKind}
    (haccepted : (run steps).accepted = before ++ (capacity, submission) :: after)
    (htype : submission.type = .rate kind) :
    ∃ denom text posted q time, submission.denom = .ok denom ∧
      submission.value = .text text ∧ Rate.ofText text = .ok posted ∧ posted.value? = some q ∧
      submission.updateTime = .integer time ∧
      ((∀ post ∈ after, ¬(post.2.type.rateKind? = some kind ∧ post.2.denom = .ok denom ∧
          post.2.updateTime = .integer time)) →
        ∃ records : List RateRecord,
          Service.historicalRates kind denom .null .null (run steps).database =
            (.ok records, (run steps).database) ∧
          (∀ n : Nat, Service.historicalRates kind denom .null (.integer n) (run steps).database =
            (.ok (records.take n), (run steps).database)) ∧
          Service.latestRate kind denom .null (run steps).database =
            (match records.head? with
              | some r => .ok r
              | none => .error (.refused (.notFound kind.label denom)), (run steps).database) ∧
          ∀ r ∈ records, r.updateTime = time →
            ∃ reported, r.rate.value? = some reported ∧ RoundsTo q reported ∧
              (reported = q ↔ IsShort q)) := by
  obtain ⟨t, h⟩ := sound_run steps
  obtain ⟨m, hverdict⟩ := h.verdict (capacity, submission) (by rw [haccepted]; simp)
  have hm := Submission.metric_of_verdict hverdict
  have hkind : submission.type.rateKind? = some kind := by rw [htype]; rfl
  obtain ⟨denom, posted, hrate⟩ := Submission.rate_of_verdict hverdict hkind
  obtain ⟨hdenom, text, hvalue, hread⟩ := Submission.rate_eq_ok hrate
  obtain ⟨q, hq⟩ := Rate.exists_value hread
  refine ⟨denom, text, posted, q, m.updateTime, hdenom, hvalue, hread, hq,
    (Submission.metric_eq_ok hm).2, fun hafter => ?_⟩
  obtain ⟨s, hholds, hlast⟩ := h.last_rate haccepted hm hkind hrate hafter
  rw [h.database]
  refine ⟨s.newestFirst, ?_, fun n => ?_, ?_, fun r hr htime => ?_⟩
  · exact Database.transaction_of_does_ok (Query.does_historicalRates hholds)
  · exact Database.transaction_of_does_ok (Query.does_historicalRates_limit hholds n)
  · have hlatest := Query.does_latestRate hholds
    rw [show s.newestFirst.head? = s.latest? from List.head?_reverse]
    cases hx : s.latest? with
    | some x =>
      rw [hx] at hlatest
      exact Database.transaction_of_does_ok hlatest
    | none =>
      rw [hx] at hlatest
      exact Database.transaction_of_does_error hlatest
  · obtain ⟨canonical, hcanonical, hsettled, -⟩ := (hlast r (List.mem_reverse.1 hr) htime).rate
    obtain ⟨q', reported, hq', hreported, hrounds⟩ :=
      Rate.roundsTo_of_canonicalText hread hcanonical hsettled
    cases hq.symm.trans hq'
    exact ⟨reported, hreported, hrounds, hrounds.eq_iff_isShort⟩

def longRate : Submission where
  key := "k"
  value := .text "10000000000.000000000000000001"
  type := .rate .redemption
  updateTime := .integer 1
  blockHeight := .integer 1
  attributes := some (RateAttributes.encode "d")

def longRateRun : List (Service × Request) :=
  [({}, .instantiate ⟨"a", none⟩), ({}, .post (some "a") longRate)]

theorem run_reports_longRate :
    (run longRateRun).accepted = [] ++ (100, longRate) :: [] ∧ longRate.type = .rate .redemption ∧
    ∃ posted q records, Rate.ofText "10000000000.000000000000000001" = .ok posted ∧
      posted.value? = some q ∧
      (Service.historicalRates .redemption "d" .null .null (run longRateRun).database).1 =
        .ok records ∧
      ∀ r ∈ records, r.updateTime = 1 → ∃ reported, r.rate.value? = some reported ∧
        RoundsTo q reported ∧ (reported = q ↔ IsShort q) := by
  have haccepted : (run longRateRun).accepted = [] ++ (100, longRate) :: [] := by decide +kernel
  refine ⟨haccepted, rfl, ?_⟩
  obtain ⟨denom, text, posted, q, time, hdenom, hvalue, hread, hq, htime, hreports⟩ :=
    run_reports longRateRun haccepted rfl
  have hd : longRate.denom = .ok "d" := by decide +kernel
  cases hd.symm.trans hdenom
  cases hvalue
  cases htime
  obtain ⟨records, hrecords, -, -, hall⟩ := hreports nofun
  exact ⟨posted, q, records, hread, hq, congrArg Prod.fst hrecords, hall⟩

/-- The record of such a rate is kept, and reported as another rate. -/
theorem longRate_not_reported :
    (run longRateRun).accepted = [(100, longRate)] ∧
    ∃ posted r, Rate.ofText "10000000000.000000000000000001" = .ok posted ∧
      (Service.latestRate .redemption "d" .null (run longRateRun).database).1 = .ok r ∧
      r.updateTime = 1 ∧ r.rate.value? ≠ posted.value? := by
  refine ⟨by decide +kernel, .finite false 10000000000000000000000000001 (-18),
    ⟨.redemption, .text "d", .finite false 10000000000 0, 1⟩, by decide +kernel, by decide +kernel,
    rfl, ?_⟩
  rw [Decimal.value?_finite, Decimal.value?_finite]
  norm_num

end Trace

end MetricLedger
