import MetricLedger.Proofs.Service.Standing

/-!
# Coverage of rates

A metric that is retained and is a rate has a record of its time in the history of its denom, or
this history is full of later ones. The two histories have capacities of their own, and other keys
may write to the one of the denom.
-/

namespace MetricLedger

open Storage (Database Tables)

namespace Submission

variable {s : Submission} {m : Metric} {kind : RateKind}

/-- A rate that was accepted names a denom and a rate. -/
theorem parts_of_rate (h : s.verdict = .ok m) (htype : s.type = .rate kind) :
    ∃ attributes denom text rate, s.attributes = some attributes ∧
      RateAttributes.decode? attributes = some denom ∧ s.value = .text text ∧
      Rate.ofText text = .ok rate ∧ s.rate = .ok (denom, rate) := by
  obtain ⟨denom, rate, hrate⟩ := rate_of_verdict h (MetricType.rateKind?_eq_some_iff.2 htype)
  obtain ⟨hdenom, text, hvalue, hread⟩ := rate_eq_ok hrate
  obtain ⟨attributes, hattributes, hdecode⟩ := denom_eq_ok hdenom
  exact ⟨attributes, denom, text, rate, hattributes, hdecode, hvalue, hread, hrate⟩

end Submission

namespace Trace

variable {trace : Trace} {t : Tables}

theorem Sound.covers_rate (h : trace.Sound t) {post : Int × Submission}
    (hpost : post ∈ trace.accepted) {posted : Metric} (hm : post.2.metric = .ok posted)
    {kind : RateKind} (htype : post.2.type = .rate kind) {denom : String} {rate : Decimal}
    (hrate : post.2.rate = .ok (denom, rate)) :
    ∃ index, (Store.rates kind).Holds t denom index ∧
      (index.holds posted.updateTime = true ∨ index.Shut posted.updateTime) := by
  have hkind := MetricType.rateKind?_eq_some_iff.2 htype
  have hentry := Submission.enteredRate?_of_rate hm hkind hrate post.1
  have hmem := List.mem_filterMap.2 ⟨post, hpost, hentry⟩
  exact (h.follow.rates kind denom).covers (RateRecord.renders kind).time hmem

theorem Stands.mem {accepted : List (Int × Submission)} {s : Submission} (h : Stands accepted s) :
    ∃ post ∈ accepted, post.2 = s := by
  obtain ⟨before, capacity, after, rfl, -⟩ := h
  exact ⟨(capacity, s), by simp, rfl⟩

/-- **Every retained rate is covered.** Whatever was posted, a rate that is retained under a key
names a denom, and the history of this denom holds its time, or has no room for it and holds later
times only. -/
theorem run_covers (steps : List (Service × Request)) :
    ∃ t, (run steps).database = .ofTables t ∧
      ∀ key payload, (t.table .metrics).get? key = some payload →
        ∃ series, Series.ofStored Metric.codec payload = .ok series ∧
          ∀ m ∈ series.items, ∀ kind, m.type = .rate kind →
            m.key = .text key ∧ ∃ attributes denom text rate, m.attributes = some attributes ∧
              RateAttributes.decode? attributes = some denom ∧ m.value = .text text ∧
              Rate.ofText text = .ok rate ∧
              ∃ payload' index, (t.table (Store.rateTable kind)).get? denom = some payload' ∧
                Series.ofStored (RateRecord.codec kind) payload' = .ok index ∧
                (index.holds m.updateTime = true ∨ index.Shut m.updateTime) := by
  obtain ⟨t, h⟩ := sound_run steps
  refine ⟨t, h.database, fun key payload hrow => ?_⟩
  obtain ⟨series, hseries, hstands⟩ := h.exists_stands hrow
  refine ⟨series, hseries, fun m hmem kind htype => ?_⟩
  obtain ⟨s, posted, hs, rfl, hm, hresembles⟩ := hstands m hmem
  obtain ⟨post, hpost, rfl⟩ := hs.mem
  obtain ⟨_, hverdict⟩ := h.verdict post hpost
  obtain ⟨hvalue, hposted, hattributes⟩ := Submission.parts_of_metric hm
  have htype' : post.2.type = .rate kind := by rw [← hposted, ← hresembles.type, htype]
  obtain ⟨attributes, denom, text, rate, hsome, hdecode, htext, hread, hrate⟩ :=
    Submission.parts_of_rate hverdict htype'
  obtain ⟨index, ⟨payload', hrow', hstored⟩, hcovered⟩ := h.covers_rate hpost hm htype' hrate
  refine ⟨hresembles.key.trans (Submission.metric_eq_ok hm).1, attributes, denom, text, rate, ?_,
    hdecode, hresembles.value_eq (hvalue.trans htext), hread, payload', index, hrow',
    hstored.ofStored, ?_⟩
  · rw [hresembles.attributes, hattributes, hsome]
  · rw [hresembles.updateTime]
    exact hcovered

end Trace

end MetricLedger
