import MetricLedger.CommandLine.Command
import MetricLedger.Proofs.Service.NamedDenoms
import MetricLedger.Proofs.Service.Runs

/-!
# Rates under the denom that was encoded

What a reporter encodes for a denom, whatever Unicode characters it has, is ASCII and names just
that denom. So an accepted rate with these attributes goes into the history of that denom, and into
no other.
-/

namespace MetricLedger

open Json Text
open Storage (Tables)

namespace RateAttributes

theorem line_denom (denom : String) :
    (Value.object [(field, .text denom)]).line.toList =
      '\x7b' :: (textChars field ++ ':' :: ' ' :: (textChars denom ++ ['\x7d'])) := by
  rw [Value.line, String.toList_ofList]
  simp [Value.lineChars, Value.lineMembers]

theorem ascii_encode (denom : String) : ∀ b ∈ encode denom, b.toNat < 128 := by
  intro b hb
  refine Utf8.lt_of_mem_encode (fun c hc => ?_) hb
  rw [line_denom] at hc
  rcases List.mem_cons.1 hc with rfl | hc
  · decide
  · rcases List.mem_append.1 hc with hc | hc
    · exact ascii_textChars field c hc
    · rcases List.mem_cons.1 hc with rfl | hc
      · decide
      · rcases List.mem_cons.1 hc with rfl | hc
        · decide
        · rcases List.mem_append.1 hc with hc | hc
          · exact ascii_textChars denom c hc
          · rw [List.mem_singleton.1 hc]
            decide

theorem names_encode (N : Spelling Value) (denom : String) : Names N (encode denom) denom := by
  have hmember : Member (Spells N) (field, .text denom)
      (textChars field ++ ':' :: ' ' :: (textChars denom ++ ['\x7d'])) ['\x7d'] :=
    .mk (quoted_textChars field) .none (.cons rfl .none) (.scalar (.text (quoted_textChars denom)))
  refine ⟨_, [(field, .text denom)], rfl, ?_, ?_, ?_, rfl⟩
  · rw [line_denom]
    exact .mk .none (.object (.last .none hmember .none)) .none
  · simp [Value.depth, Value.membersDepth, depthLimit]
  · simp

end RateAttributes

open RateAttributes (encode)

def Submission.ofDenom (s : Submission) (kind : RateKind) (denom : String) : Submission :=
  { s with type := .rate kind, attributes := some (encode denom) }

theorem Submission.denom_ofDenom (s : Submission) (kind : RateKind) (denom : String) :
    (s.ofDenom kind denom).denom = .ok denom :=
  (RateAttributes.denom_eq_ok_iff rfl).2 (RateAttributes.names_encode _ denom)

/-- The rows that a submission may touch are known when its denom is. -/
theorem Submission.agreesOff_ofDenom (s : Submission) {kind : RateKind} {denom : String}
    {t t' : Tables} (h : t'.AgreesOff t (s.ofDenom kind denom).Touches) :
    t'.AgreesOff t fun name key => name = .metrics ∧ key = s.key ∨
      name = Store.rateTable kind ∧ key = denom where
  config := h.config
  row name key hno := by
    apply h.row name key
    rintro (hmetric | ⟨kind', hkind, hname, hdenom⟩)
    · exact hno (.inl hmetric)
    · cases hkind
      cases (s.denom_ofDenom kind denom).symm.trans hdenom
      exact hno (.inr ⟨hname, rfl⟩)

theorem CommandLine.attributesOf_denom (t : Taken) (denom : String) :
    attributesOf { t with values := ("--denom", .text denom) :: t.values } =
      .ok (some (encode denom)) := by
  rfl

/-- The rate takes its place in the history of its kind and denom, after the rates that were
submitted before, and no row changes but that one and the one of the key. -/
def Submission.Files (s : Submission) (kind : RateKind) (denom : String)
    (before : List (Int × Submission)) (capacity : Int) (t t' : Tables) : Prop :=
  ∃ m rate, s.metric = .ok m ∧ rateOf s.value = .ok rate ∧
    t'.AgreesOff t (fun name key => name = .metrics ∧ key = s.key ∨
      name = Store.rateTable kind ∧ key = denom) ∧
    (Store.rates kind).Lists RateRecord.IsReadBackOf t' denom
      (before.filterMap (enteredRate? kind denom) ++
        [(capacity, ⟨kind, .text denom, rate, m.updateTime⟩)])

namespace Trace

theorem Sound.files {trace : Trace} {t : Tables} (h : trace.Sound t) (service : Service)
    (sender : Option String) (s : Submission) (kind : RateKind) (denom : String) :
    match service.post sender (s.ofDenom kind denom) (.ofTables t) with
    | (.error _, db) => db = .ofTables t
    | (.ok _, db) => ∃ t', db = .ofTables t' ∧
        (s.ofDenom kind denom).Files kind denom trace.accepted service.capacity t t' := by
  have hpost := Service.post_of_follow h.follow service sender (s.ofDenom kind denom)
  cases hverdict : Service.verdict t.config sender (s.ofDenom kind denom) with
  | error e =>
    rw [hverdict] at hpost
    rw [hpost]
  | ok m =>
    rw [hverdict] at hpost
    obtain ⟨t', hpost, hfollow, hagrees⟩ := hpost
    rw [hpost]
    have hverdict := Service.verdict_eq_ok hverdict
    have hm := Submission.metric_of_verdict hverdict
    have hkind : (s.ofDenom kind denom).type.rateKind? = some kind := rfl
    obtain ⟨named, rate, hrate⟩ := Submission.rate_of_verdict hverdict hkind
    obtain ⟨hdenom, text, htext, hread⟩ := Submission.rate_eq_ok hrate
    cases hdenom.symm.trans (s.denom_ofDenom kind denom)
    refine ⟨t', rfl, m, rate, hm, ?_, s.agreesOff_ofDenom hagrees, ?_⟩
    · rw [htext]
      simp only [Submission.rateOf, hread]
    · have hentry := Submission.enteredRate?_of_rate hm hkind hrate service.capacity
      have hlists := (hfollow.rates kind denom).lists
      rwa [filterMap_concat_of_some hentry] at hlists

/-- What is encoded for a denom is ASCII, it is what the program makes of its option for the denom,
and it is decoded as that denom for either kind of rate. So a post with these attributes that is
accepted after any run is filed under that denom and no other. -/
theorem encoded_denom_files (denom : String) :
    (∀ b ∈ encode denom, b.toNat < 128) ∧
    (∀ t : CommandLine.Taken,
      CommandLine.attributesOf { t with values := ("--denom", .text denom) :: t.values } =
        .ok (some (encode denom))) ∧
    (∀ (s : Submission) kind, (s.ofDenom kind denom).denom = .ok denom) ∧
    ∀ (steps : List (Service × Request)) (service : Service) (sender : Option String)
      (s : Submission) kind,
      ∃ t, (run steps).database = .ofTables t ∧
        match service.post sender (s.ofDenom kind denom) (.ofTables t) with
        | (.error _, db) => db = .ofTables t
        | (.ok _, db) => ∃ t', db = .ofTables t' ∧
            (s.ofDenom kind denom).Files kind denom (run steps).accepted service.capacity t t' := by
  refine ⟨RateAttributes.ascii_encode denom, fun t => CommandLine.attributesOf_denom t denom,
    fun s kind => s.denom_ofDenom kind denom, ?_⟩
  intro steps service sender s kind
  obtain ⟨t, h⟩ := sound_run steps
  exact ⟨t, h.database, h.files service sender s kind denom⟩

end Trace

end MetricLedger
