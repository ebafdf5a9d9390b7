import MetricLedger.Proofs.Service.Runs

/-!
# Answers to posts

A post is refused for the first of a list of causes that applies, and then nothing is changed. If
none applies it is accepted, and only the rows of its key and of its denom are changed. What was
posted before has no part in it.
-/

namespace MetricLedger

open Json (Value)
open Storage (ConfigRow Database Tables)

namespace Submission

def isWord : Value → Bool
  | .integer n => 0 ≤ n && n < 2 ^ 64
  | _ => false

def rateCauses (s : Submission) : List (Bool × Refusal) := [
  (s.attributes.isNone, .missingMetadata s.type),
  ((s.attributes.bind RateAttributes.decode?).isNone, .invalidMetadata s.type)] ++
  match s.value with
  | .text text =>
    match Rate.ofText text with
    | .error fault => [(true, .invalidValue text fault)]
    | .ok _ => []
  | _ => []

def metricCauses (s : Submission) : List (Bool × Refusal) := [
  (s.key == "", .badRequest .emptyKey),
  (!isWord s.updateTime, .badRequest (.notWord "update_time")),
  (!isWord s.blockHeight, .badRequest (.notWord "block_height"))]

def causes (s : Submission) : List (Bool × Refusal) :=
  s.metricCauses ++ if s.type.rateKind?.isSome then s.rateCauses else []

end Submission

/-- The causes for which a post is refused, each with whether it applies. The first that applies
counts. -/
def Service.causes (row? : Option ConfigRow) (sender : Option String) (s : Submission) :
    List (Bool × Refusal) := [
  (row?.isNone, .notInstantiated),
  (row?.any fun row => sender ≠ some row.admin, .unauthorized sender)] ++ s.causes

def firstOf (causes : List (Bool × Refusal)) : Option Refusal :=
  (causes.find? Prod.fst).map Prod.snd

theorem firstOf_false {refusal : Refusal} {causes : List (Bool × Refusal)} :
    firstOf ((false, refusal) :: causes) = firstOf causes := rfl

theorem firstOf_append (causes more : List (Bool × Refusal)) :
    firstOf (causes ++ more) = (firstOf causes).or (firstOf more) := by
  rw [firstOf, firstOf, firstOf, List.find?_append, Option.map_or]

namespace Submission

variable {s : Submission} {text : String}

theorem word_of_isWord {v : Value} (h : isWord v = true) (field : String) :
    ∃ n, v = .integer n ∧ word field v = .ok n := by
  cases v with
  | integer n =>
    simp only [isWord, Bool.and_eq_true, decide_eq_true_eq] at h
    exact ⟨n, rfl, if_pos ⟨h.1, by unfold greatestWord; omega⟩⟩
  | _ => cases h

theorem word_of_not_isWord {field : String} {v : Value} (h : isWord v = false) :
    word field v = .error (.badRequest (.notWord field)) := by
  cases v with
  | integer n =>
    refine if_neg fun hn => ?_
    simp only [isWord, Bool.and_eq_false_iff, decide_eq_false_iff_not] at h
    unfold greatestWord at hn
    omega
  | _ => rfl

theorem rate_eq_of_text (h : s.value = .text text) :
    match firstOf s.rateCauses with
    | some refusal => s.rate = .error (.refused refusal)
    | none => ∃ found, s.rate = .ok found := by
  unfold rateCauses Submission.rate denom
  rw [h]
  cases s.attributes with
  | none => rfl
  | some payload =>
    cases hdecode : RateAttributes.decode? payload with
    | none => simp [hdecode, firstOf]
    | some denom =>
      cases hrate : Rate.ofText text with
      | error fault => simp [hdecode, firstOf, rateOf, hrate, Except.map]
      | ok rate => simp [hdecode, firstOf, rateOf, hrate, Except.map]

theorem metric_eq (s : Submission) :
    match firstOf s.metricCauses with
    | some refusal => s.metric = .error refusal
    | none => ∃ time height, s.updateTime = .integer time ∧ s.blockHeight = .integer height ∧
        s.metric = .ok ⟨.text s.key, s.value, s.type, time, height, s.attributes⟩ := by
  unfold metricCauses metric
  by_cases hkey : s.key = ""
  · rw [if_pos hkey, beq_iff_eq.2 hkey]
    rfl
  · rw [if_neg hkey, beq_eq_false_iff_ne.2 hkey, firstOf_false]
    cases htime : isWord s.updateTime with
    | false =>
      rw [word_of_not_isWord htime]
      rfl
    | true =>
      obtain ⟨time, hv, hword⟩ := word_of_isWord htime "update_time"
      rw [hword, Bool.not_true, firstOf_false]
      cases hheight : isWord s.blockHeight with
      | false =>
        rw [word_of_not_isWord hheight]
        rfl
      | true =>
        obtain ⟨height, hv', hword'⟩ := word_of_isWord hheight "block_height"
        rw [hword']
        exact ⟨time, height, hv, hv', rfl⟩

theorem verdict_eq_of_text (h : s.value = .text text) :
    match firstOf s.causes with
    | some refusal => s.verdict = .error (.refused refusal)
    | none => ∃ time height, s.updateTime = .integer time ∧ s.blockHeight = .integer height ∧
        s.verdict = .ok ⟨.text s.key, s.value, s.type, time, height, s.attributes⟩ := by
  have hmetric := s.metric_eq
  rw [causes, firstOf_append]
  cases hfirst : firstOf s.metricCauses with
  | some refusal =>
    rw [hfirst] at hmetric
    show s.verdict = .error (.refused refusal)
    rw [verdict, show s.metric = .error refusal from hmetric]
  | none =>
    rw [hfirst] at hmetric
    obtain ⟨time, height, htime, hheight, hmetric⟩ := hmetric
    rw [Option.none_or]
    cases hkind : s.type.rateKind? with
    | none => exact ⟨time, height, htime, hheight, by rw [verdict, hmetric, hkind]⟩
    | some kind =>
      have hrate := rate_eq_of_text h
      rw [Option.isSome_some, if_pos rfl]
      cases hfirst' : firstOf s.rateCauses with
      | some refusal =>
        rw [hfirst'] at hrate
        show s.verdict = .error (.refused refusal)
        rw [verdict, hmetric, hkind, show s.rate = .error (.refused refusal) from hrate]
        rfl
      | none =>
        rw [hfirst'] at hrate
        obtain ⟨found, hfound⟩ := hrate
        refine ⟨time, height, htime, hheight, ?_⟩
        rw [verdict, hmetric, hkind, hfound]
        rfl

end Submission

theorem Service.verdict_eq_of_text {s : Submission} {text : String} (h : s.value = .text text)
    (row? : Option ConfigRow) (sender : Option String) :
    match firstOf (causes row? sender s) with
    | some refusal => verdict row? sender s = .error (.refused refusal)
    | none => ∃ time height, s.updateTime = .integer time ∧ s.blockHeight = .integer height ∧
        verdict row? sender s = .ok ⟨.text s.key, s.value, s.type, time, height, s.attributes⟩ := by
  cases row? with
  | none => rfl
  | some row =>
    by_cases hsender : sender ≠ some row.admin
    · have hcauses : firstOf (causes (some row) sender s) = some (.unauthorized sender) := by
        simp [causes, firstOf, hsender]
      rw [hcauses]
      exact if_pos hsender
    · have hcauses : firstOf (causes (some row) sender s) = firstOf s.causes := by
        simp [causes, firstOf, hsender]
      rw [hcauses, verdict, if_neg hsender]
      exact Submission.verdict_eq_of_text h

/-- Whatever was done before, a post is refused for the first cause that applies, and then leaves
the database as it was; if none applies, it is accepted, and leaves all rows but those of its key
and its denom as they were. -/
theorem Trace.post_answers (steps : List (Service × Request)) (service : Service)
    (sender : Option String) (key text : String) (type : MetricType)
    (updateTime blockHeight : Value) (attributes : Option Payload) :
    ∃ t, (run steps).database = .ofTables t ∧
      let submission : Submission := ⟨key, .text text, type, updateTime, blockHeight, attributes⟩
      match firstOf (Service.causes t.config sender submission) with
      | some refusal =>
        service.post sender submission (.ofTables t) = (.error (.refused refusal), .ofTables t)
      | none => ∃ time height t', updateTime = .integer time ∧ blockHeight = .integer height ∧
          service.post sender submission (.ofTables t) =
            (.ok (.posted ⟨.text key, .text text, type, time, height, attributes⟩), .ofTables t') ∧
          t'.AgreesOff t submission.Touches := by
  obtain ⟨t, h⟩ := sound_run steps
  refine ⟨t, h.database, ?_⟩
  intro submission
  have hpost := Service.post_of_follow h.follow service sender submission
  have hverdict := Service.verdict_eq_of_text (s := submission) rfl t.config sender
  cases hfirst : firstOf (Service.causes t.config sender submission) with
  | some refusal =>
    rw [hfirst] at hverdict
    rw [show Service.verdict t.config sender submission = _ from hverdict] at hpost
    exact hpost
  | none =>
    rw [hfirst] at hverdict
    obtain ⟨time, height, htime, hheight, hverdict⟩ := hverdict
    rw [hverdict] at hpost
    obtain ⟨t', hanswer, -, hagrees⟩ := hpost
    exact ⟨time, height, t', htime, hheight, hanswer, hagrees⟩

end MetricLedger
