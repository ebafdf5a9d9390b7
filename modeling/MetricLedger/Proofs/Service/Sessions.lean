import MetricLedger.Proofs.Service.Frames

/-!
# Submissions in one session

Submissions follow one another in a session that is never rolled back. The metrics follow all that
are in order, the rates only those that name a denom and a rate: where a rate is refused, its metric
stays. The database is not changed before the session is committed.
-/

namespace MetricLedger

open Storage (Action Database Session Tables View)

namespace Storage.Session

/-- Submits one after the other, each with the capacity that new histories get, no matter how those
before it ended. -/
def submitAll (session : Session) (posts : List (Int × Submission)) : Session :=
  posts.foldl (fun session post => (session.perform (post.2.submit post.1)).2) session

theorem submitAll_concat (session : Session) (posts : List (Int × Submission))
    (post : Int × Submission) :
    session.submitAll (posts ++ [post]) =
      ((session.submitAll posts).perform (post.2.submit post.1)).2 := by
  simp only [submitAll, List.foldl_append, List.foldl_cons, List.foldl_nil]

theorem submitAll_of_follow {t : Tables} {made : List (Int × Submission)} (h : t.Follow made made)
    (db : Database) (posts : List (Int × Submission)) :
    ∃ t', submitAll ⟨db, .ofTables t⟩ posts = ⟨db, .ofTables t'⟩ ∧
      t'.Follow (made ++ posts) (made ++ posts) := by
  induction posts using List.reverseRecOn with
  | nil => exact ⟨t, rfl, by rwa [List.append_nil]⟩
  | append_singleton posts post ih =>
    obtain ⟨t', heq, hfollow⟩ := ih
    obtain ⟨t'', hdoes, hfollow', -⟩ := Submission.does_submit hfollow post.1 post.2
    refine ⟨t'', ?_, by rwa [List.append_assoc] at hfollow'⟩
    rw [submitAll_concat, heq, perform_of_does hdoes]

theorem exists_submitAll (posts : List (Int × Submission)) :
    ∃ t, (begin Database.blank.create).submitAll posts = ⟨Database.blank.create, .ofTables t⟩ ∧
      t.Follow posts posts :=
  submitAll_of_follow Tables.follow_empty Database.blank.create posts

end Storage.Session

namespace Submission

variable {s : Submission} {capacity : Int} {t t' : Tables}

theorem keeps_table_of_no_rate (hno : (∀ m, s.verdict ≠ .ok m) ∨ ∃ name, s.type = .other name)
    (capacity : Int) (kind : RateKind) (table : Storage.Table) :
    (s.submit capacity).Keeps fun t => t.table (Store.rateTable kind) = table := by
  refine keeps_submit (fun m hm => ?_) fun m kind' denom rate hm hkind hrate => ?_
  · refine Store.keeps_record (fun t payload ht => ?_) capacity m
    exact (Tables.table_setTable_ne t (rateTable_ne_metrics kind) _).trans ht
  · -- a submission that gets this far is a rate and succeeds
    exfalso
    rcases hno with hno | ⟨name, hname⟩
    · refine hno m ?_
      rw [verdict, hm, hkind, hrate]
      rfl
    · rw [hname] at hkind
      cases hkind

theorem keeps_of_refused {refusal : Refusal} (h : s.metric = .error refusal) (capacity : Int)
    (P : Tables → Prop) : (s.submit capacity).Keeps P := by
  refine keeps_submit (fun m hm => ?_) fun m _ _ _ hm => ?_
  · rw [h] at hm
    cases hm
  · rw [h] at hm
    cases hm

end Submission

/-- **A refused rate leaves its metric behind.** After any submissions in one session, a key lists
the newest metrics of all submissions that are in order, and a denom the newest rates of those that
name it and a rate, the last one of each time, as many as the first of them allowed. -/
theorem Storage.Session.submitAll_lists (posts : List (Int × Submission)) :
    ∃ t, (begin Database.blank.create).submitAll posts = ⟨Database.blank.create, .ofTables t⟩ ∧
      (∀ key, Store.metrics.Lists
        (fun m posted => m.Resembles posted ∧ ∀ text, posted.value = .text text → m = posted)
        t key (posts.filterMap (Submission.enteredMetric? key))) ∧
      (∀ kind denom, (Store.rates kind).Lists RateRecord.IsReadBackOf t denom
        (posts.filterMap (Submission.enteredRate? kind denom))) ∧
      ∀ capacity (s : Submission), ∃ t',
        ((begin Database.blank.create).submitAll posts).perform (s.submit capacity) =
          (s.verdict, ⟨Database.blank.create, .ofTables t'⟩) ∧
        (∀ refusal, s.metric = .error refusal → t' = t) ∧
        ((∀ m, s.verdict ≠ .ok m) ∨ (∃ name, s.type = .other name) →
          ∀ kind, t'.table (Store.rateTable kind) = t.table (Store.rateTable kind)) := by
  obtain ⟨t, heq, hfollow⟩ := exists_submitAll posts
  refine ⟨t, heq, fun key => ?_, fun kind denom => (hfollow.rates kind denom).lists,
    fun capacity s => ?_⟩
  · exact (hfollow.metrics key).lists.mono fun m posted hm => ⟨hm, fun _ => hm.eq_of_text⟩
  · obtain ⟨t', hdoes, -, -⟩ := Submission.does_submit hfollow capacity s
    refine ⟨t', ?_, fun refusal hrefusal => ?_, fun hno kind => ?_⟩
    · rw [heq, perform_of_does hdoes]
    · obtain ⟨_, t'', hdoes', rfl⟩ :=
        Submission.keeps_of_refused hrefusal capacity (fun t' => t' = t) t rfl
      exact (hdoes.unique hdoes').2
    · obtain ⟨_, t'', hdoes', htable⟩ :=
        Submission.keeps_table_of_no_rate hno capacity kind _ t rfl
      rw [(hdoes.unique hdoes').2, htable]

end MetricLedger
