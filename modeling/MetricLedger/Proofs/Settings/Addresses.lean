import MetricLedger.DatabaseUrl
import MetricLedger.Proofs.Settings.Layers

/-!
# Two readings of one address

The settings take the address of the environment as it stands. Without settings it is changed first
if it asks for the asynchronous driver. So the two readings differ for such an address, and only for
such a one.
-/

namespace MetricLedger

/-! ## Replacing a part of a text -/

namespace Text

theorem length_intercalate (sep p : List Char) (ps : List (List Char)) :
    (sep.intercalate (p :: ps)).length = (p :: ps).flatten.length + ps.length * sep.length := by
  induction ps generalizing p with
  | nil => simp
  | cons q ps ih =>
    rw [List.intercalate_cons_cons, List.length_append, List.length_append, ih,
      List.flatten_cons (l := p), List.length_append, List.length_cons, Nat.succ_mul]
    omega

theorem intercalate_ne {sep sep' : List Char} (h : sep'.length < sep.length) (p q : List Char)
    (ps : List (List Char)) : sep'.intercalate (p :: q :: ps) ≠ sep.intercalate (p :: q :: ps) := by
  intro heq
  have hlength := congrArg List.length heq
  rw [length_intercalate, length_intercalate, Nat.add_left_cancel_iff] at hlength
  exact Nat.ne_of_lt (Nat.mul_lt_mul_of_pos_left h (Nat.succ_pos _)) hlength

theorem prefix_intercalate (sep p : List Char) (ps : List (List Char)) :
    p <+: sep.intercalate (p :: ps) := by
  cases ps with
  | nil => simp
  | cons q ps =>
    rw [List.intercalate_cons_cons, List.append_assoc]
    exact List.prefix_append _ _

/-- The text is cut where the old part stands, and put together again with the new one. -/
theorem exists_replaced {old : List Char} (hold : old ≠ []) (new s : List Char) :
    ∃ p ps, (∀ q ∈ p :: ps, ¬old <:+: q) ∧ old.intercalate (p :: ps) = s ∧
      replaceAll old new s = new.intercalate (p :: ps) := by
  fun_induction replaceAll old new s with
  | case1 => exact ⟨[], [], by simpa using hold, by simp, by simp⟩
  | case2 c rest hstart ih =>
    obtain ⟨p, ps, hparts, hs, hnew⟩ := ih
    obtain ⟨tail, htail⟩ := List.isPrefixOf_iff_prefix.1 hstart
    have hdrop : rest.drop (old.length - 1) = tail := by
      obtain ⟨d, old, rfl⟩ := List.exists_cons_of_ne_nil hold
      rw [List.cons_append, List.cons.injEq] at htail
      simp [← htail.2]
    rw [hdrop] at hs hnew
    refine ⟨[], p :: ps, ?_, ?_, ?_⟩
    · exact List.forall_mem_cons.2 ⟨by simpa using hold, hparts⟩
    · rw [List.intercalate_cons_cons, hs, ← htail]
      rfl
    · rw [List.intercalate_cons_cons, hdrop, hnew]
      rfl
  | case3 c rest hstart ih =>
    obtain ⟨p, ps, hparts, hs, hnew⟩ := ih
    refine ⟨c :: p, ps, ?_, by rw [List.intercalate_cons_cons_left, hs],
      by rw [List.intercalate_cons_cons_left, hnew]⟩
    obtain ⟨hp, hps⟩ := List.forall_mem_cons.1 hparts
    refine List.forall_mem_cons.2 ⟨?_, hps⟩
    -- the old part does not start at this character, wherever the first cut is
    intro hinfix
    rcases List.infix_cons_iff.1 hinfix with hprefix | hinfix
    · apply hstart
      rw [List.isPrefixOf_iff_prefix]
      have hfront : p <+: rest := by
        rw [← hs]
        exact prefix_intercalate _ p ps
      exact hprefix.trans ((List.cons_prefix_cons).2 ⟨rfl, hfront⟩)
    · exact hp hinfix

theorem replaceAll_of_not_infix {old s : List Char} (h : ¬old <:+: s) (new : List Char) :
    replaceAll old new s = s := by
  have hold : old ≠ [] := by
    rintro rfl
    exact h List.nil_infix
  obtain ⟨p, ps, -, hs, hnew⟩ := exists_replaced hold new s
  cases ps with
  | nil => simpa [← hs] using hnew
  | cons q qs =>
    rw [List.intercalate_cons_cons] at hs
    exact absurd ⟨p, _, hs⟩ h

theorem replaceAll_append {old : List Char} (hold : old ≠ []) (new s : List Char) :
    replaceAll old new (old ++ s) = new ++ replaceAll old new s := by
  obtain ⟨c, rest, rfl⟩ := List.exists_cons_of_ne_nil hold
  rw [List.cons_append, replaceAll, if_pos]
  · simp
  · simp

end Text

/-! ## The address of the environment -/

namespace DatabaseUrl

section
variable {e : Environment} {s : Settings}

theorem databaseUrl_of_ofEnvironment (h : Settings.ofEnvironment e = .ok s) :
    s.databaseUrl = (given? e.databaseUrl).getD Settings.defaults.databaseUrl := by
  obtain ⟨t, ht, -, rfl⟩ := Settings.ofEnvironment_eq_ok_iff.1 h
  obtain ⟨n, -, rfl⟩ := Option.map_eq_some_iff.1 ht
  rfl

theorem ofEnvironment_of_not_asynchronous (h : Settings.ofEnvironment e = .ok s)
    (hs : ¬asynchronous.toList <+: s.databaseUrl.toList) : ofEnvironment e = s.databaseUrl := by
  rw [databaseUrl_of_ofEnvironment h] at hs ⊢
  unfold ofEnvironment
  cases hurl : given? e.databaseUrl with
  | none => rfl
  | some url =>
    rw [hurl, Option.getD_some, ← List.isPrefixOf_iff_prefix] at hs
    simp [hs]

theorem toList_ofEnvironment_of_asynchronous {rest : List Char}
    (h : Settings.ofEnvironment e = .ok s)
    (hs : s.databaseUrl.toList = asynchronous.toList ++ rest) : (ofEnvironment e).toList =
      synchronous.toList ++ Text.replaceAll asynchronous.toList synchronous.toList rest := by
  rw [databaseUrl_of_ofEnvironment h] at hs
  unfold ofEnvironment
  cases hurl : given? e.databaseUrl with
  | none =>
    rw [hurl] at hs
    exact absurd (List.prefix_iff_eq_append.1 ⟨rest, hs.symm⟩) (by decide)
  | some url =>
    rw [hurl, Option.getD_some] at hs
    have hstart : asynchronous.toList.isPrefixOf url.toList = true :=
      List.isPrefixOf_iff_prefix.2 ⟨rest, hs.symm⟩
    simp only [hstart, ite_true, String.toList_ofList]
    rw [hs, Text.replaceAll_append (by decide)]

/-- Both readings have the same parts, with the one name or the other one between them. -/
theorem exists_parts (h : Settings.ofEnvironment e = .ok s)
    (hstart : asynchronous.toList <+: s.databaseUrl.toList) :
    ∃ p ps, (∀ q ∈ p :: ps, ¬asynchronous.toList <:+: q) ∧
      asynchronous.toList.intercalate ([] :: p :: ps) = s.databaseUrl.toList ∧
      synchronous.toList.intercalate ([] :: p :: ps) = (ofEnvironment e).toList := by
  obtain ⟨rest, hrest⟩ := hstart
  have hname : asynchronous.toList ≠ [] := by decide
  obtain ⟨p, ps, hps, hold, hnew⟩ := Text.exists_replaced hname synchronous.toList rest
  refine ⟨p, ps, hps, ?_, ?_⟩
  · rw [List.intercalate_cons_cons, hold, ← hrest]
    rfl
  · rw [List.intercalate_cons_cons, ← hnew, toList_ofEnvironment_of_asynchronous h hrest.symm]
    rfl

end

/-! ## Schemes -/

theorem isSchemePart_colon : isSchemePart ':' = false := by decide +kernel

theorem cutScheme?_of_parts {scheme : List Char} (hscheme : scheme ≠ [])
    (hparts : ∀ c ∈ scheme, isSchemePart c = true) (body : List Char) :
    cutScheme? (scheme ++ "://".toList ++ body) = some (scheme, body) := by
  have htake : (scheme ++ "://".toList ++ body).takeWhile isSchemePart = scheme := by
    rw [List.append_assoc, List.takeWhile_append_of_pos hparts]
    simp [isSchemePart_colon]
  have hdrop : (scheme ++ "://".toList ++ body).dropWhile isSchemePart = "://".toList ++ body := by
    rw [List.append_assoc, List.dropWhile_append_of_pos hparts]
    simp [isSchemePart_colon]
  unfold cutScheme?
  simp only [htake, hdrop]
  simp [hscheme]

/-- An address is read in the same way under any scheme. -/
theorem ofText_of_scheme {scheme scheme' body : List Char} {text text' : String}
    (h : cutScheme? text.toList = some (scheme, body))
    (h' : cutScheme? text'.toList = some (scheme', body)) :
    ofText text' = (ofText text).map fun url => { url with scheme := scheme' } := by
  unfold ofText
  rw [h, h']
  simp only
  split <;> rfl

theorem scheme_of_ofText {scheme body : List Char} {text : String} {url : DatabaseUrl}
    (h : cutScheme? text.toList = some (scheme, body)) (hurl : ofText text = .ok url) :
    url.scheme = scheme := by
  unfold ofText at hurl
  rw [h] at hurl
  simp only at hurl
  split at hurl
  · cases hurl
  · cases hurl; rfl

theorem cutScheme?_asynchronous (body : List Char) :
    cutScheme? (asynchronous.toList ++ "://".toList ++ body) = some (asynchronous.toList, body) :=
  cutScheme?_of_parts (by decide) (List.all_eq_true.1 (by decide +kernel)) body

theorem cutScheme?_synchronous (body : List Char) :
    cutScheme? (synchronous.toList ++ "://".toList ++ body) = some (synchronous.toList, body) :=
  cutScheme?_of_parts (by decide) (List.all_eq_true.1 (by decide +kernel)) body

theorem infix_of_cons {c : Char} {body : List Char} (hc : c ≠ 'p')
    (h : asynchronous.toList <:+: c :: body) : asynchronous.toList <:+: body := by
  rcases List.infix_cons_iff.1 h with ⟨tail, htail⟩ | h
  · cases htail
    exact absurd rfl hc
  · exact h

theorem not_infix_slashes {body : List Char} (h : ¬asynchronous.toList <:+: body) :
    ¬asynchronous.toList <:+: "://".toList ++ body := by
  intro hinfix
  have hinfix := infix_of_cons (by decide) hinfix
  have hinfix := infix_of_cons (by decide) hinfix
  exact h (infix_of_cons (by decide) hinfix)

/-- **The two readings of an address.** They are the same just when the address does not start with
the name of the asynchronous driver. If it does, the one of the settings has that name wherever the
other one has the plain name. Where the name stands nowhere but in the scheme, the two are read as
the same login, host, port, database and options under the one scheme and under the other. -/
theorem addresses_agree_iff {e : Environment} {s : Settings}
    (h : Settings.ofEnvironment e = .ok s) :
    (ofEnvironment e = s.databaseUrl ↔ ¬asynchronous.toList <+: s.databaseUrl.toList) ∧
    (asynchronous.toList <+: s.databaseUrl.toList →
      ∃ p ps, (∀ q ∈ p :: ps, ¬asynchronous.toList <:+: q) ∧
        asynchronous.toList.intercalate ([] :: p :: ps) = s.databaseUrl.toList ∧
        synchronous.toList.intercalate ([] :: p :: ps) = (ofEnvironment e).toList) ∧
    ∀ body, ¬asynchronous.toList <:+: body →
      s.databaseUrl.toList = asynchronous.toList ++ "://".toList ++ body →
      (∀ url, ofText s.databaseUrl = .ok url → url.scheme = asynchronous.toList) ∧
      ofText (ofEnvironment e) =
        (ofText s.databaseUrl).map fun url => { url with scheme := synchronous.toList } := by
  refine ⟨⟨fun heq hstart => ?_, ofEnvironment_of_not_asynchronous h⟩, exists_parts h, ?_⟩
  · obtain ⟨p, ps, -, hold, hnew⟩ := exists_parts h hstart
    rw [heq, ← hold] at hnew
    exact Text.intercalate_ne (by decide) [] p ps hnew
  · intro body hbody hs
    have hs' : (ofEnvironment e).toList = synchronous.toList ++ "://".toList ++ body := by
      rw [List.append_assoc] at hs ⊢
      rw [toList_ofEnvironment_of_asynchronous h hs,
        Text.replaceAll_of_not_infix (not_infix_slashes hbody)]
    have hcut := cutScheme?_asynchronous body
    have hcut' := cutScheme?_synchronous body
    rw [← hs] at hcut
    rw [← hs'] at hcut'
    exact ⟨fun url => scheme_of_ofText hcut, ofText_of_scheme hcut hcut'⟩

theorem addresses_agree_iff_login :
    Settings.ofEnvironment ⟨some "postgresql+asyncpg://u:p@db/ledger", none, none, none⟩ =
      .ok ⟨"postgresql+asyncpg://u:p@db/ledger", 100, "INFO", "text"⟩ ∧
    ofEnvironment ⟨some "postgresql+asyncpg://u:p@db/ledger", none, none, none⟩ ≠
      "postgresql+asyncpg://u:p@db/ledger" ∧
    ofText (ofEnvironment ⟨some "postgresql+asyncpg://u:p@db/ledger", none, none, none⟩) =
      (ofText "postgresql+asyncpg://u:p@db/ledger").map
        fun url => { url with scheme := synchronous.toList } := by
  have h : Settings.ofEnvironment ⟨some "postgresql+asyncpg://u:p@db/ledger", none, none, none⟩ =
      .ok ⟨"postgresql+asyncpg://u:p@db/ledger", 100, "INFO", "text"⟩ := by decide
  obtain ⟨hsame, -, hread⟩ := addresses_agree_iff h
  have hstart : asynchronous.toList <+: "postgresql+asyncpg://u:p@db/ledger".toList := by decide
  have hbody : ¬asynchronous.toList <:+: "u:p@db/ledger".toList := by decide +kernel
  exact ⟨h, fun heq => hsame.1 heq hstart, (hread _ hbody rfl).2⟩

/-- One reading asks for the asynchronous driver, and the other one does not. -/
theorem asynchronousAddress_read_apart :
    Settings.ofEnvironment ⟨some "postgresql+asyncpg://h/d", none, none, none⟩ =
      .ok ⟨"postgresql+asyncpg://h/d", 100, "INFO", "text"⟩ ∧
    ofEnvironment ⟨some "postgresql+asyncpg://h/d", none, none, none⟩ = "postgresql://h/d" ∧
    "postgresql+asyncpg://h/d" ≠ "postgresql://h/d" := by
  have h : Settings.ofEnvironment ⟨some "postgresql+asyncpg://h/d", none, none, none⟩ =
      .ok ⟨"postgresql+asyncpg://h/d", 100, "INFO", "text"⟩ := by decide
  have hurl : "postgresql+asyncpg://h/d".toList = asynchronous.toList ++ "://h/d".toList := rfl
  have hplain := toList_ofEnvironment_of_asynchronous h hurl
  rw [Text.replaceAll_of_not_infix (by decide)] at hplain
  exact ⟨h, String.toList_inj.1 hplain, by decide⟩

end DatabaseUrl

end MetricLedger
