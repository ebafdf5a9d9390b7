import MetricLedger.CommandLine.Command
import MetricLedger.Proofs.Results

/-!
# Arguments that give nothing

Nothing is given where the mark of the divider stands for a value: alone, or behind the equals sign of
an option. Where no argument is such a mark, each value was read as what its name declares, and no
command is broken by a malformed value.
-/

namespace MetricLedger

open Json (Value)

theorem Text.eq_of_cutAt? {mark : Char} {word before after : List Char}
    (h : cutAt? mark word = some (before, after)) : word = before ++ mark :: after := by
  induction word generalizing before with
  | nil => cases h
  | cons c rest ih =>
    rw [cutAt?] at h
    split at h
    · rename_i hc
      cases h
      rw [hc, List.nil_append]
    · obtain ⟨⟨start, rest'⟩, hcut, h⟩ := Option.map_eq_some_iff.1 h
      cases h
      rw [ih hcut, List.cons_append]

namespace CommandLine

/-- The mark of the divider, alone or for the value of an option. -/
def IsMark (word : List Char) : Prop :=
  word = dividerMark ∨ ∃ name, word = name ++ '=' :: dividerMark

/-! ## Roles -/

namespace Form

def Declares (f : Form) (name : String) (kind : Kind) : Prop :=
  (∃ rule ∈ f.options, rule.name = name ∧ rule.kind = kind) ∨
    ∃ positions, f.positions = .named positions ∧ (name, kind) ∈ positions

def Dashed (f : Form) : Prop := ∀ rule ∈ f.options, dividerMark.isPrefixOf rule.name.toList = true

variable {f : Form} {word name attached : List Char}

theorem eq_shortHelp_of_take (hf : f.Dashed) (hword : dividerMark.isPrefixOf word = false)
    (hname : name ∈ f.names) (htake : name = word.take 2) : name = shortHelp := by
  have hdashed : dividerMark.isPrefixOf name = false := by
    rw [htake]
    match word, hword with
    | [], _ => rfl
    | [_], h => exact h
    | _ :: _ :: _, h => simpa [dividerMark, List.isPrefixOf] using h
  rw [names, List.mem_cons, List.mem_cons, List.mem_map] at hname
  rcases hname with rfl | rfl | ⟨rule, hrule, rfl⟩
  · rfl
  · cases hdashed
  · rw [hf rule hrule] at hdashed
    cases hdashed

theorem eq_of_mem_candidates (hf : f.Dashed) (h : (name, some attached) ∈ f.candidates word) :
    name = shortHelp ∨ ∃ start, word = start ++ '=' :: attached := by
  unfold candidates at h
  split at h
  · cases hcut : Text.cutAt? '=' word with
    | none => simp [hcut] at h
    | some parts =>
      simp only [hcut, List.mem_map, Prod.mk.injEq, Option.some.injEq] at h
      obtain ⟨_, -, -, rfl⟩ := h
      exact .inr ⟨parts.1, Text.eq_of_cutAt? hcut⟩
  · rename_i hword
    obtain ⟨other, hother, h⟩ := List.mem_filterMap.1 h
    split at h
    · rename_i htake
      cases h
      exact .inl (eq_shortHelp_of_take hf (Bool.eq_false_iff.2 hword) hother htake)
    · split at h <;> cases h

theorem eq_of_role (hf : f.Dashed) (h : f.role word = .ok (.option name (some attached))) :
    name = shortHelp ∨ ∃ start, word = start ++ '=' :: attached := by
  unfold role at h
  split at h
  · cases h
  · split at h
    · cases h
    · split at h
      · cases h
      · split at h
        · rename_i parts hcut
          cases h
          exact .inr ⟨_, Text.eq_of_cutAt? (Option.filter_eq_some_iff.1 hcut).1⟩
        · split at h
          · rename_i hcandidates
            cases h
            exact eq_of_mem_candidates hf (hcandidates ▸ List.mem_cons_self)
          · split at h <;> cases h
          · cases h

end Form

structure Gives (token : Token) : Prop where
  word : ¬IsMark token.1
  attached : ∀ name attached, token.2 = .option name (some attached) →
    name = shortHelp ∨ attached ≠ dividerMark

theorem Form.gives_of_mem_tokens {f : Form} (hf : f.Dashed) {words : List (List Char)}
    {tokens : List Token} (hwords : ∀ word ∈ words, ¬IsMark word)
    (h : f.tokens words = .ok tokens) : ∀ token ∈ tokens, Gives token := by
  induction words generalizing tokens with
  | nil =>
    cases h
    exact nofun
  | cons word rest ih =>
    have hword := hwords word List.mem_cons_self
    rw [Form.tokens, if_neg fun heq => hword (.inl heq)] at h
    obtain ⟨role, hrole, h⟩ := bind_eq_ok_iff.1 h
    obtain ⟨others, hothers, h⟩ := bind_eq_ok_iff.1 h
    cases h
    intro token htoken
    rcases List.mem_cons.1 htoken with rfl | htoken
    · refine ⟨hword, fun name attached heq => ?_⟩
      dsimp only at heq
      subst heq
      rcases eq_of_role hf hrole with hhelp | ⟨start, hstart⟩
      · exact .inl hhelp
      · exact .inr fun hattached => hword (.inr ⟨start, hattached ▸ hstart⟩)
    · exact ih (fun w hw => hwords w (List.mem_cons_of_mem _ hw)) hothers token htoken

/-! ## What is taken -/

namespace Taken

structure Reads (f : Form) (t : Taken) : Prop where
  values : ∀ name argument, (name, argument) ∈ t.values →
    ∃ kind word, f.Declares name kind ∧ kind.read? word = some argument
  command : ∀ words, t.command = some words → ∀ word ∈ words, ¬IsMark word

variable {f : Form} {t t' : Taken} {name : String} {kind : Kind} {word : List Char}

theorem mem_of_find? {argument : Argument} (h : t.find? name = some argument) :
    (name, argument) ∈ t.values := by
  obtain ⟨before, after, hvalues, -⟩ := List.lookup_eq_some_iff.1 h
  rw [hvalues]
  exact List.mem_append_right _ List.mem_cons_self

theorem reads_empty (f : Form) : empty.Reads f := ⟨nofun, nofun⟩

theorem Reads.addStray (h : t.Reads f) : t.addStray.Reads f := ⟨h.values, h.command⟩

theorem Reads.add (h : t.Reads f) (hdeclares : f.Declares name kind)
    (hadd : t.add name kind word = .ok t') : t'.Reads f := by
  unfold Taken.add at hadd
  split at hadd
  · rename_i argument hread
    cases hadd
    refine ⟨fun name' argument' hmem => ?_, h.command⟩
    rcases List.mem_cons.1 hmem with heq | hmem
    · cases heq
      exact ⟨kind, word, hdeclares, hread⟩
    · exact h.values name' argument' hmem
  · cases hadd

theorem Reads.addOption (h : t.Reads f) {option : List Char} (hword : word ≠ dividerMark)
    (hadd : t.addOption f option word = .ok t') : t'.Reads f := by
  unfold Taken.addOption at hadd
  split at hadd
  · cases hadd
  · rename_i rule hrule
    split at hadd
    · cases hadd
    · exact h.add (.inl ⟨rule, List.mem_of_find?_eq_some hrule, rfl, rfl⟩) hadd

end Taken

theorem reads_take {f : Form} {waiting : List (String × Kind)} {before : Before} {t t' : Taken}
    {tokens : List Token} (htokens : ∀ token ∈ tokens, Gives token)
    (hwaiting : ∀ position ∈ waiting, f.Declares position.1 position.2) (ht : t.Reads f)
    (h : take f waiting before t tokens = .ok t') : t'.Reads f := by
  fun_induction take f waiting before t tokens with
  | case1 =>
    cases h
    exact ht
  -- the words of the command are left for a scan of their own
  | case3 waiting before t word rest =>
    cases h
    refine ⟨ht.values, fun words hwords => ?_⟩
    cases hwords
    intro word' hword'
    rw [← List.map_cons (f := Prod.fst) (a := (word, Role.plain))] at hword'
    obtain ⟨token, htoken, rfl⟩ := List.mem_map.1 hword'
    exact (htokens token htoken).word
  -- only over a mark is nothing given for a position
  | case4 _ _ word _ _ _ _ _ _ hmark =>
    exact absurd (.inl hmark.1) (htokens _ List.mem_cons_self).word
  | case5 _ t _ rest _ _ _ _ _ _ ih =>
    obtain ⟨t'', hadd, h⟩ := bind_eq_ok_iff.1 h
    have ⟨hdeclares, hothers⟩ := List.forall_mem_cons.1 hwaiting
    exact ih t'' (List.forall_mem_cons.1 htokens).2 hothers (ht.add hdeclares hadd) h
  | case6 _ _ _ _ _ _ ih => exact ih (List.forall_mem_cons.1 htokens).2 hwaiting ht.addStray h
  | case8 _ _ _ _ _ ih => exact ih (List.forall_mem_cons.1 htokens).2 hwaiting ht h
  | case9 _ _ _ _ rest _ _ ih =>
    refine ih (List.forall_mem_cons.1 htokens).2 hwaiting ?_ h
    split
    · exact ht.addStray
    · exact ht
  | case10 _ _ _ _ _ ih => exact ih (List.forall_mem_cons.1 htokens).2 hwaiting ht.addStray h
  -- an option with its value attached, and then one that takes the next word
  | case12 _ _ t _ name attached rest hhelp ih =>
    obtain ⟨t'', hadd, h⟩ := bind_eq_ok_iff.1 h
    have ⟨hgives, hrest⟩ := List.forall_mem_cons.1 htokens
    have hattached := (hgives.attached name attached rfl).resolve_left fun heq => hhelp (.inl heq)
    exact ih t'' hrest hwaiting (ht.addOption hattached hadd) h
  | case14 _ _ t _ name _ word rest ih =>
    obtain ⟨t'', hadd, h⟩ := bind_eq_ok_iff.1 h
    have ⟨hgives, hrest⟩ := List.forall_mem_cons.1 (List.forall_mem_cons.1 htokens).2
    exact ih t'' hrest hwaiting (ht.addOption (fun heq => hgives.word (.inl heq)) hadd) h
  | _ => cases h

theorem Form.reads_scan {f : Form} (hf : f.Dashed) {words : List (List Char)} {t : Taken}
    (hwords : ∀ word ∈ words, ¬IsMark word) (h : f.scan words = .ok t) : t.Reads f := by
  obtain ⟨tokens, htokens, h⟩ := bind_eq_ok_iff.1 h
  refine reads_take (gives_of_mem_tokens hf hwords htokens) ?_ (Taken.reads_empty f) h
  split
  · rename_i positions hpositions
    exact fun position hmem => .inr ⟨positions, hpositions, hmem⟩
  · exact nofun

/-! ## Commands -/

structure Command.Whole (c : Command) : Prop where
  sound : ∀ fault, c ≠ .broken (.malformed fault)
  value : ∀ sender submission, c = .post sender submission → submission.value.isText = true

structure Invocation.Whole (i : Invocation) : Prop where
  capacity : i.lacksCapacity = false
  command : i.command.Whole

theorem Kind.read?_ne_nothing (kind : Kind) (word : List Char) :
    kind.read? word ≠ some .nothing := by
  cases kind with
  | text => nofun
  | integer => simp [Kind.read?]
  | oneOf words => simp [Kind.read?]

theorem Taken.Reads.find?_ne_nothing {f : Form} {t : Taken} (h : t.Reads f) (name : String) :
    t.find? name ≠ some .nothing := by
  intro hfind
  obtain ⟨kind, word, -, hread⟩ := h.values name _ (mem_of_find? hfind)
  exact kind.read?_ne_nothing word hread

theorem Taken.Reads.exists_text {f : Form} {t : Taken} (h : t.Reads f) {name : String}
    {argument : Argument} (hkind : ∀ kind, f.Declares name kind → kind = .text)
    (hfind : t.find? name = some argument) : ∃ text, argument = .text text := by
  obtain ⟨kind, word, hdeclares, hread⟩ := h.values name _ (mem_of_find? hfind)
  cases hkind kind hdeclares
  exact ⟨_, (Option.some.inj hread).symm⟩

section
variable {t : Taken} {c : Command}

theorem whole_of_build_init (h : t.Reads initForm.form) (hbuild : initForm.build t = some c) :
    c.Whole := by
  obtain ⟨admin, -, hc⟩ := Option.bind_eq_some_iff.1 hbuild
  cases hc
  cases hchannel : t.find? "--channel-id" with
  | none => exact ⟨nofun, nofun⟩
  | some argument =>
    obtain ⟨channel, rfl⟩ := h.exists_text (by simp [Form.Declares, initForm]) hchannel
    exact ⟨nofun, nofun⟩

theorem exists_attributes (h : t.Reads postForm.form) : ∃ payload?, attributesOf t = .ok payload? := by
  unfold attributesOf
  cases t.find? "--denom" with
  | some denom => exact ⟨_, rfl⟩
  | none =>
    cases hattributes : t.find? "--attributes" with
    | none => exact ⟨_, rfl⟩
    | some argument =>
      obtain ⟨text, rfl⟩ := h.exists_text (by simp [Form.Declares, postForm]) hattributes
      exact ⟨_, rfl⟩

theorem whole_of_build_post (h : t.Reads postForm.form) (hbuild : postForm.build t = some c) :
    c.Whole := by
  obtain ⟨sender, -, hbuild⟩ := Option.bind_eq_some_iff.1 hbuild
  obtain ⟨key, -, hbuild⟩ := Option.bind_eq_some_iff.1 hbuild
  obtain ⟨value, hvalue, hbuild⟩ := Option.bind_eq_some_iff.1 hbuild
  obtain ⟨type, htype, hbuild⟩ := Option.bind_eq_some_iff.1 hbuild
  obtain ⟨updateTime, -, hbuild⟩ := Option.bind_eq_some_iff.1 hbuild
  obtain ⟨blockHeight, -, hc⟩ := Option.bind_eq_some_iff.1 hbuild
  obtain ⟨payload?, hattributes⟩ := exists_attributes h
  obtain ⟨value, rfl⟩ := h.exists_text (by simp [Form.Declares, postForm]) hvalue
  obtain ⟨label, rfl⟩ := h.exists_text (by simp [Form.Declares, postForm]) htype
  rw [hattributes] at hc
  cases hc
  refine ⟨nofun, fun sender' submission heq => ?_⟩
  cases heq
  rfl

theorem whole_of_build_rates (hbuild : ratesForm.build t = some c) : c.Whole := by
  obtain ⟨word, -, hbuild⟩ := Option.bind_eq_some_iff.1 hbuild
  obtain ⟨kind, -, hbuild⟩ := Option.bind_eq_some_iff.1 hbuild
  obtain ⟨denom, -, hc⟩ := Option.bind_eq_some_iff.1 hbuild
  cases hc
  cases Query.limit? (t.value "--limit") with
  | error refusal => exact ⟨nofun, nofun⟩
  | ok limit => cases denom <;> exact ⟨nofun, nofun⟩

theorem whole_of_build {form : CommandForm} (hform : form ∈ commandForms)
    (h : t.Reads form.form) (hbuild : form.build t = some c) : c.Whole := by
  simp only [commandForms, List.mem_cons, List.not_mem_nil, or_false] at hform
  rcases hform with rfl | rfl | rfl | rfl | rfl | rfl | rfl | rfl | rfl | rfl
  · exact whole_of_build_init h hbuild
  · exact whole_of_build_post h hbuild
  · cases hbuild
    exact ⟨nofun, nofun⟩
  · cases hbuild
    exact ⟨nofun, nofun⟩
  · obtain ⟨key, -, hc⟩ := Option.bind_eq_some_iff.1 hbuild
    cases hc
    exact ⟨nofun, nofun⟩
  · obtain ⟨key, -, hc⟩ := Option.bind_eq_some_iff.1 hbuild
    cases hc
    exact ⟨nofun, nofun⟩
  · cases hbuild
    exact ⟨nofun, nofun⟩
  · obtain ⟨word, -, hbuild⟩ := Option.bind_eq_some_iff.1 hbuild
    obtain ⟨kind, -, hbuild⟩ := Option.bind_eq_some_iff.1 hbuild
    obtain ⟨denom, -, hc⟩ := Option.bind_eq_some_iff.1 hbuild
    cases hc
    cases denom <;> exact ⟨nofun, nofun⟩
  · exact whole_of_build_rates hbuild
  · obtain ⟨denom, -, hbuild⟩ := Option.bind_eq_some_iff.1 hbuild
    obtain ⟨channel, -, hc⟩ := Option.bind_eq_some_iff.1 hbuild
    cases hc
    exact ⟨nofun, nofun⟩

end

theorem dashed_globalForm : globalForm.Dashed := by
  simp [Form.Dashed, globalForm, dividerMark]

theorem dashed_of_mem {form : CommandForm} (h : form ∈ commandForms) : form.form.Dashed := by
  simp only [commandForms, List.mem_cons, List.not_mem_nil, or_false] at h
  rcases h with rfl | rfl | rfl | rfl | rfl | rfl | rfl | rfl | rfl | rfl <;>
    simp [Form.Dashed, initForm, postForm, bareForm, latestForm, historyForm, rateForm, ratesForm,
      denomHashForm, limitRule, dividerMark]

theorem Invocation.whole_ofArguments {arguments : List String} {i : Invocation}
    (hwords : ∀ argument ∈ arguments, ¬IsMark argument.toList)
    (h : ofArguments arguments = .ok i) : i.Whole := by
  obtain ⟨general, hscan, h⟩ := bind_eq_ok_iff.1 h
  have hgeneral : general.Reads globalForm := by
    refine Form.reads_scan dashed_globalForm (fun word hword => ?_) hscan
    obtain ⟨argument, hargument, rfl⟩ := List.mem_map.1 hword
    exact hwords argument hargument
  split at h
  · cases h
  · cases h
  · rename_i name words hcommand
    split at h
    · cases h
    · rename_i form hform
      have hmem := List.mem_of_find?_eq_some hform
      obtain ⟨taken, htaken, h⟩ := bind_eq_ok_iff.1 h
      have hreads : taken.Reads form.form :=
        Form.reads_scan (dashed_of_mem hmem)
          (fun word hword => hgeneral.command _ hcommand word (List.mem_cons_of_mem _ hword)) htaken
      cases hstrays : general.strays || taken.strays with
      | true =>
        rw [hstrays] at h
        cases h
      | false =>
        rw [hstrays] at h
        dsimp only at h
        cases hbuild : form.build taken with
        | none =>
          rw [hbuild] at h
          cases h
        | some c =>
          rw [hbuild] at h
          cases h
          refine ⟨?_, whole_of_build hmem hreads hbuild⟩
          exact decide_eq_false (hgeneral.find?_ne_nothing "--capacity")

end CommandLine

end MetricLedger
