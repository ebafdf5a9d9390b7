import MetricLedger.Proofs.Json.Numbers
import MetricLedger.Proofs.Json.Strings

/-!
# Reading arrays and objects

If the reader of an item takes just what is spelled as an item, then so do the readers of what stands
between brackets and of the members of an object. Blanks are skipped before and behind each part.
-/

namespace MetricLedger.Json

open Text

/-! ## Blanks -/

section
variable {s s' rest : List Char}

def EndsBlanks (s : List Char) : Prop := ∀ c ∈ s.head?, isSpace c = false

theorem endsBlanks_cons {c : Char} (h : isSpace c = false) : EndsBlanks (c :: s) := by
  rintro _ ⟨⟩
  exact h

theorem blanks_skip (s : List Char) : Blanks s (skip s) := by
  induction s with
  | nil => exact .none
  | cons c s ih =>
    by_cases hc : isSpace c = true
    · rw [skip, List.dropWhile_cons_of_pos hc]
      exact .cons hc ih
    · rw [skip, List.dropWhile_cons_of_neg hc]
      exact .none

theorem Blanks.skip_eq (h : Blanks s rest) (hrest : EndsBlanks rest) : skip s = rest := by
  induction h with
  | @none s =>
    cases s with
    | nil => rfl
    | cons c s =>
      have hc := hrest c rfl
      rw [skip, List.dropWhile_cons_of_neg (by simp [hc])]
  | cons hc _ ih =>
    rw [skip, List.dropWhile_cons_of_pos hc]
    exact ih hrest

theorem Blanks.eq_self (h : Blanks s rest) (hs : EndsBlanks s) : rest = s := by
  cases h with
  | none => rfl
  | cons hspace =>
    rw [hs _ rfl] at hspace
    cases hspace

theorem endsNumber_of_isSpace {c : Char} (h : isSpace c = true) : EndsNumber (c :: s) := by
  simp only [isSpace, Bool.or_eq_true, beq_iff_eq] at h
  rcases h with ((rfl | rfl) | rfl) | rfl
  all_goals
    rintro c ⟨⟩
    decide

theorem Blanks.endsNumber (h : Blanks s rest) (hrest : EndsNumber rest) : EndsNumber s := by
  cases h with
  | none => exact hrest
  | cons hc => exact endsNumber_of_isSpace hc

/-! ## Readers and spellings -/

def Starts (s : List Char) : Prop :=
  ∃ c tail, s = c :: tail ∧ isSpace c = false ∧ c ≠ ']' ∧ c ≠ '\x7d'

theorem Starts.skip_eq (h : Starts rest) (hs : Blanks s rest) : skip s = rest := by
  obtain ⟨c, tail, rfl, hc, -⟩ := h
  exact hs.skip_eq (endsBlanks_cons hc)

/-- The reader takes just what is spelled, as long as no number could go on behind it. -/
structure Reads {α : Type} (read : List Char → Option (α × List Char)) (P : Spelling α) : Prop where
  sound {s x rest} : read s = some (x, rest) → P x s rest
  complete {s x rest} : P x s rest → EndsNumber rest → read s = some (x, rest)
  starts {s x rest} : P x s rest → Starts s

def IsClose (c : Char) : Prop := c = ']' ∨ c = '\x7d'

theorem IsClose.endsNumber {c : Char} (h : IsClose c) : EndsNumber (c :: s) := by
  rcases h with rfl | rfl
  all_goals
    rintro c ⟨⟩
    decide

theorem IsClose.skip_eq {c : Char} (h : IsClose c) (hs : Blanks s (c :: rest)) :
    skip s = c :: rest := by
  apply hs.skip_eq
  rcases h with rfl | rfl
  all_goals exact endsBlanks_cons (by decide)

theorem readClose_eq_some_iff {close : Char} (hclose : IsClose close) :
    readClose close s = some rest ↔ Blanks s (close :: rest) := by
  constructor
  · intro h
    unfold readClose at h
    have hblanks := blanks_skip s
    split at h
    · rename_i c tail hskip
      split at h
      · rename_i hc
        cases h
        rwa [hskip, hc] at hblanks
      · cases h
    · cases h
  · intro h
    rw [readClose, hclose.skip_eq h]
    simp

section
variable {α : Type} {close : Char} {item : Reader α} {P : Spelling α} {xs : List α}

theorem Items.ne_nil (h : Items close P xs s rest) : xs ≠ [] := by
  cases h <;> exact List.cons_ne_nil _ _

theorem Items.imp {P' : Spelling α} (hP : ∀ {x s rest}, P x s rest → P' x s rest)
    (h : Items close P xs s rest) : Items close P' xs s rest := by
  induction h with
  | last hblanks hx hend => exact .last hblanks (hP hx) hend
  | cons hblanks hx hcomma _ ih => exact .cons hblanks (hP hx) hcomma ih

theorem Items.forall_mem {Q : α → Prop} (hP : ∀ {x s rest}, P x s rest → Q x)
    (h : Items close P xs s rest) : ∀ x ∈ xs, Q x := by
  induction h with
  | last _ hx _ => exact List.forall_mem_singleton.2 (hP hx)
  | cons _ hx _ _ ih => exact List.forall_mem_cons.2 ⟨hP hx, ih⟩

theorem Items.and {Q : α → Prop} (h : Items close P xs s rest) (hQ : ∀ x ∈ xs, Q x) :
    Items close (fun x s rest => P x s rest ∧ Q x) xs s rest := by
  induction h with
  | last hblanks hx hend => exact .last hblanks ⟨hx, hQ _ List.mem_cons_self⟩ hend
  | cons hblanks hx hcomma _ ih =>
    obtain ⟨hQx, hQxs⟩ := List.forall_mem_cons.1 hQ
    exact .cons hblanks ⟨hx, hQx⟩ hcomma (ih hQxs)

theorem Items.starts (h : Items close P xs s rest) :
    ∃ x s₁ s₂, Blanks s s₁ ∧ P x s₁ s₂ := by
  cases h with
  | last hblanks hx => exact ⟨_, _, _, hblanks, hx⟩
  | cons hblanks hx => exact ⟨_, _, _, hblanks, hx⟩

theorem Items.of_readItems (hitem : Reads item.run P) (h : readItems close item s = some (xs, rest)) :
    Items close P xs s rest := by
  fun_induction readItems close item s generalizing xs with
  | case1 => cases h
  | case2 => cases h
  | case3 s x r hr more hc _ ih =>
    obtain ⟨⟨xs', r'⟩, hr', heq⟩ := Option.map_eq_some_iff.1 h
    cases heq
    exact .cons (blanks_skip s) (hitem.sound hr) (hc ▸ blanks_skip r) (ih hr')
  | case4 s x r hr more hc =>
    cases h
    exact .last (blanks_skip s) (hitem.sound hr) (hc ▸ blanks_skip r)
  | case5 => cases h

theorem readItems_last {x : α} (hclose : IsClose close) (hread : item.run (skip s) = some (x, s'))
    (hskip : skip s' = close :: rest) : readItems close item s = some ([x], rest) := by
  have hcomma : close ≠ ',' := by
    rintro rfl
    rcases hclose with h | h <;> cases h
  unfold readItems
  split
  · simp_all
  · rename_i heq
    rw [hread] at heq
    cases heq
    split
    · simp_all
    · rename_i heq
      rw [hskip] at heq
      cases heq
      rw [if_neg hcomma, if_pos rfl]

theorem readItems_cons {x : α} {more : List Char} (hread : item.run (skip s) = some (x, s'))
    (hskip : skip s' = ',' :: more) (hmore : readItems close item more = some (xs, rest)) :
    readItems close item s = some (x :: xs, rest) := by
  rw [readItems]
  split
  · simp_all
  · rename_i heq
    rw [hread] at heq
    cases heq
    split
    · simp_all
    · rename_i heq
      rw [hskip] at heq
      cases heq
      rw [if_pos rfl, hmore]
      rfl

theorem Items.readItems_eq (hclose : IsClose close) (hitem : Reads item.run P)
    (h : Items close P xs s rest) : readItems close item s = some (xs, rest) := by
  induction h with
  | last hblanks hx hend =>
    have hread := hitem.complete hx (hend.endsNumber hclose.endsNumber)
    rw [← (hitem.starts hx).skip_eq hblanks] at hread
    exact readItems_last hclose hread (hclose.skip_eq hend)
  | cons hblanks hx hcomma _ ih =>
    have hread := hitem.complete hx (hcomma.endsNumber (by rintro _ ⟨⟩; decide))
    rw [← (hitem.starts hx).skip_eq hblanks] at hread
    exact readItems_cons hread (hcomma.skip_eq (endsBlanks_cons (by decide))) ih

/-- A body has nothing in it but blanks, or it has items. -/
theorem readBody_eq_some_iff (hclose : IsClose close) (hitem : Reads item.run P) :
    readBody close item s = some (xs, rest) ↔
      xs = [] ∧ Blanks s (close :: rest) ∨ Items close P xs s rest := by
  constructor
  · intro h
    unfold readBody at h
    have hblanks := blanks_skip s
    split at h
    · cases h
    · rename_i c tail hskip
      split at h
      · rename_i hc
        cases h
        rw [hskip, hc] at hblanks
        exact .inl ⟨rfl, hblanks⟩
      · exact .inr (.of_readItems hitem h)
  · rintro (⟨rfl, hblanks⟩ | hitems)
    · rw [readBody, hclose.skip_eq hblanks]
      simp
    · obtain ⟨x, s₁, s₂, hblanks, hx⟩ := hitems.starts
      have hstarts := hitem.starts hx
      have hskip := hstarts.skip_eq hblanks
      obtain ⟨c, tail, rfl, -, hc⟩ := hstarts
      have hne : c ≠ close := by
        rcases hclose with rfl | rfl
        · exact hc.1
        · exact hc.2
      rw [readBody, hskip]
      simp only [if_neg hne]
      exact hitems.readItems_eq hclose hitem

end

theorem Quoted.exists_tail {t : String} (h : Quoted t s rest) : ∃ tail, s = '"' :: tail := by
  cases h
  exact ⟨_, rfl⟩

theorem starts_quote : Starts ('"' :: s) :=
  ⟨'"', s, rfl, by decide, by decide, by decide⟩

theorem reads_member {item : Reader Value} {P : Spelling Value} (hitem : Reads item.run P) :
    Reads (member item).run (Member P) := by
  constructor
  · intro s m rest h
    change readMember item s = _ at h
    simp only [readMember, bind, Option.bind_eq_some_iff] at h
    obtain ⟨⟨name, s₁⟩, hname, h⟩ := h
    simp only at h
    split at h
    · rename_i s₂ hskip
      obtain ⟨⟨v, r⟩, hv, heq⟩ := Option.map_eq_some_iff.1 h
      cases heq
      exact .mk (readString_eq_some_iff.1 hname) (hskip ▸ blanks_skip s₁) (blanks_skip s₂)
        (hitem.sound hv)
    · cases h
  · rintro s _ rest ⟨hname, hcolon, hblanks, hv⟩ hrest
    have hread := hitem.complete hv hrest
    rw [← (hitem.starts hv).skip_eq hblanks] at hread
    change readMember item s = _
    simp [readMember, readString_eq_some_iff.2 hname,
      hcolon.skip_eq (endsBlanks_cons (by decide)), hread]
  · rintro s _ rest ⟨hname, -, -, -⟩
    obtain ⟨tail, rfl⟩ := hname.exists_tail
    exact starts_quote

end

end MetricLedger.Json
