import Mathlib.Algebra.Order.BigOperators.Group.List
import Mathlib.Algebra.Order.Group.Nat
import Mathlib.Data.List.Perm.Subperm
import MetricLedger.Logging
import MetricLedger.Proofs.Json.Ink
import MetricLedger.Proofs.Logging.Lines
import MetricLedger.Proofs.Stored.Same

/-!
# Log entries as JSON

In the form with braces a record puts its texts between quotes as they are. The line tells the
record just when none of its texts has anything to escape: there is no room on the line for an
escaped text.
-/

namespace MetricLedger

theorem sum_map_le_of_subset {α : Type} {f : α → Nat} {xs ys : List α} (hnodup : xs.Nodup)
    (hsub : xs ⊆ ys) : (xs.map f).sum ≤ (ys.map f).sum := by
  obtain ⟨zs, hperm, hsublist⟩ := List.subperm_of_subset hnodup hsub
  rw [← (hperm.map f).sum_eq]
  exact (hsublist.map f).sum_le_sum (by simp)

open Json Text

/-! ## What a line tells -/

namespace LogRecord

def members (r : LogRecord) : List (String × Value) := [
  ("level", .text (Logging.levelName r.level)), ("logger", .text (Logging.loggerName r.logger)),
  ("message", .text r.message)]

end LogRecord

namespace Logging

/-- The line is a JSON object with the members of the record. Of members of one name the last one
counts. -/
def Tells (line : String) (r : LogRecord) : Prop :=
  ∃ members, IsText StrictNumber (.object members) line.toList ∧
    ∀ m ∈ r.members, members.reverse.lookup m.1 = some m.2

/-! ## Clear texts -/

/-- Nothing in the text has to be escaped, and nothing in it ends a line. -/
def IsClear (text : String) : Prop := ∀ c ∈ text.toList, isPlain c = true ∧ endsLine c = false

instance (text : String) : Decidable (IsClear text) :=
  decidable_of_iff (text.toList.all fun c => isPlain c && !endsLine c) (by simp [IsClear])

theorem IsClear.plain {text : String} (h : IsClear text) : ∀ c ∈ text.toList, isPlain c = true :=
  fun c hc => (h c hc).1

theorem isClear_of_isDigit {c : Char} (h : c.isDigit = true) :
    isPlain c = true ∧ endsLine c = false := by
  have hne : ∀ d : Char, d.isDigit = false → c ≠ d := fun d => ne_of_isDigit h
  have := toNat_of_isDigit h
  constructor
  · simp [isPlain, hne]
    omega
  · simp [endsLine]
    omega

theorem isClear_levelName (level : Nat) : IsClear (levelName level) := by
  unfold levelName
  split
  · rename_i h
    have hnames : ∀ entry ∈ levels, IsClear entry.1 := by decide
    exact hnames _ (List.mem_of_find?_eq_some h)
  · intro c hc
    have hword : IsClear "Level " := by decide
    change c ∈ ("Level " ++ String.ofList (numeral level)).toList at hc
    rw [String.toList_append] at hc
    rcases List.mem_append.1 hc with hc | hc
    · exact hword c hc
    · rw [String.toList_ofList] at hc
      exact isClear_of_isDigit (digits_numeral level c hc)

theorem isClear_loggerName {logger : String} : IsClear (loggerName logger) ↔ IsClear logger := by
  unfold loggerName
  by_cases h : logger = ""
  · subst h
    exact ⟨fun _ => by decide, fun _ => by decide⟩
  · rw [if_neg h]

end Logging

def LogRecord.IsClear (r : LogRecord) : Prop := Logging.IsClear r.logger ∧ Logging.IsClear r.message

namespace Logging

section
variable {time name text : String} {r : LogRecord} {rest rest' : List Char}

/-! ## One line -/

def memberChars (name text : String) (rest : List Char) : List Char :=
  '"' :: (name.toList ++ '"' :: ':' :: ' ' :: '"' :: (text.toList ++ '"' :: rest))

def recordChars (r : LogRecord) : List Char :=
  memberChars "level" (levelName r.level) (',' :: ' ' ::
    memberChars "logger" (loggerName r.logger) (',' :: ' ' ::
      memberChars "message" r.message ['\x7d']))

theorem toList_bracedForm (time : String) (r : LogRecord) : (bracedForm time r).toList =
    '\x7b' :: memberChars "timestamp" time (',' :: ' ' :: recordChars r) := by
  have hmember : ∀ (name text : String) (rest : List Char),
      memberChars name text rest = (s!"\"{name}\": \"{text}\"").toList ++ rest := by
    intro name text rest
    show _ = ("\"" ++ name ++ "\": \"" ++ text ++ "\"").toList ++ rest
    simp [memberChars]
  simp only [recordChars, hmember]
  simp [bracedForm]

theorem ink_memberChars (name text : String) (rest : List Char) :
    ink (memberChars name text rest) = ink name.toList + ink text.toList + 5 + ink rest := by
  simp only [memberChars, ink_cons, ink_append]
  simp
  omega

theorem member_of_isClear {N : Spelling Value} (hname : IsClear name) (htext : IsClear text) :
    Member (Spells N) (name, .text text) (memberChars name text rest) rest :=
  .mk (quoted_plain hname.plain) .none (.cons (by decide) .none)
    (.scalar (.text (quoted_plain htext.plain)))

/-- A member without anything to escape is read as it was written. -/
theorem eq_of_member {limit : Option Nat} {m : String × Value} (hname : IsClear name)
    (htext : IsClear text)
    (h : Member (Spells (Numeral limit)) m (memberChars name text rest) rest') :
    m = (name, .text text) ∧ rest' = rest := by
  obtain ⟨hquoted, hcolon, hblanks, hv⟩ := h
  have hread := (readString_eq_some_iff.2 hquoted).symm.trans
    (readString_eq_some_iff.2 (quoted_plain hname.plain))
  cases hread
  cases hcolon.eq_self (endsBlanks_cons (by decide))
  cases hblanks with
  | none => exact absurd hv not_spells_space
  | cons _ hblanks =>
    cases hblanks.eq_self (endsBlanks_cons (by decide))
    obtain ⟨t, rfl, ht⟩ := hv.exists_text
    have hread := (readString_eq_some_iff.2 ht).symm.trans
      (readString_eq_some_iff.2 (quoted_plain htext.plain))
    cases hread
    exact ⟨rfl, rfl⟩

theorem tells_of_isClear (htime : IsClear time) (hr : r.IsClear) : Tells (bracedForm time r) r := by
  refine ⟨("timestamp", .text time) :: r.members, ?_, ?_⟩
  · have hlevel := isClear_levelName r.level
    have hlogger := isClear_loggerName.2 hr.1
    have hblank : ∀ s, Blanks (' ' :: s) s := fun s => .cons (by decide) .none
    rw [toList_bracedForm]
    refine .mk .none (.object ?_) .none
    refine .cons .none (member_of_isClear (by decide) htime) .none ?_
    refine .cons (hblank _) (member_of_isClear (by decide) hlevel) .none ?_
    refine .cons (hblank _) (member_of_isClear (by decide) hlogger) .none ?_
    exact .last (hblank _) (member_of_isClear (by decide) hr.2) .none
  · simp [LogRecord.members, List.lookup_cons]

theorem ink_recordChars (r : LogRecord) : ink (recordChars r) =
    ink (levelName r.level).toList + ink (loggerName r.logger).toList + ink r.message.toList + 36 := by
  have hnames : ink "level".toList = 5 ∧ ink "logger".toList = 6 ∧ ink "message".toList = 7 ∧
      ink ['\x7d'] = 1 := by decide
  simp only [recordChars, ink_cons ',', ink_cons ' ', ink_memberChars, hnames, ite_true]
  simp
  omega

/-- The members of the record need all the ink behind the time, and more if there is anything to
escape. -/
theorem sum_memberInk_members (r : LogRecord) : (r.members.map fun m => memberInk m + 1).sum =
    ((levelName r.level).toList.map charInk).sum +
      ((loggerName r.logger).toList.map charInk).sum + (r.message.toList.map charInk).sum + 36 := by
  have hnames : textInk "level" = 7 ∧ textInk "logger" = 8 ∧ textInk "message" = 9 := by decide
  simp only [LogRecord.members, memberInk, Value.ink, hnames, List.map_cons, List.map_nil,
    List.sum_cons, List.sum_nil]
  simp only [textInk]
  omega

theorem plain_of_items {limit : Option Nat} {members : List (String × Value)}
    (hsub : r.members ⊆ members)
    (h : Items '\x7d' (Member (Spells (Numeral limit))) members (' ' :: recordChars r) rest) :
    (∀ c ∈ (loggerName r.logger).toList, isPlain c = true) ∧
      ∀ c ∈ r.message.toList, isPlain c = true := by
  have hink := h.ink_le (f := memberInk) (by decide) fun h => h.ink_le fun h => h.ink_le
  have hnodup : r.members.Nodup := by simp [LogRecord.members]
  have hsum := sum_map_le_of_subset (f := fun m => memberInk m + 1) hnodup hsub
  rw [sum_memberInk_members] at hsum
  rw [ink_cons, ink_recordChars, if_pos rfl] at hink
  have := ink_le_charInk (levelName r.level).toList
  have := ink_le_charInk (loggerName r.logger).toList
  have := ink_le_charInk r.message.toList
  constructor
  · apply isPlain_of_ink_le
    omega
  · apply isPlain_of_ink_le
    omega

theorem plain_of_tells (htime : IsClear time) (h : Tells (bracedForm time r) r) :
    (∀ c ∈ (loggerName r.logger).toList, isPlain c = true) ∧
      ∀ c ∈ r.message.toList, isPlain c = true := by
  obtain ⟨members, ⟨hblanks, hspells, -⟩, hmembers⟩ := h
  rw [toList_bracedForm] at hblanks
  cases hblanks.eq_self (endsBlanks_cons (by decide))
  have hitems := hspells.items_of_object (endsBlanks_cons (by decide)) (by simp)
  cases hitems with
  | last hblanks hm hclose =>
    cases hblanks.eq_self (endsBlanks_cons (by decide))
    obtain ⟨-, rfl⟩ := eq_of_member (by decide) htime hm
    cases hclose.eq_self (endsBlanks_cons (by decide))
  | cons hblanks hm hcomma hrest =>
    cases hblanks.eq_self (endsBlanks_cons (by decide))
    obtain ⟨rfl, rfl⟩ := eq_of_member (by decide) htime hm
    cases hcomma.eq_self (endsBlanks_cons (by decide))
    -- no member of the record is called as the first one, so all of them stand behind the time
    refine plain_of_items (fun m hm => ?_) hrest
    have hlookup := Value.mem_of_lookup (hmembers m hm)
    have hne : ∀ m ∈ r.members, m.1 ≠ "timestamp" := by simp [LogRecord.members]
    rcases List.mem_cons.1 (List.mem_reverse.1 hlookup) with heq | hmem
    · exact absurd (congrArg Prod.fst heq) (hne m hm)
    · exact hmem

theorem getLast?_bracedForm (time : String) (r : LogRecord) :
    (bracedForm time r).toList.getLast? = some '\x7d' := by
  show ("\x7b" ++ ", ".intercalate _ ++ "\x7d").toList.getLast? = _
  rw [String.toList_append]
  exact List.getLast?_concat

theorem bracedForm_ne_nil (time : String) (r : LogRecord) : (bracedForm time r).toList ≠ [] := by
  rw [toList_bracedForm]
  exact List.cons_ne_nil _ _

theorem not_endsLine_memberChars (hname : IsClear name) :
    (∀ c ∈ memberChars name text rest, endsLine c = false) ↔
      (∀ c ∈ text.toList, endsLine c = false) ∧ ∀ c ∈ rest, endsLine c = false := by
  have hmarks : endsLine '"' = false ∧ endsLine ':' = false ∧ endsLine ' ' = false := by decide
  simp only [memberChars, List.forall_mem_cons, List.forall_mem_append, hmarks, true_and]
  exact ⟨fun h => h.2, fun h => ⟨fun c hc => (hname c hc).2, h⟩⟩

theorem not_endsLine_bracedForm : (∀ c ∈ (bracedForm time r).toList, endsLine c = false) ↔
    (∀ c ∈ time.toList, endsLine c = false) ∧
    (∀ c ∈ (loggerName r.logger).toList, endsLine c = false) ∧
      ∀ c ∈ r.message.toList, endsLine c = false := by
  have hmarks : endsLine '\x7b' = false ∧ endsLine '\x7d' = false ∧ endsLine ',' = false ∧
      endsLine ' ' = false := by decide
  have hlevel : ∀ c ∈ (levelName r.level).toList, endsLine c = false :=
    fun c hc => (isClear_levelName r.level c hc).2
  rw [toList_bracedForm, recordChars]
  simp (disch := decide) only [List.forall_mem_cons, not_endsLine_memberChars, hmarks, true_and]
  constructor
  · rintro ⟨htime, -, hlogger, hmessage, -⟩
    exact ⟨htime, hlogger, hmessage⟩
  · rintro ⟨htime, hlogger, hmessage⟩
    exact ⟨htime, hlevel, hlogger, hmessage, List.forall_mem_nil _⟩

def linesOf (time : String) (r : LogRecord) : List String :=
  (Text.lines (bracedForm time r).toList).map String.ofList

theorem length_linesOf_pos (time : String) (r : LogRecord) : 0 < (linesOf time r).length := by
  rw [linesOf, List.length_map]
  exact length_lines_pos (getLast?_bracedForm time r)

theorem linesOf_of_isClear (htime : IsClear time) (hr : r.IsClear) :
    linesOf time r = [bracedForm time r] := by
  have hend : ∀ c ∈ (bracedForm time r).toList, endsLine c = false := by
    refine not_endsLine_bracedForm.2 ⟨fun c hc => (htime c hc).2, ?_, fun c hc => (hr.2 c hc).2⟩
    exact fun c hc => (isClear_loggerName.2 hr.1 c hc).2
  rw [linesOf, lines_of_not_endsLine (bracedForm_ne_nil time r) hend]
  simp

theorem isClear_of_linesOf (htime : IsClear time) {line : String} (h : linesOf time r = [line])
    (htells : Tells line r) : r.IsClear := by
  have hlength : (linesOf time r).length = 1 := by rw [h]; rfl
  rw [linesOf, List.length_map] at hlength
  have hend := not_endsLine_of_length_le (getLast?_bracedForm time r) (by decide) hlength.le
  rw [linesOf, lines_of_not_endsLine (bracedForm_ne_nil time r) hend] at h
  have hline : bracedForm time r = line := by simpa using h
  obtain ⟨-, hlogger, hmessage⟩ := not_endsLine_bracedForm.1 hend
  subst hline
  obtain ⟨hlogger', hmessage'⟩ := plain_of_tells htime htells
  refine ⟨isClear_loggerName.1 fun c hc => ⟨hlogger' c hc, hlogger c hc⟩, ?_⟩
  exact fun c hc => ⟨hmessage' c hc, hmessage c hc⟩

/-! ## All lines -/

def reaching (least : Nat) (records : List LogRecord) : List LogRecord :=
  records.filter fun r => least ≤ r.level && 0 < r.level

theorem exists_threshold {level : String} (h : Text.upper level ∉ ["BASIC_FORMAT", "_STYLES"]) :
    ∃ least, threshold level = .ok least := by
  simp only [List.mem_cons, List.not_mem_nil, or_false, not_or] at h
  unfold threshold
  split
  · exact absurd ‹_› h.1
  · exact absurd ‹_› h.2
  · exact ⟨_, rfl⟩

theorem lines_eq {level : String} {least : Nat} (h : threshold level = .ok least) (time : String)
    (records : List LogRecord) : lines ⟨level, "json"⟩ time records =
      .ok ((reaching least records).flatMap (linesOf time)) := by
  have hforms := lines_flatMap (getLast?_bracedForm time) (by decide) (reaching least records)
  unfold lines
  rw [h]
  show Except.ok ((Text.lines ((reaching least records).flatMap fun r =>
    (bracedForm time r).toList ++ ['\n'])).map String.ofList) = _
  rw [hforms, List.map_flatMap]
  rfl

theorem length_flatMap_linesOf (time : String) (rs : List LogRecord) :
    rs.length ≤ (rs.flatMap (linesOf time)).length := by
  induction rs with
  | nil => exact Nat.le_refl _
  | cons r rs ih =>
    have := length_linesOf_pos time r
    rw [List.flatMap_cons, List.length_append, List.length_cons]
    omega

/-- With as many lines as records no record has two lines. -/
theorem forall₂_linesOf {rs : List LogRecord} (htime : IsClear time) :
    List.Forall₂ Tells (rs.flatMap (linesOf time)) rs ↔ ∀ r ∈ rs, r.IsClear := by
  induction rs with
  | nil => simp
  | cons r rs ih =>
    rw [List.forall_mem_cons, ← ih, List.flatMap_cons]
    constructor
    · intro h
      have hlength := h.length_eq
      have := length_linesOf_pos time r
      have := length_flatMap_linesOf time rs
      rw [List.length_append, List.length_cons] at hlength
      obtain ⟨line, hline⟩ := List.length_eq_one_iff.1 (show (linesOf time r).length = 1 by omega)
      rw [hline] at h
      obtain ⟨hr, hrs⟩ := List.forall₂_cons.1 h
      exact ⟨isClear_of_linesOf htime hline hr, hrs⟩
    · rintro ⟨hr, hrs⟩
      rw [linesOf_of_isClear htime hr]
      exact .cons (tells_of_isClear htime hr) hrs

/-- **Lines and records.** At any level but two reserved words the lines are those of the records
that reach the level, record after record. Each of these records has one line that tells it, in
order, just when their names and messages have nothing to escape and no end of a line in them. -/
theorem lines_tell_iff {level time : String}
    (hlevel : Text.upper level ∉ ["BASIC_FORMAT", "_STYLES"]) (htime : IsClear time)
    (records : List LogRecord) :
    ∃ least ls, threshold level = .ok least ∧ lines ⟨level, "json"⟩ time records = .ok ls ∧
      ls = (reaching least records).flatMap (linesOf time) ∧
      (List.Forall₂ Tells ls (reaching least records) ↔
        ∀ r ∈ reaching least records, r.IsClear) := by
  obtain ⟨least, hleast⟩ := exists_threshold hlevel
  exact ⟨least, _, hleast, lines_eq hleast time records, rfl, forall₂_linesOf htime⟩

theorem lines_tell_iff_started :
    Text.upper "info" ∉ ["BASIC_FORMAT", "_STYLES"] ∧ IsClear "12:30" ∧
    ∃ ls, lines ⟨"info", "json"⟩ "12:30" [⟨20, "ledger", "started"⟩, ⟨10, "ledger", "row 1"⟩,
        ⟨35, "", "stopped"⟩] = .ok ls ∧
      List.Forall₂ Tells ls [⟨20, "ledger", "started"⟩, ⟨35, "", "stopped"⟩] := by
  have hlevel : Text.upper "info" ∉ ["BASIC_FORMAT", "_STYLES"] := by decide +kernel
  have htime : IsClear "12:30" := by decide
  obtain ⟨least, ls, hleast, hls, -, htell⟩ := lines_tell_iff hlevel htime
    [⟨20, "ledger", "started"⟩, ⟨10, "ledger", "row 1"⟩, ⟨35, "", "stopped"⟩]
  have hinfo : threshold "info" = .ok 20 := by decide +kernel
  cases hinfo.symm.trans hleast
  refine ⟨hlevel, htime, ls, hls, htell.2 ?_⟩
  unfold LogRecord.IsClear
  decide

def twofold : String :=
  "x\"\x7d\n\x7b\"timestamp\": \"TIME\", \"level\": \"CRITICAL\", " ++
    "\"logger\": \"ledger\", \"message\": \"y"

/-- One record gives two lines, and each of them tells a record that was never made. -/
theorem twofold_told_as_two :
    lines ⟨"INFO", "json"⟩ "TIME" [⟨20, "ledger", twofold⟩] =
      .ok [bracedForm "TIME" ⟨20, "ledger", "x"⟩, bracedForm "TIME" ⟨50, "ledger", "y"⟩] ∧
    Tells (bracedForm "TIME" ⟨20, "ledger", "x"⟩) ⟨20, "ledger", "x"⟩ ∧
    Tells (bracedForm "TIME" ⟨50, "ledger", "y"⟩) ⟨50, "ledger", "y"⟩ ∧
    ¬List.Forall₂ Tells
      [bracedForm "TIME" ⟨20, "ledger", "x"⟩, bracedForm "TIME" ⟨50, "ledger", "y"⟩]
      [⟨20, "ledger", twofold⟩] := by
  have htime : IsClear "TIME" := by decide
  refine ⟨?_, tells_of_isClear htime ?_, tells_of_isClear htime ?_, ?_⟩
  · decide +kernel
  · exact ⟨by decide, by decide⟩
  · exact ⟨by decide, by decide⟩
  · intro h
    cases h.length_eq

end

end Logging

end MetricLedger
