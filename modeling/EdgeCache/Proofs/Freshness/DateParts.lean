/-
Reading a date part by part what has been written piece by piece.

- `Reads.append`, `Reads.blanks`: what parts read in turn, they read together, also with blanks between them.
- `reads_number`, `reads_dayName`, `reads_offset` and others of the name: each part reads its piece and fills in what is
  written there.
- `reads_fixedText`, `reads_dashedText`, `reads_plainText`: so does each form, for a moment in its years.
-/
import Mathlib.Tactic.IntervalCases
import EdgeCache.Freshness.DateText
import EdgeCache.Proofs.Time.Calendar
import EdgeCache.Proofs.Time.SpanText

namespace EdgeCache.Freshness

open EdgeCache.Text EdgeCache.Time

/-- the parts read the text, whatever follows it, and so fill in a draft -/
def Reads (parts : List DatePart) (text : List Char) (fill : DateDraft → DateDraft) : Prop :=
  ∀ d rest, readParts? parts d (text ++ rest) = some (fill d, rest)

/-- the text starts with something else than a blank -/
def IsFirm (text : List Char) : Prop := ∃ c rest, text = c :: rest ∧ isBlank c = false

variable {parts qs : List DatePart} {text text' : List Char} {fill fill' : DateDraft → DateDraft}

/-! ## Parts in turn -/

theorem readParts?_append (d : DateDraft) (cs : List Char) :
    readParts? (parts ++ qs) d cs = (readParts? parts d cs).bind fun r => readParts? qs r.1 r.2 :=
  List.foldlM_append

theorem readParts?_singleton (p : DatePart) (d : DateDraft) (cs : List Char) : readParts? [p] d cs = p.take? d cs := by
  unfold readParts?
  rw [List.foldlM_cons]
  exact bind_pure _

theorem Reads.append (h : Reads parts text fill) (h' : Reads qs text' fill') :
    Reads (parts ++ qs) (text ++ text') (fill' ∘ fill) := by
  intro d rest
  rw [readParts?_append, List.append_assoc, h, Option.bind_some, h']
  rfl

theorem trimStart_of_isFirm (h : IsFirm text) : trimStart text = text := by
  obtain ⟨c, rest, rfl, hc⟩ := h
  exact List.dropWhile_cons_of_neg (by simp [hc])

theorem IsFirm.append (h : IsFirm text) (rest : List Char) : IsFirm (text ++ rest) := by
  obtain ⟨c, cs, rfl, hc⟩ := h
  exact ⟨c, cs ++ rest, rfl, hc⟩

theorem Reads.blanks {gap : List Char} (hgap : ∀ c ∈ gap, isBlank c = true) (hfirm : IsFirm text)
    (h : Reads parts text fill) : Reads (.blanks :: parts) (gap ++ text) fill := by
  intro d rest
  have hblanks : readParts? [.blanks] d (gap ++ (text ++ rest)) = some (d, text ++ rest) := by
    rw [readParts?_singleton]
    show some (d, trimStart _) = _
    rw [trimStart_append hgap, trimStart_of_isFirm (hfirm.append rest)]
  rw [← List.singleton_append, readParts?_append, List.append_assoc, hblanks]
  exact h d rest

theorem Reads.blank (hfirm : IsFirm text) (h : Reads parts text fill) : Reads (.blanks :: parts) (' ' :: text) fill :=
  Reads.blanks (List.forall_mem_singleton.2 rfl) hfirm h

theorem reads_of_take? {p : DatePart} (h : ∀ d rest, p.take? d (text ++ rest) = some (fill d, rest)) :
    Reads [p] text fill := by
  intro d rest
  rw [readParts?_singleton, h]

/-! ## Names -/

theorem reads_literal (c : Char) : Reads [.literal c] [c] id := by
  apply reads_of_take?
  intro d rest
  exact if_pos rfl

theorem reads_shortDayName (w : Weekday) : Reads [.weekday false] (shortDayName w) ({ · with weekday := w }) := by
  apply reads_of_take?
  intro d rest
  cases w <;> rfl

theorem reads_dayName (w : Weekday) : Reads [.weekday true] (dayName w) ({ · with weekday := w }) := by
  apply reads_of_take?
  intro d rest
  cases w <;> rfl

theorem reads_shortMonthName {month : Nat} (hlow : 1 ≤ month) (hhigh : month ≤ 12) :
    Reads [.monthName] (shortMonthName month) ({ · with month := month }) := by
  apply reads_of_take?
  intro d rest
  interval_cases month <;> rfl

/-! ## Numbers -/

theorem isAlpha_digitChar : ∀ d < 10, d.digitChar.isAlpha = false := by decide

theorem isBlank_digitChar : ∀ d < 10, isBlank d.digitChar = false := by decide

theorem isDigit_lastDigit (n : Nat) : (n % 10).digitChar.isDigit = true := isDigit_digitChar _ (Nat.mod_lt n (by decide))

theorem digitValue_lastDigit (n : Nat) : digitValue (n % 10).digitChar = n % 10 :=
  digitValue_digitChar _ (Nat.mod_lt n (by decide))

theorem isFirm_twoDigits (n : Nat) : IsFirm (twoDigits n) :=
  ⟨_, _, rfl, isBlank_digitChar _ (Nat.mod_lt _ (by decide))⟩

theorem isFirm_fourDigits (n : Nat) : IsFirm (fourDigits n) := (isFirm_twoDigits _).append _

theorem isDigit_of_mem_twoDigits {n : Nat} {c : Char} (h : c ∈ twoDigits n) : c.isDigit = true := by
  rcases List.mem_pair.1 h with rfl | rfl
  · apply isDigit_lastDigit
  · apply isDigit_lastDigit

theorem isDigit_of_mem_fourDigits {n : Nat} {c : Char} (h : c ∈ fourDigits n) : c.isDigit = true :=
  (List.mem_append.1 h).elim isDigit_of_mem_twoDigits isDigit_of_mem_twoDigits

theorem digitsFrom_twoDigits (k n : Nat) : digitsFrom k (twoDigits n) = 100 * k + n % 100 := by
  unfold twoDigits
  rw [digitsFrom_cons, digitsFrom_cons, digitValue_lastDigit, digitValue_lastDigit]
  show 10 * _ + _ = _
  omega

theorem digitsFrom_fourDigits {n : Nat} (h : n < 10000) : digitsFrom 0 (fourDigits n) = n := by
  unfold fourDigits
  rw [digitsFrom_append, digitsFrom_twoDigits, digitsFrom_twoDigits]
  omega

theorem takeNumber?_append {ds : List Char} (hdigits : ∀ c ∈ ds, c.isDigit = true) (hfirm : IsFirm ds)
    (rest : List Char) : takeNumber? ds.length (ds ++ rest) = some (digitsFrom 0 ds, rest) := by
  have hne : ds ≠ [] := by
    obtain ⟨c, cs, rfl, -⟩ := hfirm
    exact List.cons_ne_nil c cs
  have hall : ds.takeWhile Char.isDigit = ds := List.takeWhile_eq_self_iff.2 hdigits
  unfold takeNumber?
  simp only
  rw [trimStart_of_isFirm (hfirm.append rest), List.take_left, hall, digits?_of_isDigit hne hdigits, List.drop_left]
  rfl

theorem takeNumber?_twoDigits (n : Nat) (rest : List Char) : takeNumber? 2 (twoDigits n ++ rest) = some (n % 100, rest) := by
  show takeNumber? (twoDigits n).length _ = _
  rw [takeNumber?_append (fun _ => isDigit_of_mem_twoDigits) (isFirm_twoDigits n), digitsFrom_twoDigits, Nat.mul_zero,
    Nat.zero_add]

theorem reads_number (field : DateField) {low high n : Nat} (hlow : low ≤ n) (hhigh : n ≤ high) (hn : n < 100) :
    Reads [.number field low high] (twoDigits n) (·.fill n field) := by
  apply reads_of_take?
  intro d rest
  unfold DatePart.take?
  rw [takeNumber?_twoDigits, Nat.mod_eq_of_lt hn]
  exact if_pos ⟨hlow, hhigh⟩

theorem takeNumber?_digitChar {n : Nat} (hn : n < 10) (rest : List Char) :
    takeNumber? 2 (n.digitChar :: ' ' :: rest) = some (n, ' ' :: rest) := by
  interval_cases n <;> rfl

/-- a number in two places, of which the first may be blank -/
theorem Reads.twoPlaces (field : DateField) {low high n : Nat} (hlow : low ≤ n) (hhigh : n ≤ high) (hn : n < 100)
    (h : Reads parts (' ' :: text) fill) :
    Reads (.blanks :: .number field low high :: parts) (' ' :: (twoPlaces n ++ ' ' :: text))
      (fill ∘ (·.fill n field)) := by
  unfold Freshness.twoPlaces
  split_ifs with hone
  · -- the blank in front of the digit is one with the blank in front of the number
    have hnumber : Reads (.number field low high :: parts) (n.digitChar :: ' ' :: text) (fill ∘ (·.fill n field)) := by
      intro d rest
      rw [← List.singleton_append, readParts?_append, readParts?_singleton, List.cons_append, List.cons_append]
      unfold DatePart.take?
      rw [takeNumber?_digitChar hone]
      simp only [Option.bind_eq_bind, Option.bind_some, hlow, hhigh, and_self, if_true]
      exact h _ rest
    show Reads _ ([' ', ' '] ++ n.digitChar :: ' ' :: text) _
    exact Reads.blanks (List.forall_mem_cons.2 ⟨rfl, List.forall_mem_singleton.2 rfl⟩)
      ⟨_, _, rfl, isBlank_digitChar n hone⟩ hnumber
  · exact ((reads_number field hlow hhigh hn).append h).blank ((isFirm_twoDigits n).append _)

theorem takeYear?_fourDigits {n : Nat} (h : n < 10000) (rest : List Char) :
    takeYear? (fourDigits n ++ rest) = some ((n : Int), rest) := by
  have hnumber : takeNumber? 4 (fourDigits n ++ rest) = some (n, rest) := by
    show takeNumber? (fourDigits n).length _ = _
    rw [takeNumber?_append (fun _ => isDigit_of_mem_fourDigits) (isFirm_fourDigits n), digitsFrom_fourDigits h]
  -- what starts with a digit starts with no sign
  have hdigit : ∀ c r, fourDigits n ++ rest = c :: r → c.isDigit = true := by
    intro c r h
    obtain ⟨rfl, -⟩ := List.cons.inj h
    apply isDigit_lastDigit
  unfold takeYear?
  rw [trimStart_of_isFirm ((isFirm_fourDigits n).append rest)]
  split
  · rename_i r h
    cases hdigit '-' r h
  · rename_i r h
    cases hdigit '+' r h
  · rw [hnumber]
    rfl

theorem reads_fullYear {y : Int} (hlow : 0 ≤ y) (hhigh : y ≤ 9999) :
    Reads [.fullYear] (fourDigits y.toNat) ({ · with year := y }) := by
  apply reads_of_take?
  intro d rest
  have hisYear : isYear y = true := by
    unfold isYear
    simp only [Bool.and_eq_true, decide_eq_true_eq]
    omega
  unfold DatePart.take?
  rw [takeYear?_fourDigits (by omega), Int.toNat_of_nonneg hlow]
  exact if_pos hisYear

theorem reads_shortYear {y : Int} (hlow : 1970 ≤ y) (hhigh : y ≤ 2069) :
    Reads [.shortYear] (twoDigits y.toNat) ({ · with year := y }) := by
  apply reads_of_take?
  intro d rest
  have hyear : (if y.toNat % 100 < 70 then 2000 + ((y.toNat % 100 : Nat) : Int)
      else 1900 + ((y.toNat % 100 : Nat) : Int)) = y := by
    split_ifs <;> omega
  unfold DatePart.take?
  rw [takeNumber?_twoDigits]
  show some (({ d with year := _ } : DateDraft), rest) = _
  rw [hyear]

theorem takeTwo?_twoDigits (n : Nat) (rest : List Char) : takeTwo? (twoDigits n ++ rest) = some (n % 100, rest) := by
  show (if _ ∧ _ then some (_, rest) else none) = _
  rw [if_pos ⟨isDigit_lastDigit _, isDigit_lastDigit _⟩, digitValue_lastDigit, digitValue_lastDigit]
  congr 2
  omega

theorem Offset.isFirm_text (o : Offset) : IsFirm o.text := by
  unfold Offset.text
  split_ifs
  · exact ⟨'-', _, rfl, rfl⟩
  · exact ⟨'+', _, rfl, rfl⟩

theorem takeOffset?_text (o : Offset) (rest : List Char) : takeOffset? (o.text ++ rest) = some (o.seconds, rest) := by
  have hhours : o.hours % 100 = o.hours := Nat.mod_eq_of_lt (Nat.lt_trans o.hours_lt (by decide))
  have hminutes : o.minutes % 100 = o.minutes := Nat.mod_eq_of_lt (Nat.lt_trans o.minutes_lt (by decide))
  -- no colon and no blank stands between the hours and the minutes
  have hgap : (twoDigits o.minutes ++ rest).dropWhile (fun c => c = ':' || isBlank c) = twoDigits o.minutes ++ rest := by
    have hstop : ∀ k < 10, (decide (k.digitChar = ':') || isBlank k.digitChar) = false := by decide
    apply List.dropWhile_cons_of_neg
    rw [hstop _ (Nat.mod_lt _ (by decide))]
    exact Bool.false_ne_true
  unfold takeOffset?
  rw [trimStart_of_isFirm (o.isFirm_text.append rest)]
  unfold Offset.text Offset.seconds
  split_ifs
  all_goals
    simp only [List.cons_append, List.append_assoc, Option.bind_eq_bind, Option.bind_some, takeTwo?_twoDigits, hgap,
      hhours, hminutes, o.minutes_lt, if_true]

theorem reads_offset (o : Offset) : Reads [.offset] o.text ({ · with offset := o.seconds }) := by
  apply reads_of_take?
  intro d rest
  unfold DatePart.take?
  rw [takeOffset?_text]
  rfl

/-! ## Forms -/

/-- the draft with the date and the time of a moment -/
def DateDraft.at (d : DateDraft) (m : Moment) : DateDraft where
  weekday := m.weekday
  year := m.date.year
  month := m.date.month
  day := m.date.day
  hour := m.hour
  minute := m.minute
  second := m.shownSecond
  offset := d.offset

variable {m : Moment}

theorem reads_clockText (m : Moment) : Reads clockParts (clockText m)
    fun d => { d with hour := m.hour, minute := m.minute, second := m.shownSecond } := by
  have hhour := m.hour_le
  have hminute := m.minute_le
  have hsecond := m.shownSecond_le
  have hseconds := (reads_literal ':').append
    (reads_number .second (Nat.zero_le _) hsecond (show m.shownSecond < 100 by omega))
  have hminutes := (reads_literal ':').append
    ((reads_number .minute (Nat.zero_le _) hminute (show m.minute < 100 by omega)).append hseconds)
  exact (reads_number .hour (Nat.zero_le _) hhour (show m.hour < 100 by omega)).append hminutes

theorem isFirm_clockText (m : Moment) : IsFirm (clockText m) := (isFirm_twoDigits m.hour).append _

theorem isFirm_shortMonthName (m : Moment) : IsFirm (shortMonthName m.date.month) := by
  obtain ⟨hlow, hhigh, -, -⟩ := Date.ofDayNumber_bounds m.day
  show IsFirm (shortMonthName (Date.ofDayNumber m.day).month)
  generalize (Date.ofDayNumber m.day).month = month at hlow hhigh
  interval_cases month <;> exact ⟨_, _, rfl, rfl⟩

theorem reads_month (m : Moment) : Reads [.monthName] (shortMonthName m.date.month) ({ · with month := m.date.month }) := by
  obtain ⟨hlow, hhigh, -, -⟩ := Date.ofDayNumber_bounds m.day
  exact reads_shortMonthName hlow hhigh

theorem reads_day (m : Moment) : Reads [.number .day 1 31] (twoDigits m.date.day) ({ · with day := m.date.day }) := by
  obtain ⟨-, -, hlow, hhigh⟩ := Date.ofDayNumber_bounds m.day
  exact reads_number .day hlow hhigh (Nat.lt_of_le_of_lt hhigh (by decide))

theorem fixedText_eq (m : Moment) : fixedText m = shortDayName m.weekday ++ ([','] ++ ' ' :: (twoDigits m.date.day ++
    ' ' :: (shortMonthName m.date.month ++ ' ' :: (fourDigits m.date.year.toNat ++ ' ' :: clockText m)))) := by
  simp [fixedText, join]

theorem dashedText_eq (m : Moment) : dashedText m = dayName m.weekday ++ ([','] ++ ' ' :: (twoDigits m.date.day ++
    (['-'] ++ (shortMonthName m.date.month ++ (['-'] ++ (twoDigits m.date.year.toNat ++ ' ' :: clockText m)))))) := by
  simp [dashedText, join]

theorem plainText_eq (m : Moment) : plainText m = shortDayName m.weekday ++ ' ' :: (shortMonthName m.date.month ++
    ' ' :: (twoPlaces m.date.day ++ ' ' :: (clockText m ++ ' ' :: fourDigits m.date.year.toNat))) := by
  simp [plainText, join]

theorem reads_fixedText (hlow : 0 ≤ m.date.year) (hhigh : m.date.year ≤ 9999) :
    Reads fixedForm (fixedText m) (·.at m) := by
  have hclock := (reads_clockText m).blank (isFirm_clockText m)
  have hyear := ((reads_fullYear hlow hhigh).append hclock).blank ((isFirm_fourDigits _).append _)
  have hmonth := ((reads_month m).append hyear).blank ((isFirm_shortMonthName m).append _)
  have hday := ((reads_day m).append hmonth).blank ((isFirm_twoDigits _).append _)
  rw [fixedText_eq]
  exact (reads_shortDayName m.weekday).append ((reads_literal ',').append hday)

theorem reads_dashedText (hlow : 1970 ≤ m.date.year) (hhigh : m.date.year ≤ 2069) :
    Reads dashedForm (dashedText m) (·.at m) := by
  have hclock := (reads_clockText m).blank (isFirm_clockText m)
  have hyear := (reads_literal '-').append ((reads_shortYear hlow hhigh).append hclock)
  have hmonth := (reads_literal '-').append ((reads_month m).append hyear)
  have hday := ((reads_day m).append hmonth).blank ((isFirm_twoDigits _).append _)
  rw [dashedText_eq]
  exact (reads_dayName m.weekday).append ((reads_literal ',').append hday)

theorem reads_plainText (hlow : 0 ≤ m.date.year) (hhigh : m.date.year ≤ 9999) :
    Reads plainForm (plainText m) (·.at m) := by
  obtain ⟨-, -, hday, hday'⟩ := Date.ofDayNumber_bounds m.day
  have hyear := (reads_fullYear hlow hhigh).blank (isFirm_fourDigits _)
  have hclock := ((reads_clockText m).append hyear).blank ((isFirm_clockText m).append _)
  have hday := Reads.twoPlaces .day hday hday' (Nat.lt_of_le_of_lt hday' (by decide)) hclock
  have hmonth := ((reads_month m).append hday).blank ((isFirm_shortMonthName m).append _)
  rw [plainText_eq]
  exact (reads_shortDayName m.weekday).append hmonth

end EdgeCache.Freshness
