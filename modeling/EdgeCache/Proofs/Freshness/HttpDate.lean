/-
Dates that are written and read again.

- `moment?_at`: a draft with the date and the clock of a place describes the moment.
- `readDate?_eq`: a date is read in the first form that fits.
- `read?_of_writes`: a text in a form is read in it, as the moment for which it stands.
- `read?_earlier`: the forms that are tried before do not fit.
- `dates_read_back`: so a moment comes back from its text in each form, also between blanks.
-/
import EdgeCache.Proofs.Freshness.DateParts

namespace EdgeCache.Freshness

open EdgeCache.Text EdgeCache.Time

variable {m : Moment} {form : DateForm} {text : List Char}

/-! ## Moments -/

/-- the days of the years that texts show are inside those of the calendar, with a day to spare -/
theorem day_bounds_of_shown (hlow : 0 ≤ m.date.year) (hhigh : m.date.year ≤ 9999) :
    (Date.mk Date.yearRange.1 1 1).dayNumber < m.day ∧ m.day < (Date.mk Date.yearRange.2 12 31).dayNumber := by
  have hfirst := Int.le_trans (daysBeforeYear_mono hlow) (daysBeforeYear_le m.day)
  have hlast := Int.lt_of_lt_of_le (lt_daysBeforeYear_succ m.day) (daysBeforeYear_mono (Int.add_le_add_right hhigh 1))
  rw [Date.dayNumber_first, Date.dayNumber_last]
  exact ⟨Int.lt_of_lt_of_le (by decide) hfirst, Int.lt_of_lt_of_le hlast (by decide)⟩

theorem moment?_of_valid {d : DateDraft} {second : Int} (hvalid : (Date.mk d.year d.month d.day).isValid = true)
    (hweekday : weekdayOf (Date.mk d.year d.month d.day).dayNumber = d.weekday) (hoffset : d.offset.natAbs < 86400)
    (hsecond : (Date.mk d.year d.month d.day).dayNumber * secondsPerDay +
      (3600 * d.hour + 60 * d.minute + (if d.second = 60 then 59 else d.second : Nat)) - d.offset = second)
    (hrange : (Date.mk Date.yearRange.1 1 1).dayNumber ≤ second / secondsPerDay ∧
      second / secondsPerDay ≤ (Date.mk Date.yearRange.2 12 31).dayNumber) :
    d.moment? = some ⟨second, if d.second = 60 then nanosPerSecond else 0⟩ := by
  subst hsecond
  unfold DateDraft.moment?
  exact (if_pos ⟨hvalid, hweekday, hoffset⟩).trans (if_pos hrange)

/-- a draft with the date and the clock of a place describes the moment, given how far they are ahead -/
theorem moment?_at (hwhole : m.IsWhole) (d : DateDraft) {o : Int} (ho : o.natAbs < 86400) (hminutes : o % 60 = 0)
    (hlow : 0 ≤ (m.ahead o).date.year) (hhigh : (m.ahead o).date.year ≤ 9999) :
    ({ d.at (m.ahead o) with offset := o } : DateDraft).moment? = some m := by
  have hplace := hwhole.ahead hminutes
  have hday : (m.ahead o).date.dayNumber = (m.ahead o).day := Date.dayNumber_ofDayNumber _
  have hvalid : (m.ahead o).date.isValid = true :=
    Date.isValid_ofDayNumber (Int.le_trans (by decide) hlow) (Int.le_trans hhigh (by decide))
  have hsecond : (m.ahead o).date.dayNumber * secondsPerDay + (3600 * (m.ahead o).hour + 60 * (m.ahead o).minute +
      (if (m.ahead o).shownSecond = 60 then 59 else (m.ahead o).shownSecond : Nat)) - o = m.second := by
    rw [hday, hplace.clock_eq]
    show m.second + o - o = m.second
    omega
  have hrange : (Date.mk Date.yearRange.1 1 1).dayNumber ≤ m.second / secondsPerDay ∧
      m.second / secondsPerDay ≤ (Date.mk Date.yearRange.2 12 31).dayNumber := by
    have hbounds := day_bounds_of_shown hlow hhigh
    have hahead : (m.ahead o).day = (m.second + o) / 86400 := rfl
    rw [show secondsPerDay = 86400 from rfl]
    omega
  rw [moment?_of_valid (d := { d.at (m.ahead o) with offset := o }) hvalid (congrArg weekdayOf hday) ho hsecond hrange]
  exact congrArg (fun nano => some (Moment.mk m.second nano)) hplace.nano_eq

/-! ## Reading -/

theorem readForm?_of_reads {parts : List DatePart} {fill : DateDraft → DateDraft} (h : Reads parts text fill) :
    readForm? parts text = (fill default).moment? := by
  have hall := h default []
  rw [List.append_nil] at hall
  unfold readForm?
  rw [hall]

/-! ## The last word -/

/-- the text ends in a word, and starts with something else than a blank -/
structure EndsIn (text front word : List Char) : Prop where
  text_eq : text = front ++ ' ' :: word
  isFirm : IsFirm front
  ne_nil : word ≠ []
  not_blank : ∀ c ∈ word, isBlank c = false

variable {front word : List Char}

theorem isBlank_of_isAlpha {c : Char} (h : c.isAlpha = true) : isBlank c = false :=
  forall_alphanum (P := fun c => isBlank c = false) (by decide) (Bool.or_eq_true_iff.2 (.inl h))

theorem IsZone.not_blank {zone : List Char} (h : IsZone zone) : ∀ c ∈ zone, isBlank c = false := fun c hc =>
  isBlank_of_isAlpha (h.2 c hc)

theorem Offset.not_blank (o : Offset) : ∀ c ∈ o.text, isBlank c = false := by
  intro c h
  unfold Offset.text at h
  rcases List.mem_cons.1 h with rfl | h
  · split_ifs <;> rfl
  · exact isBlank_of_isDigit ((List.mem_append.1 h).elim isDigit_of_mem_twoDigits isDigit_of_mem_twoDigits)

theorem isFirm_dayName (w : Weekday) : IsFirm (dayName w) ∧ IsFirm (shortDayName w) := by
  cases w <;> exact ⟨⟨_, _, rfl, rfl⟩, _, _, rfl, rfl⟩

theorem endsIn_fixedText (m : Moment) (hne : word ≠ []) (hword : ∀ c ∈ word, isBlank c = false) :
    EndsIn (fixedText m ++ ' ' :: word) (fixedText m) word :=
  ⟨rfl, ((isFirm_dayName m.weekday).2.append _).append _, hne, hword⟩

theorem endsIn_dashedText (m : Moment) (hne : word ≠ []) (hword : ∀ c ∈ word, isBlank c = false) :
    EndsIn (dashedText m ++ ' ' :: word) (dashedText m) word :=
  ⟨rfl, ((isFirm_dayName m.weekday).1.append _).append _, hne, hword⟩

theorem endsIn_plainText (m : Moment) : ∃ front, EndsIn (plainText m) front (fourDigits m.date.year.toNat) := by
  have htext : plainText m = (shortDayName m.weekday ++ ' ' :: (shortMonthName m.date.month ++
      ' ' :: (twoPlaces m.date.day ++ ' ' :: clockText m))) ++ ' ' :: fourDigits m.date.year.toNat := by
    simp [plainText, join]
  exact ⟨_, htext, (isFirm_dayName m.weekday).2.append _, List.cons_ne_nil _ _, fun c hc =>
    isBlank_of_isDigit (isDigit_of_mem_fourDigits hc)⟩

/-- each form ends in the name of a zone, an offset or a year -/
theorem endsIn_of_writes (h : form.Writes m text) : ∃ front word, EndsIn text front word := by
  cases h with
  | fixed low high isZone => exact ⟨_, _, endsIn_fixedText m isZone.1 isZone.not_blank⟩
  | offset o low high => exact ⟨_, _, endsIn_fixedText _ (List.cons_ne_nil _ _) o.not_blank⟩
  | dashed low high isZone => exact ⟨_, _, endsIn_dashedText m isZone.1 isZone.not_blank⟩
  | plain low high =>
    obtain ⟨front, hends⟩ := endsIn_plainText m
    exact ⟨front, _, hends⟩

theorem EndsIn.trim_eq (h : EndsIn text front word) {before after : List Char} (hbefore : ∀ c ∈ before, isBlank c = true)
    (hafter : ∀ c ∈ after, isBlank c = true) : trim (before ++ text ++ after) = text := by
  have hfirm : IsFirm text := h.text_eq ▸ h.isFirm.append _
  have hlast : text = (front ++ ' ' :: word.dropLast) ++ [word.getLast h.ne_nil] := by
    rw [List.append_assoc, List.cons_append, List.dropLast_append_getLast h.ne_nil]
    exact h.text_eq
  unfold trim
  rw [List.append_assoc, trimStart_append hbefore, trimStart_of_isFirm (hfirm.append after), trimEnd_append hafter, hlast]
  exact trimEnd_concat (h.not_blank _ (List.getLast_mem h.ne_nil)) _

theorem EndsIn.cutLast_eq (h : EndsIn text front word) : cutLast ' ' text = some (front, word) := by
  have hblank : ' ' ∉ word := fun hmem => absurd (h.not_blank ' ' hmem) (by decide)
  rw [h.text_eq, cutLast_append hblank]

theorem EndsIn.withoutZone?_eq (h : EndsIn text front word) (hword : ∀ c ∈ word, c.isAlpha = true) :
    withoutZone? text = some front := by
  unfold withoutZone?
  rw [h.cutLast_eq]
  exact if_pos ⟨h.ne_nil, List.all_eq_true.2 hword⟩

theorem EndsIn.withoutZone?_eq_none (h : EndsIn text front word) {c : Char} (hc : c ∈ word) (halpha : c.isAlpha = false) :
    withoutZone? text = none := by
  unfold withoutZone?
  rw [h.cutLast_eq]
  refine if_neg fun hzone => ?_
  rw [List.all_eq_true.1 hzone.2 c hc] at halpha
  cases halpha

/-! ## Forms -/

theorem readDate?_eq (value : String) :
    readDate? value = DateForm.all.findSome? fun form => form.read? (trim value.toList) := by
  unfold readDate? DateForm.all
  simp only [List.findSome?_cons, List.findSome?_nil, DateForm.read?]
  cases (withoutZone? (trim value.toList)).bind (readForm? fixedForm) with
  | some m => rfl
  | none =>
    cases readForm? offsetForm (trim value.toList) with
    | some m => rfl
    | none =>
      cases (withoutZone? (trim value.toList)).bind (readForm? dashedForm) with
      | some m => rfl
      | none => cases readForm? plainForm (trim value.toList) <;> rfl

theorem read?_of_writes (hwhole : m.IsWhole) (h : form.Writes m text) : form.read? text = some m := by
  have hnow : m.ahead 0 = m := congrArg (fun second => Moment.mk second m.nano) (Int.add_zero m.second)
  have huniversal : 0 ≤ m.date.year → m.date.year ≤ 9999 → (DateDraft.at default m).moment? = some m := by
    intro hlow hhigh
    have hat := moment?_at (o := 0) hwhole default (by decide) rfl (hnow.symm ▸ hlow) (hnow.symm ▸ hhigh)
    rwa [hnow] at hat
  cases h with
  | fixed low high isZone =>
    have hends := endsIn_fixedText m isZone.1 isZone.not_blank
    rw [DateForm.read?, hends.withoutZone?_eq isZone.2, Option.bind_some, readForm?_of_reads (reads_fixedText low high)]
    exact huniversal low high
  | offset o low high =>
    have hreads := (reads_fixedText low high).append ((reads_offset o).blank o.isFirm_text)
    have hsmall : o.seconds.natAbs < 86400 ∧ o.seconds % 60 = 0 := by
      have hhours := o.hours_lt
      have hminutes := o.minutes_lt
      unfold Offset.seconds
      split_ifs <;> omega
    exact (readForm?_of_reads hreads).trans (moment?_at hwhole default hsmall.1 hsmall.2 low high)
  | dashed low high isZone =>
    have hends := endsIn_dashedText m isZone.1 isZone.not_blank
    rw [DateForm.read?, hends.withoutZone?_eq isZone.2, Option.bind_some, readForm?_of_reads (reads_dashedText low high)]
    exact huniversal (by omega) (by omega)
  | plain low high => exact (readForm?_of_reads (reads_plainText low high)).trans (huniversal low high)

/-- a text that has no comma behind the short name of its day is not read -/
theorem readForm?_eq_none {parts : List DatePart} {w : Weekday} {c : Char} (hc : c ≠ ',') (rest : List Char) :
    readForm? (.weekday false :: .literal ',' :: parts) (shortDayName w ++ c :: rest) = none := by
  have hliteral : ∀ d, readParts? [.literal ','] d (c :: rest) = none := by
    intro d
    rw [readParts?_singleton]
    exact if_neg hc
  have hnone : readParts? ([.weekday false] ++ ([.literal ','] ++ parts)) default (shortDayName w ++ c :: rest) = none := by
    rw [readParts?_append, reads_shortDayName, Option.bind_some, readParts?_append, hliteral, Option.bind_none]
  unfold readForm?
  rw [show _ :: _ :: parts = [.weekday false] ++ ([.literal ','] ++ parts) from rfl, hnone]

/-- nor is one that has the long name of its day -/
theorem readForm?_dayName {parts : List DatePart} (w : Weekday) (rest : List Char) :
    readForm? (.weekday false :: .literal ',' :: parts) (dayName w ++ rest) = none := by
  obtain ⟨c, cs, hname, hc⟩ : ∃ c cs, dayName w = shortDayName w ++ c :: cs ∧ c ≠ ',' := by
    cases w <;> exact ⟨_, _, rfl, by decide⟩
  rw [hname, List.append_assoc, List.cons_append]
  exact readForm?_eq_none hc _

/-- an offset starts with a sign, so it is no zone -/
theorem fixed_read?_offset (m : Moment) (o : Offset) :
    DateForm.fixed.read? (fixedText m ++ ' ' :: o.text) = none := by
  have hends : EndsIn (fixedText m ++ ' ' :: o.text) _ o.text := endsIn_fixedText m (List.cons_ne_nil _ _) o.not_blank
  have hsign : (if o.behind = true then '-' else '+').isAlpha = false := by
    split_ifs <;> rfl
  rw [DateForm.read?, hends.withoutZone?_eq_none List.mem_cons_self hsign, Option.bind_none]

/-- the forms that are tried before do not fit -/
theorem read?_earlier (h : form.Writes m text) : ∀ e ∈ form.earlier, e.read? text = none := by
  intro e he
  cases h with
  | fixed low high isZone => cases he
  | offset o low high =>
    obtain rfl : e = .fixed := List.mem_singleton.1 he
    exact fixed_read?_offset _ o
  | dashed low high isZone =>
    have hends := endsIn_dashedText m isZone.1 isZone.not_blank
    -- the name of the day goes on where the other forms have a comma
    rcases List.mem_pair.1 he with rfl | rfl
    · rw [DateForm.read?, hends.withoutZone?_eq isZone.2, Option.bind_some, dashedText_eq]
      exact readForm?_dayName _ _
    · rw [DateForm.read?, dashedText_eq, List.append_assoc]
      exact readForm?_dayName _ _
  | plain low high =>
    obtain ⟨front, hends⟩ := endsIn_plainText m
    -- the year is no zone, and there is no comma behind the name of the day
    have hnone : withoutZone? (plainText m) = none :=
      hends.withoutZone?_eq_none List.mem_cons_self (isAlpha_digitChar _ (Nat.mod_lt _ (by decide)))
    rcases List.mem_cons.1 he with rfl | he
    · rw [DateForm.read?, hnone, Option.bind_none]
    · rcases List.mem_pair.1 he with rfl | rfl
      · rw [DateForm.read?, plainText_eq]
        exact readForm?_eq_none (by decide) _
      · rw [DateForm.read?, hnone, Option.bind_none]

/-- **Dates are read as they are written**: for every whole second, also a leap second, every text of it in one of the
four forms is read as that moment. The zone may have any name, the offset may be any below a day, and blanks may stand
around. No form that is tried before reads the text as anything. -/
theorem dates_read_back (hwhole : m.IsWhole) (h : form.Writes m text) {before after : List Char}
    (hbefore : ∀ c ∈ before, isBlank c = true) (hafter : ∀ c ∈ after, isBlank c = true) :
    readDate? (String.ofList (before ++ text ++ after)) = some m ∧ ∀ e ∈ form.earlier, e.read? text = none := by
  obtain ⟨front, word, hends⟩ := endsIn_of_writes h
  obtain ⟨later, hall⟩ : ∃ later, DateForm.all = form.earlier ++ form :: later := by
    cases form <;> exact ⟨_, rfl⟩
  have hearlier := read?_earlier h
  refine ⟨?_, hearlier⟩
  rw [readDate?_eq, String.toList_ofList, hends.trim_eq hbefore hafter, hall, List.findSome?_append,
    List.findSome?_eq_none_iff.2 hearlier, List.findSome?_cons, read?_of_writes hwhole h]
  rfl

namespace Sample

/-- half an hour into the year 10000 -/
def turn : Moment := ⟨253402302600, 0⟩

def hourBehind : Offset := ⟨true, 1, 0, by decide, by decide⟩

/-- where it is still the year 9999 -/
theorem dates_read_back_turn :
    turn.IsWhole ∧ turn.date = ⟨10000, 1, 1⟩ ∧ DateForm.offset.Writes turn "Fri, 31 Dec 9999 23:30:00 -0100".toList ∧
      readDate? "\t Fri, 31 Dec 9999 23:30:00 -0100 " = some turn ∧
      DateForm.fixed.read? "Fri, 31 Dec 9999 23:30:00 -0100".toList = none := by
  have hwhole : turn.IsWhole := by decide
  have hwrites : DateForm.offset.Writes turn "Fri, 31 Dec 9999 23:30:00 -0100".toList :=
    .offset hourBehind (by decide) (by decide)
  have hbefore : ∀ c ∈ ['\t', ' '], isBlank c = true :=
    List.forall_mem_cons.2 ⟨rfl, List.forall_mem_singleton.2 rfl⟩
  have hafter : ∀ c ∈ [' '], isBlank c = true := List.forall_mem_singleton.2 rfl
  obtain ⟨hread, hearlier⟩ := dates_read_back hwhole hwrites hbefore hafter
  exact ⟨hwhole, by decide, hwrites, hread, hearlier .fixed (by decide)⟩

end Sample

end EdgeCache.Freshness
