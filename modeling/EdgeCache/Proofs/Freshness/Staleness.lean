/-
When a response goes stale.

- `momentWithin?_eq`: from a draft that a form reads to its moment all numbers fit.
- `expiresAt_iff`, `givesAge_iff`: what decides by Expires, and with which age, is what is read.
- `ends_of_lifetime`, `forbidden_iff`: outside of leap seconds, a lifetime lasts until the date less the age, and from then
  on the response is not to be stored.
- `ofHeaderWithin?_eq`: on the way to a decision all numbers fit.
- `goesStaleOnce`: so a header has one moment at which it goes stale, whenever one asks.
-/
import EdgeCache.Freshness.Staleness
import EdgeCache.Proofs.Freshness.CacheControl
import EdgeCache.Proofs.Freshness.HttpDate
import EdgeCache.Proofs.Time.Range

namespace EdgeCache.Freshness

open EdgeCache.Text EdgeCache.Time EdgeCache.Message

/-! ## Dates -/

/-- the clock of a draft shows no more than two digits -/
def DateDraft.HasClock (d : DateDraft) : Prop := d.hour ≤ 99 ∧ d.minute ≤ 99 ∧ d.second ≤ 99

/-- the numbers that the part reads have no more than two digits, years apart -/
def DatePart.isNarrow : DatePart → Bool
  | .number _ _ high => high ≤ 99
  | _ => true

variable {parts : List DatePart} {d e : DateDraft} {cs rest : List Char}

theorem DateDraft.HasClock.fill (h : d.HasClock) {n : Nat} (hn : n ≤ 99) (field : DateField) :
    (d.fill n field).HasClock := by
  obtain ⟨hhour, hminute, hsecond⟩ := h
  cases field with
  | hour => exact ⟨hn, hminute, hsecond⟩
  | minute => exact ⟨hhour, hn, hsecond⟩
  | second => exact ⟨hhour, hminute, hn⟩
  | day => exact ⟨hhour, hminute, hsecond⟩
  | month => exact ⟨hhour, hminute, hsecond⟩
  | year => exact ⟨hhour, hminute, hsecond⟩

theorem DatePart.hasClock_take? {p : DatePart} (hp : p.isNarrow = true) (hd : d.HasClock)
    (h : p.take? d cs = some (e, rest)) : e.HasClock := by
  unfold DatePart.take? at h
  cases p with
  | blanks =>
    cases h
    exact hd
  | literal c =>
    cases cs with
    | nil => cases h
    | cons x r =>
      obtain ⟨-, h⟩ := Option.ite_none_right_eq_some.1 h
      cases h
      exact hd
  | weekday long =>
    obtain ⟨⟨i, r⟩, -, h⟩ := Option.bind_eq_some_iff.1 h
    cases h
    exact hd
  | monthName =>
    obtain ⟨⟨i, r⟩, -, h⟩ := Option.map_eq_some_iff.1 h
    cases h
    exact hd
  | number field low high =>
    obtain ⟨⟨n, r⟩, -, h⟩ := Option.bind_eq_some_iff.1 h
    obtain ⟨⟨-, hn⟩, h⟩ := Option.ite_none_right_eq_some.1 h
    cases h
    exact hd.fill (Nat.le_trans hn (of_decide_eq_true hp)) field
  | fullYear =>
    obtain ⟨⟨y, r⟩, -, h⟩ := Option.bind_eq_some_iff.1 h
    obtain ⟨-, h⟩ := Option.ite_none_right_eq_some.1 h
    cases h
    exact hd
  | shortYear =>
    obtain ⟨⟨n, r⟩, -, h⟩ := Option.map_eq_some_iff.1 h
    cases h
    exact hd
  | offset =>
    obtain ⟨⟨o, r⟩, -, h⟩ := Option.map_eq_some_iff.1 h
    cases h
    exact hd

theorem hasClock_readParts? (hparts : ∀ p ∈ parts, p.isNarrow = true) (hd : d.HasClock)
    (h : readParts? parts d cs = some (e, rest)) : e.HasClock := by
  induction parts generalizing d cs with
  | nil =>
    cases h
    exact hd
  | cons p parts ih =>
    obtain ⟨hp, hparts⟩ := List.forall_mem_cons.1 hparts
    rw [← List.singleton_append, readParts?_append, readParts?_singleton] at h
    obtain ⟨⟨f, r⟩, htake, h⟩ := Option.bind_eq_some_iff.1 h
    exact ih hparts (DatePart.hasClock_take? hp hd htake) h

theorem DateForm.isNarrow (form : DateForm) : ∀ p ∈ form.parts, p.isNarrow = true := by
  cases form <;> decide

theorem hasClock_of_form {form : DateForm} (h : readParts? form.parts default cs = some (d, rest)) : d.HasClock :=
  hasClock_readParts? form.isNarrow ⟨Nat.zero_le _, Nat.zero_le _, Nat.zero_le _⟩ h

/-- from a draft to its moment all numbers fit -/
theorem momentWithin?_eq (hclock : d.HasClock) : d.momentWithin? = some d.moment? := by
  obtain ⟨hhour, hminute, hsecond⟩ := hclock
  have hshown : (if d.second = 60 then 59 else d.second) ≤ 99 := by
    split_ifs
    · decide
    · exact hsecond
  have hnano : (if d.second = 60 then nanosPerSecond else 0) < 2 * nanosPerSecond := by
    split_ifs <;> decide
  unfold DateDraft.momentWithin? DateDraft.moment?
  simp only [Option.bind_eq_bind]
  by_cases hvalid : (Date.mk d.year d.month d.day).isValid = true ∧
      weekdayOf (Date.mk d.year d.month d.day).dayNumber = d.weekday ∧ d.offset.natAbs < 86400
  · have hday := Date.dayNumber_inRange hvalid.1
    have hoffset := hvalid.2.2
    rw [Date.dayNumber_first, Date.dayNumber_last] at hday
    simp only [if_pos hvalid]
    generalize (Date.mk d.year d.month d.day).dayNumber = day at hday ⊢
    generalize (if d.second = 60 then 59 else d.second) = shown at hshown ⊢
    generalize (if d.second = 60 then nanosPerSecond else 0) = nano at hnano ⊢
    have hmidnight : (day * secondsPerDay).natAbs ≤ 96465292 * 86400 := by
      unfold secondsPerDay
      omega
    rw [fit?_of_le (by omega), Option.bind_some, fit?_of_le (by omega), Option.bind_some, fit?_of_le (by omega),
      Option.bind_some, fit?_of_le (by omega), Option.bind_some]
    refine congrArg some (if_congr ?_ rfl rfl)
    exact ⟨fun h => ⟨h.1, h.2.1⟩, fun h => ⟨h.1, h.2, hnano⟩⟩
  · simp only [if_neg hvalid]

theorem inRange_of_moment? {m : Moment} (h : d.moment? = some m) : m.InRange := by
  unfold DateDraft.moment? at h
  simp only at h
  obtain ⟨-, h⟩ := Option.ite_none_right_eq_some.1 h
  obtain ⟨⟨hlow, hhigh⟩, h⟩ := Option.ite_none_right_eq_some.1 h
  cases h
  refine ⟨hlow, hhigh, ?_⟩
  show (if d.second = 60 then nanosPerSecond else 0) < 2 * nanosPerSecond
  split_ifs <;> decide

theorem inRange_of_readDate? {value : String} {m : Moment} (h : readDate? value = some m) : m.InRange := by
  rw [readDate?_eq] at h
  obtain ⟨form, -, hread⟩ := List.exists_of_findSome?_eq_some h
  obtain ⟨cs, hform⟩ : ∃ cs, readForm? form.parts cs = some m := by
    cases form with
    | fixed =>
      obtain ⟨front, -, hfront⟩ := Option.bind_eq_some_iff.1 hread
      exact ⟨front, hfront⟩
    | offset => exact ⟨_, hread⟩
    | dashed =>
      obtain ⟨front, -, hfront⟩ := Option.bind_eq_some_iff.1 hread
      exact ⟨front, hfront⟩
    | plain => exact ⟨_, hread⟩
  unfold readForm? at hform
  split at hform
  · exact inRange_of_moment? hform
  · cases hform

/-! ## What decides -/

variable {h : Header} {expires now later : Moment} {age : Nat}

theorem ofDirectives?_eq_none_iff {directives : List (List Char)} : ofDirectives? directives = none ↔
    (∀ d ∈ directives, ¬Forbids d) ∧ GivesNone "s-maxage" directives ∧ GivesNone "max-age" directives := by
  rw [ofDirectives?_eq, ← firstSeconds?_eq_none_iff, ← firstSeconds?_eq_none_iff]
  by_cases hsome : directives.any isProhibition = true
  · obtain ⟨d, hd, hforbids⟩ := any_isProhibition_iff.1 hsome
    rw [if_pos hsome]
    exact ⟨fun h => (Option.some_ne_none _ h).elim, fun h => absurd hforbids (h.1 d hd)⟩
  · have hallowed : ∀ d ∈ directives, ¬Forbids d := fun d hd hforbids => hsome (any_isProhibition_iff.2 ⟨d, hd, hforbids⟩)
    rw [if_neg hsome, Option.map_eq_none_iff, Option.orElse_eq_orElse, Option.orElse_eq_or, Option.or_eq_none_iff]
    exact ⟨fun h => ⟨hallowed, h⟩, fun h => h.2⟩

theorem expiresAt_iff : ExpiresAt h expires ↔
    ofDirectives? (h.elements "cache-control") = none ∧ (h.line? "expires").bind readDate? = some expires := by
  rw [ofDirectives?_eq_none_iff, Option.bind_eq_some_iff]
  constructor
  · rintro ⟨hallowed, hshared, hgeneral, hdate⟩
    exact ⟨⟨hallowed, hshared, hgeneral⟩, hdate⟩
  · rintro ⟨⟨hallowed, hshared, hgeneral⟩, hdate⟩
    exact ⟨hallowed, hshared, hgeneral, hdate⟩

def readAge? (h : Header) : Option Nat := (h.line? "age").bind fun v => seconds? v.toList

theorem readAge?_eq_some_iff {n : Nat} : readAge? h = some n ↔ ∃ text, h.line? "age" = some text ∧ IsAge text n := by
  unfold readAge? IsAge
  rw [Option.bind_eq_some_iff]
  simp only [seconds?_eq_some_iff]

theorem givesAge_iff : GivesAge h age ↔ age = min ((readAge? h).getD 0) ageLimit := by
  constructor
  · intro hgives
    cases hgives with
    | given first isAge => rw [readAge?_eq_some_iff.2 ⟨_, first, isAge⟩, Option.getD_some]
    | silent unreadable =>
      have hnone : readAge? h = none := by
        rw [Option.eq_none_iff_forall_ne_some]
        intro n hn
        obtain ⟨text, hline, hage⟩ := readAge?_eq_some_iff.1 hn
        exact unreadable text n hline hage
      rw [hnone]
      rfl
  · rintro rfl
    cases hread : readAge? h with
    | some n =>
      obtain ⟨text, hline, hage⟩ := readAge?_eq_some_iff.1 hread
      exact .given hline hage
    | none =>
      refine .silent fun text n hline hage => ?_
      rw [readAge?_eq_some_iff.2 ⟨text, hline, hage⟩] at hread
      cases hread

theorem ofHeader_of_expiresAt (hexpires : ExpiresAt h expires) (now : Moment) :
    Decision.ofHeader h now = ofExpiry expires now (readAge? h) := by
  obtain ⟨hdirectives, hdate⟩ := expiresAt_iff.1 hexpires
  unfold Decision.ofHeader
  rw [hdirectives, hdate]
  rfl

/-- outside of leap seconds, what is left is a difference of nanoseconds -/
theorem ofExpiry_eq (hexpires : expires.isLeap = false) (hnow : now.isLeap = false) (read : Option Nat) :
    ofExpiry expires now read =
      if 0 < remaining expires now (min (read.getD 0) ageLimit) then
        .lifetime ⟨(remaining expires now (min (read.getD 0) ageLimit)).toNat⟩
      else .forbidden := by
  unfold ofExpiry remaining
  rw [Moment.since_eq hexpires hnow]

/-- what Expires decides at any moment -/
theorem ofHeader_eq_remaining (hexpires : ExpiresAt h expires) (hleap : expires.isLeap = false) (hnow : now.isLeap = false)
    (hage : GivesAge h age) : Decision.ofHeader h now =
      if 0 < remaining expires now age then .lifetime ⟨(remaining expires now age).toNat⟩ else .forbidden := by
  rw [givesAge_iff.1 hage, ofHeader_of_expiresAt hexpires, ofExpiry_eq hleap hnow]

/-- every lifetime that Expires decides ends at its date, less the age -/
theorem ends_of_lifetime (hexpires : ExpiresAt h expires) (hleap : expires.isLeap = false) (hnow : now.isLeap = false)
    (hage : GivesAge h age) {span : Span} (hlifetime : Decision.ofHeader h now = .lifetime span) :
    now.nanos + span.nanos = expires.nanos - age * nanosPerSecond := by
  rw [ofHeader_eq_remaining hexpires hleap hnow hage] at hlifetime
  split_ifs at hlifetime with hleft
  cases hlifetime
  calc now.nanos + ((remaining expires now age).toNat : Int)
      = now.nanos + remaining expires now age := by rw [Int.toNat_of_nonneg (Int.le_of_lt hleft)]
    _ = expires.nanos - age * nanosPerSecond := by unfold remaining; ring

/-- a response is not to be stored from its date on, less the age -/
theorem forbidden_iff (hexpires : ExpiresAt h expires) (hleap : expires.isLeap = false) (hnow : now.isLeap = false)
    (hage : GivesAge h age) :
    Decision.ofHeader h now = .forbidden ↔ expires.nanos - age * nanosPerSecond ≤ now.nanos := by
  rw [ofHeader_eq_remaining hexpires hleap hnow hage]
  unfold remaining
  split_ifs with hleft
  · refine iff_of_false (by simp) ?_
    omega
  · refine iff_of_true rfl ?_
    omega

/-- directives give positive lifetimes of which the seconds have 64 bits -/
theorem ofDirectives?_lifetime {directives : List (List Char)} {span : Span}
    (hdecides : ofDirectives? directives = some (.lifetime span)) : ∃ n, 1 ≤ n ∧ n ≤ 2 ^ 64 - 1 ∧ span = .ofSeconds n := by
  have hmeans : Means directives .unspecified (.lifetime span) := means_iff.2 (by rw [hdecides]; rfl)
  cases hmeans with
  | shared allowed first =>
    obtain ⟨before, d, after, -, ⟨value, -, -, hlow, hhigh⟩, -⟩ := first
    exact ⟨_, hlow, hhigh, rfl⟩
  | general allowed noShared first =>
    obtain ⟨before, d, after, -, ⟨value, -, -, hlow, hhigh⟩, -⟩ := first
    exact ⟨_, hlow, hhigh, rfl⟩

/-- a decision comes from the directives, from Expires or from nothing -/
theorem ofHeader_cases (h : Header) : (∃ d, ofDirectives? (h.elements "cache-control") = some d ∧
      (∀ now, Decision.ofHeader h now = d) ∧ ∀ now, Decision.ofHeaderWithin? h now = some d) ∨
    (∃ expires, ExpiresAt h expires ∧ expires.InRange ∧ (∀ now, Decision.ofHeader h now = ofExpiry expires now (readAge? h)) ∧
      ∀ now, Decision.ofHeaderWithin? h now = ofExpiryWithin? expires now (readAge? h)) ∨
    ((∀ now, Decision.ofHeader h now = .unspecified) ∧ ∀ now, Decision.ofHeaderWithin? h now = some .unspecified) := by
  unfold Decision.ofHeader Decision.ofHeaderWithin?
  cases hdirectives : ofDirectives? (h.elements "cache-control") with
  | some d => exact .inl ⟨d, rfl, fun _ => rfl, fun _ => rfl⟩
  | none =>
    cases hdate : (h.line? "expires").bind readDate? with
    | some expires =>
      obtain ⟨value, -, hread⟩ := Option.bind_eq_some_iff.1 hdate
      have hexpires : ExpiresAt h expires := expiresAt_iff.2 ⟨hdirectives, hdate⟩
      exact .inr (.inl ⟨expires, hexpires, inRange_of_readDate? hread, fun _ => rfl, fun _ => rfl⟩)
    | none => exact .inr (.inr ⟨fun _ => rfl, fun _ => rfl⟩)

theorem ofExpiry_lifetime {read : Option Nat} {span : Span} (hlifetime : ofExpiry expires now read = .lifetime span) :
    0 < span.nanos ∧ (span.nanos : Int) ≤ expires.since now := by
  unfold ofExpiry nanosPerSecond at hlifetime
  simp only at hlifetime
  split_ifs at hlifetime with hleft
  cases hlifetime
  show 0 < Int.toNat _ ∧ (Int.toNat _ : Int) ≤ _
  omega

/-- all numbers on the way to what is left fit -/
theorem ofExpiryWithin?_eq (hexpires : expires.InRange) (hnow : now.InRange) (read : Option Nat) :
    ofExpiryWithin? expires now read = some (ofExpiry expires now read) := by
  have hsince := Moment.since_bounds hexpires hnow
  have hage : min (read.getD 0) ageLimit ≤ 0xFFFFFFFF := Nat.min_le_right ..
  unfold ofExpiryWithin? ofExpiry
  generalize min (read.getD 0) ageLimit = age at hage ⊢
  have haged : ((age : Int) * nanosPerSecond).natAbs ≤ 0xFFFFFFFF * 1000000000 := by
    unfold nanosPerSecond
    omega
  simp only [Option.bind_eq_bind]
  rw [Moment.since?_eq hexpires hnow, Option.bind_some, fit?_of_le (by omega), Option.bind_some,
    fitLength?_of_le (by omega), Option.bind_some, fitLength?_of_le (by omega), Option.bind_some]
  rfl

/-! ## A header -/

theorem ofHeader_still (hnone : ∀ expires, ¬ExpiresAt h expires) (now later : Moment) :
    Decision.ofHeader h now = .ofHeader h later := by
  rcases ofHeader_cases h with ⟨d, -, hd, -⟩ | ⟨expires, hexpires, -, -, -⟩ | ⟨hd, -⟩
  · rw [hd, hd]
  · exact absurd hexpires (hnone expires)
  · rw [hd, hd]

theorem nanos_pos {span : Span} (hlifetime : Decision.ofHeader h now = .lifetime span) : 0 < span.nanos := by
  rcases ofHeader_cases h with ⟨d, hdirectives, hd, -⟩ | ⟨expires, -, -, hd, -⟩ | ⟨hd, -⟩
  all_goals rw [hd] at hlifetime
  · rw [hlifetime] at hdirectives
    obtain ⟨n, hlow, -, rfl⟩ := ofDirectives?_lifetime hdirectives
    exact Nat.mul_pos hlow (by decide)
  · exact (ofExpiry_lifetime hlifetime).1
  · cases hlifetime

theorem seconds_lt (hnow : now.InRange) {span : Span} (hlifetime : Decision.ofHeader h now = .lifetime span) :
    span.seconds < 2 ^ 64 := by
  rcases ofHeader_cases h with ⟨d, hdirectives, hd, -⟩ | ⟨expires, -, hrange, hd, -⟩ | ⟨hd, -⟩
  all_goals rw [hd] at hlifetime
  · rw [hlifetime] at hdirectives
    obtain ⟨n, -, hhigh, rfl⟩ := ofDirectives?_lifetime hdirectives
    unfold Span.ofSeconds Span.seconds
    rw [Nat.mul_div_cancel n (by decide)]
    omega
  · have hsince := Moment.since_bounds hrange hnow
    have hspan := (ofExpiry_lifetime hlifetime).2
    unfold Span.seconds nanosPerSecond
    omega
  · cases hlifetime

/-- all numbers on the way to a decision fit -/
theorem ofHeaderWithin?_eq (hnow : now.InRange) (h : Header) :
    Decision.ofHeaderWithin? h now = some (.ofHeader h now) := by
  rcases ofHeader_cases h with ⟨d, -, hd, hwithin⟩ | ⟨expires, -, hrange, hd, hwithin⟩ | ⟨hd, hwithin⟩
  · rw [hwithin, hd]
  · rw [hwithin, hd, ofExpiryWithin?_eq hrange hnow]
  · rw [hwithin, hd]

/-- **Staleness comes at one moment**, for every header and whenever one asks: what is left until the date of Expires, less
the age, is a lifetime as long as it is positive, so all lifetimes end together, and a response that is not to be stored
stays so. Where no date decides, the moment does not count. No lifetime is empty, and no number overflows. -/
theorem goesStaleOnce (h : Header) : GoesStaleOnce h where
  age := ⟨_, givesAge_iff.2 rfl, fun _ hother => givesAge_iff.1 hother⟩
  left hexpires hleap hnow hage := by
    rw [ofHeader_eq_remaining hexpires hleap hnow hage]
    exact ⟨fun hleft => if_pos hleft, fun hleft => if_neg (Int.not_lt.2 hleft)⟩
  ends {expires now later d e} hexpires hleap hnow hlater hd he := by
    have hage : GivesAge h _ := givesAge_iff.2 rfl
    calc now.nanos + d.nanos
        = expires.nanos - (min ((readAge? h).getD 0) ageLimit : Nat) * nanosPerSecond :=
          ends_of_lifetime hexpires hleap hnow hage hd
      _ = later.nanos + e.nanos := (ends_of_lifetime hexpires hleap hlater hage he).symm
  stays hexpires hleap hnow hlater hle hforbidden := by
    have hage : GivesAge h _ := givesAge_iff.2 rfl
    rw [forbidden_iff hexpires hleap hlater hage]
    exact Int.le_trans ((forbidden_iff hexpires hleap hnow hage).1 hforbidden) hle
  still := ofHeader_still
  positive := nanos_pos
  fits hnow := ⟨ofHeaderWithin?_eq hnow h, fun _ => seconds_lt hnow⟩
  datesFit hread := momentWithin?_eq (hasClock_of_form hread)

namespace Sample

/-- a response with a date and an age -/
def aged (age : String) : Header := [⟨"expires", "Fri, 17 May 2024 10:31:40 GMT"⟩, ⟨"age", age⟩]

/-- the date -/
def deadline : Moment := ⟨1715941900, 0⟩

theorem expiresAt_aged (age : String) : ExpiresAt (aged age) deadline := by
  have hread : readDate? "Fri, 17 May 2024 10:31:40 GMT" = some deadline := by decide
  exact expiresAt_iff.2 ⟨rfl, hread⟩

/-- a minute is left, then a nanosecond, then nothing -/
theorem goesStaleOnce_aged : ExpiresAt (aged "40") deadline ∧ GivesAge (aged "40") 40 ∧
    Decision.ofHeader (aged "40") ⟨1715941800, 0⟩ = .lifetime ⟨60000000000⟩ ∧
    Decision.ofHeader (aged "40") ⟨1715941859, 999999999⟩ = .lifetime ⟨1⟩ ∧
    Decision.ofHeader (aged "40") ⟨1715941860, 0⟩ = .forbidden := by
  have hage : GivesAge (aged "40") 40 := givesAge_iff.2 (by decide)
  have hleft : ∀ now : Moment, now.isLeap = false → (0 < remaining deadline now 40 →
      Decision.ofHeader (aged "40") now = .lifetime ⟨(remaining deadline now 40).toNat⟩) ∧
      (remaining deadline now 40 ≤ 0 → Decision.ofHeader (aged "40") now = .forbidden) := fun now hnow =>
    (goesStaleOnce (aged "40")).left (expiresAt_aged "40") (by decide) hnow hage
  refine ⟨expiresAt_aged "40", hage, ?_, ?_, ?_⟩
  · exact (hleft ⟨1715941800, 0⟩ (by decide)).1 (by decide)
  · exact (hleft ⟨1715941859, 999999999⟩ (by decide)).1 (by decide)
  · exact (hleft ⟨1715941860, 0⟩ (by decide)).2 (by decide)

/-- an age that needs 65 bits does not count, although nothing would be left -/
theorem age_of_65_bits : ExpiresAt (aged "18446744073709551616") deadline ∧
    (aged "18446744073709551616").line? "age" = some "18446744073709551616" ∧
    Writes (unquote (trim "18446744073709551616".toList)) (2 ^ 64) ∧
    remaining deadline ⟨1715941800, 0⟩ (min (2 ^ 64) ageLimit) ≤ 0 ∧
    Decision.ofHeader (aged "18446744073709551616") ⟨1715941800, 0⟩ = .lifetime ⟨100000000000⟩ := by
  have hnone : readAge? (aged "18446744073709551616") = none := by decide
  refine ⟨expiresAt_aged _, by decide, ?_, by decide, ?_⟩
  · exact ⟨"18446744073709551616".toList, .inl (by decide), by decide, List.all_eq_true.1 (by decide), by decide⟩
  · rw [ofHeader_of_expiresAt (expiresAt_aged _), hnone]
    decide

end Sample

end EdgeCache.Freshness
