/-
When a response goes stale. If its header is decided by the date of Expires, then at a moment that does not depend on when
one asks; else what is left is always the same. `GoesStaleOnce` says this of a header, and that the numbers of the machine
are wide enough for all that is computed on the way.
-/
import EdgeCache.Freshness.CacheControl
import EdgeCache.Freshness.DateText
import EdgeCache.Time.Range

namespace EdgeCache.Freshness

open EdgeCache.Text EdgeCache.Time EdgeCache.Message

/-- a number of seconds that counts as an age: it is not zero and has 64 bits -/
def IsAge (text : String) (n : Nat) : Prop := Writes (unquote (trim text.toList)) n ∧ 1 ≤ n ∧ n ≤ 2 ^ 64 - 1

/-- the seconds of age that the header gives: those of the first Age, up to a limit, and none if it cannot be read -/
inductive GivesAge (h : Header) : Nat → Prop where
  | given {text : String} {n : Nat} (first : h.line? "age" = some text) (isAge : IsAge text n) : GivesAge h (min n ageLimit)
  | silent (unreadable : ∀ text n, h.line? "age" = some text → ¬IsAge text n) : GivesAge h 0

/-- the header is decided by the date of Expires: no directive decides it, and the first Expires is a date -/
structure ExpiresAt (h : Header) (expires : Moment) : Prop where
  allowed : ∀ d ∈ h.elements "cache-control", ¬Forbids d
  noShared : GivesNone "s-maxage" (h.elements "cache-control")
  noGeneral : GivesNone "max-age" (h.elements "cache-control")
  date : ∃ value, h.line? "expires" = some value ∧ readDate? value = some expires

/-! ## In numbers of a bounded width -/

/-- the moment that a draft describes, if all numbers on the way to it fit -/
def DateDraft.momentWithin? (d : DateDraft) : Option (Option Moment) :=
  let date : Date := ⟨d.year, d.month, d.day⟩
  if date.isValid ∧ weekdayOf date.dayNumber = d.weekday ∧ d.offset.natAbs < 86400 then do
    let midnight ← fit? (date.dayNumber * secondsPerDay)
    let clock ← fit? (3600 * d.hour + 60 * d.minute + (if d.second = 60 then 59 else d.second : Nat))
    let shown ← fit? (midnight + clock)
    let second ← fit? (shown - d.offset)
    let moment : Moment := ⟨second, if d.second = 60 then nanosPerSecond else 0⟩
    return if moment.InRange then some moment else none
  else some none

/-- what is left of a lifetime, if all numbers on the way to it fit -/
def ofExpiryWithin? (expires now : Moment) (age : Option Nat) : Option Decision := do
  let apart ← expires.since? now
  let seconds ← fit? (min (age.getD 0) ageLimit : Nat)
  let aged ← fitLength? (seconds * nanosPerSecond)
  let left ← fitLength? (apart - aged)
  return if 0 < left then .lifetime ⟨left.toNat⟩ else .forbidden

/-- decide at a moment, if all numbers on the way fit -/
def Decision.ofHeaderWithin? (h : Header) (now : Moment) : Option Decision :=
  match ofDirectives? (h.elements "cache-control") with
  | some d => some d
  | none =>
    match (h.line? "expires").bind readDate? with
    | some expires => ofExpiryWithin? expires now ((h.line? "age").bind fun v => seconds? v.toList)
    | none => some .unspecified

/-! ## At any two moments -/

/-- nanoseconds that are left until a date, less an age in seconds -/
def remaining (expires now : Moment) (age : Nat) : Int := expires.nanos - now.nanos - age * nanosPerSecond

/-- the header has one moment at which it goes stale, if a date decides it, and else the same is left at all moments. Leap
seconds are left out, since the count of seconds skips them. -/
structure GoesStaleOnce (h : Header) : Prop where
  /-- there is one age -/
  age : ∃ age, GivesAge h age ∧ ∀ other, GivesAge h other → other = age
  /-- what is left until the date, less the age, is the lifetime. If nothing is left, the response is not stored. -/
  left : ∀ {expires now : Moment} {age : Nat}, ExpiresAt h expires → expires.isLeap = false → now.isLeap = false →
    GivesAge h age →
      (0 < remaining expires now age → Decision.ofHeader h now = .lifetime ⟨(remaining expires now age).toNat⟩) ∧
      (remaining expires now age ≤ 0 → Decision.ofHeader h now = .forbidden)
  /-- all lifetimes end at one moment -/
  ends : ∀ {expires now later : Moment} {d e : Span}, ExpiresAt h expires → expires.isLeap = false →
    now.isLeap = false → later.isLeap = false → Decision.ofHeader h now = .lifetime d →
    Decision.ofHeader h later = .lifetime e → now.nanos + d.nanos = later.nanos + e.nanos
  /-- what is not to be stored is never to be stored later -/
  stays : ∀ {expires now later : Moment}, ExpiresAt h expires → expires.isLeap = false → now.isLeap = false →
    later.isLeap = false → now.nanos ≤ later.nanos → Decision.ofHeader h now = .forbidden →
    Decision.ofHeader h later = .forbidden
  /-- where no date decides, the moment does not count -/
  still : (∀ expires, ¬ExpiresAt h expires) → ∀ now later, Decision.ofHeader h now = .ofHeader h later
  /-- a lifetime is not empty -/
  positive : ∀ {now : Moment} {d : Span}, Decision.ofHeader h now = .lifetime d → 0 < d.nanos
  /-- all numbers on the way to a decision fit, and so do the seconds of a lifetime -/
  fits : ∀ {now : Moment}, now.InRange → Decision.ofHeaderWithin? h now = some (.ofHeader h now) ∧
    ∀ d, Decision.ofHeader h now = .lifetime d → d.seconds < 2 ^ 64
  /-- so do those on the way from what is read in a form of dates to the moment -/
  datesFit : ∀ {form : DateForm} {cs rest : List Char} {d : DateDraft}, readParts? form.parts default cs = some (d, rest) →
    d.momentWithin? = some d.moment?

end EdgeCache.Freshness
