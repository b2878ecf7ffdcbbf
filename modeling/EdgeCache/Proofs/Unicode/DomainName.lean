/-
What the ASCII form of a domain name can hold.

- `allowed_of_toAscii?`: nothing but ASCII, and no character that a URL reads as something else.
- `toAscii?_of_plain`: a plain name is its own ASCII form.
-/
import EdgeCache.Unicode.DomainName
import EdgeCache.Proofs.Text.Numerals

namespace EdgeCache.Unicode

open EdgeCache.Text

/-! ## Encoded labels -/

namespace Punycode

variable {P : Char → Prop}

theorem threshold_bounds (k bias : Nat) : 1 ≤ threshold k bias ∧ threshold k bias ≤ 26 :=
  ⟨Nat.le_max_left .., Nat.max_le.2 ⟨by decide, Nat.min_le_left ..⟩⟩

/-- a delta is written with digits -/
theorem deltaDigits_digit {q k bias : Nat} {c : Char} (h : c ∈ deltaDigits q k bias) : ∃ n < 36, c = digit n := by
  fun_induction deltaDigits q k bias with
  | case1 q k t hq =>
    have := (threshold_bounds k bias).2
    exact ⟨q, by omega, List.mem_singleton.1 h⟩
  | case2 q k t hq _ ih =>
    obtain ⟨hlow, hhigh⟩ := threshold_bounds k bias
    rcases List.mem_cons.1 h with rfl | hrest
    · have hmod : (q - t) % (36 - t) < 36 - t := Nat.mod_lt _ (by omega)
      exact ⟨t + (q - t) % (36 - t), by omega, rfl⟩
    · exact ih hrest

theorem pass_output (hdigit : ∀ n < 36, P (digit n)) (point c : Nat) {st : Writing} (h : ∀ x ∈ st.output, P x) :
    ∀ x ∈ (st.pass point c).output, P x := by
  unfold Writing.pass
  split_ifs
  · exact h
  · intro x hx
    rcases List.mem_append.1 hx with hx | hx
    · exact h x hx
    · obtain ⟨n, hn, rfl⟩ := deltaDigits_digit hx
      exact hdigit n hn
  · exact h

theorem insertions_output (hdigit : ∀ n < 36, P (digit n)) (text points : List Nat) (last : Nat) {st : Writing}
    (h : ∀ x ∈ st.output, P x) : ∀ x ∈ (insertions text last points st).output, P x := by
  induction points generalizing last st with
  | nil => exact h
  | cons point points ih =>
    rw [insertions]
    refine ih _ ?_
    -- the characters of the text are passed one after the other
    have hfold : ∀ (cs : List Nat) {st : Writing}, (∀ x ∈ st.output, P x) →
        ∀ x ∈ (cs.foldl (Writing.pass point) st).output, P x := by
      intro cs
      induction cs with
      | nil => exact fun h => h
      | cons c cs ihcs => exact fun h => ihcs (pass_output hdigit point c h)
    exact hfold text h

/-- an encoded label holds the basic characters of the label, a hyphen and digits -/
theorem encode_output {text : List Nat} (hdigit : ∀ n < 36, P (digit n)) (hhyphen : P '-')
    (hbasic : ∀ n ∈ text, n < 128 → P (Char.ofNat n)) : ∀ c ∈ encode text, P c := by
  have hfront : ∀ c ∈ (text.filter (· < 128)).map Char.ofNat, P c := by
    intro c hc
    obtain ⟨n, hn, rfl⟩ := List.mem_map.1 hc
    obtain ⟨hmem, hlt⟩ := List.mem_filter.1 hn
    exact hbasic n hmem (by simpa using hlt)
  unfold encode
  refine insertions_output hdigit _ _ _ ?_
  intro c hc
  simp only at hc
  split_ifs at hc
  · cases hc
  · rcases List.mem_append.1 hc with hc | hc
    · exact hfront c hc
    · obtain rfl := List.mem_singleton.1 hc
      exact hhyphen

end Punycode

namespace DomainName

/-- ASCII, and not read as anything else in a URL -/
def Allowed (n : Nat) : Prop := n < 128 ∧ isForbidden n = false

instance (n : Nat) : Decidable (Allowed n) := inferInstanceAs (Decidable (_ ∧ _))

theorem allowed_digit : ∀ n < 36, Allowed (Punycode.digit n).toNat := by decide

/-- the characters of the labels are those of the name -/
theorem mem_splitLabels {n : Nat} {label cs : List Nat} (hlabel : label ∈ splitLabels cs) (hn : n ∈ label) : n ∈ cs := by
  induction cs generalizing label with
  | nil =>
    obtain rfl := List.mem_singleton.1 hlabel
    cases hn
  | cons c cs ih =>
    rw [splitLabels] at hlabel
    split_ifs at hlabel
    · rcases List.mem_cons.1 hlabel with rfl | hlabel
      · cases hn
      · exact List.mem_cons_of_mem _ (ih hlabel hn)
    · split at hlabel
      · obtain rfl := List.mem_singleton.1 hlabel
        obtain rfl := List.mem_singleton.1 hn
        exact List.mem_cons_self
      · next l ls hsplit =>
        rw [hsplit] at ih
        rcases List.mem_cons.1 hlabel with rfl | hlabel
        · rcases List.mem_cons.1 hn with rfl | hn
          · exact List.mem_cons_self
          · exact List.mem_cons_of_mem _ (ih List.mem_cons_self hn)
        · exact List.mem_cons_of_mem _ (ih (List.mem_cons_of_mem _ hlabel) hn)

/-- the ASCII form of a label is allowed if the label holds nothing forbidden -/
theorem allowed_readLabel? {label : List Nat} {l : Label} (h : readLabel? label = some l)
    (hlabel : ∀ n ∈ label, isForbidden n = false) : ∀ n ∈ l.ascii, Allowed n := by
  unfold readLabel? at h
  split_ifs at h with hencoded hascii hunicode
  · -- an encoded label stays as it is
    obtain ⟨text, htext, h⟩ := Option.bind_eq_some_iff.1 h
    split_ifs at h
    cases h
    intro n hn
    refine ⟨?_, hlabel n hn⟩
    obtain ⟨digits, rfl⟩ := List.isPrefixOf_iff_prefix.1 hencoded
    rcases List.mem_append.1 hn with hmark | hdigit
    · exact (show ∀ n ∈ encodedMark, n < 128 by decide) n hmark
    · unfold decodedLabel? at htext
      split_ifs at htext with hbad
      refine Nat.lt_of_not_le fun hge => hbad (.inr (List.any_eq_true.2 ⟨n, ?_, decide_eq_true hge⟩))
      exact hdigit
  · cases h
    intro n hn
    exact ⟨by simpa using List.all_eq_true.1 hascii n hn, hlabel n hn⟩
  · cases h
    intro n hn
    rcases List.mem_append.1 hn with hmark | hn
    · exact (show ∀ n ∈ encodedMark, Allowed n by decide) n hmark
    · obtain ⟨c, hc, rfl⟩ := List.mem_map.1 hn
      refine Punycode.encode_output (P := fun c => Allowed c.toNat) allowed_digit (by decide) ?_ c hc
      intro n hn hlt
      rw [toNat_ofNat n hlt]
      exact ⟨hlt, hlabel n hn⟩

theorem allowed_mappedAscii? {cs ascii : List Nat} (h : mappedAscii? cs = some ascii) : ∀ n ∈ ascii, Allowed n := by
  unfold mappedAscii? at h
  obtain ⟨mapped, -, h⟩ := Option.bind_eq_some_iff.1 h
  split_ifs at h with hforbidden
  obtain ⟨labels, hlabels, h⟩ := Option.bind_eq_some_iff.1 h
  split_ifs at h
  cases h
  intro n hn
  rcases mem_intercalate hn with rfl | ⟨p, hp, hn⟩
  · decide
  · obtain ⟨l, hl, rfl⟩ := List.mem_map.1 hp
    obtain ⟨label, hlabel, hread⟩ := exists_of_mem_mapM hlabels hl
    refine allowed_readLabel? hread (fun m hm => ?_) n hn
    exact Bool.eq_false_iff.2 fun hbad => hforbidden (List.any_eq_true.2 ⟨m, mem_splitLabels hlabel hm, hbad⟩)

/-- **The ASCII form of a name holds nothing that a URL reads as something else.** -/
theorem allowed_of_toAscii? {s ascii : String} (h : toAscii? s = some ascii) : ∀ c ∈ ascii.toList, Allowed c.toNat := by
  unfold toAscii? at h
  simp only at h
  split_ifs at h with hascii hforbidden
  · cases h
    intro c hc
    rw [String.toList_ofList] at hc
    refine ⟨?_, Bool.eq_false_iff.2 fun hbad => hforbidden (List.any_eq_true.2 ⟨c, hc, hbad⟩)⟩
    obtain ⟨d, hd, rfl⟩ := List.mem_map.1 hc
    have hlt : d.toNat < 128 := by simpa using List.all_eq_true.1 hascii.1 d hd
    exact forall_ascii (P := fun d => d.toLower.toNat < 128) (by decide) hlt
  · obtain ⟨l, hl, rfl⟩ := Option.map_eq_some_iff.1 h
    intro c hc
    rw [String.toList_ofList] at hc
    obtain ⟨n, hn, rfl⟩ := List.mem_map.1 hc
    have hallowed := allowed_mappedAscii? hl n hn
    rw [toNat_ofNat n hallowed.1]
    exact hallowed

/-- a name that needs no tables: ASCII without capitals and without encoded labels -/
def isPlain (s : String) : Bool :=
  s.toList.all (fun c => c.toNat < 128 && c.toLower = c) &&
    !(splitOn '.' s.toList).any fun l => "xn--".toList.isPrefixOf l

/-- **A plain name is its own ASCII form.** -/
theorem toAscii?_of_plain {s : String} (hplain : isPlain s = true) (hallowed : ∀ c ∈ s.toList, isForbidden c.toNat = false) :
    toAscii? s = some s := by
  obtain ⟨hchars, hlabels⟩ := Bool.and_eq_true_iff.1 hplain
  have hascii : s.toList.all (·.toNat < 128) = true :=
    List.all_eq_true.2 fun c hc => (Bool.and_eq_true_iff.1 (List.all_eq_true.1 hchars c hc)).1
  have hsmall : s.toList.map Char.toLower = s.toList := by
    have hsame : s.toList.map Char.toLower = s.toList.map id := by
      refine List.map_congr_left fun c hc => ?_
      simpa using (Bool.and_eq_true_iff.1 (List.all_eq_true.1 hchars c hc)).2
    rw [hsame, List.map_id]
  have hgood : ¬s.toList.any (isForbidden ·.toNat) = true := by
    intro hbad
    obtain ⟨c, hc, hforbidden⟩ := List.any_eq_true.1 hbad
    rw [hallowed c hc] at hforbidden
    cases hforbidden
  unfold toAscii?
  simp only
  rw [hsmall, if_pos ⟨hascii, hlabels⟩, if_neg hgood, String.ofList_toList]

end DomainName

end EdgeCache.Unicode
