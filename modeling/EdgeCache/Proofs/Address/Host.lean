/-
Hosts come back from their texts.

- `read_text`: a host that was read is read from its text again.
- `mem_text`: the text holds nothing that ends the authority of a URL.
- `splitHost_text`: in front of a port, the host is as long as its text; the colons of an IPv6 address are in brackets.
-/
import EdgeCache.Address.Url
import EdgeCache.Proofs.Address.Ipv4
import EdgeCache.Proofs.Address.Ipv6
import EdgeCache.Proofs.Unicode.DomainName

namespace EdgeCache.Address

open EdgeCache.Text EdgeCache.Unicode EdgeCache.Unicode.DomainName

namespace Host

/-- what can have been read -/
inductive Readable : Host → Prop where
  | name {s ascii : String} (form : toAscii? s = some ascii) (some : ascii ≠ "")
      (nameOnly : Ipv4.isNumeric ascii.toList = false) : Readable (.name ascii)
  | ipv4 (a : Ipv4) : Readable (.ipv4 a)
  | ipv6 {a : Ipv6} (wellFormed : a.WellFormed) : Readable (.ipv6 a)

theorem readable_of_read {cs : List Char} {h : Host} (hread : read cs = .ok h) : Readable h := by
  unfold read at hread
  split_ifs at hread with hbracket
  · unfold bracketed? at hread
    split at hread
    · split at hread
      · next a ha =>
        cases hread
        exact .ipv6 (Ipv6.wellFormed_of_read? ha)
      · cases hread
    · cases hread
  · split at hread
    · cases hread
    · next ascii hascii =>
      obtain ⟨s, -, hform⟩ := Option.bind_eq_some_iff.1 hascii
      split_ifs at hread with hempty hnumeric
      · split at hread
        · cases hread
          exact .ipv4 _
        · cases hread
      · cases hread
        exact .name hform hempty (Bool.eq_false_iff.2 hnumeric)

theorem Readable.text_ne {h : Host} (hreadable : Readable h) : h.text ≠ "" := by
  cases hreadable with
  | name _ hne _ => exact hne
  | ipv4 a => exact a.text_ne
  | ipv6 _ => simp [text]

/-- a name that holds nothing forbidden and is its own ASCII form is read as it is -/
theorem read_of_allowed {s : String} (hallowed : ∀ c ∈ s.toList, Allowed c.toNat) (hform : toAscii? s = some s)
    (hne : s ≠ "") :
    read s.toList =
      if Ipv4.isNumeric s.toList then
        match Ipv4.read? s.toList with
        | some a => .ok (.ipv4 a)
        | none => .error .ipv4
      else .ok (.name s) := by
  have hbracket : ¬s.toList.head? = some '[' := by
    intro hhead
    exact absurd (hallowed '[' (List.mem_of_head? hhead)).2 (by decide)
  have hpercent : '%' ∉ s.toList := fun hmem => absurd (hallowed '%' hmem).2 (by decide)
  have hunescaped : unescaped? s.toList = some s := by
    unfold unescaped?
    rw [if_neg hpercent, String.ofList_toList]
  unfold read
  rw [if_neg hbracket, hunescaped, Option.bind_some, hform]
  exact if_neg hne

theorem allowed_ipv4 {a : Ipv4} {c : Char} (hc : c ∈ a.text.toList) : Allowed c.toNat := by
  rcases Ipv4.mem_text hc with hdigit | rfl
  · exact forall_digit (P := fun c => Allowed c.toNat) (by decide) hdigit
  · decide

theorem isPlain_ipv4 (a : Ipv4) : isPlain a.text = true := by
  refine Bool.and_eq_true_iff.2 ⟨List.all_eq_true.2 fun c hc => ?_, ?_⟩
  · rcases Ipv4.mem_text hc with hdigit | rfl
    · exact forall_digit (P := fun c => (c.toNat < 128 && c.toLower = c) = true) (by decide) hdigit
    · decide
  · -- no number begins with the letter of an encoded label
    rw [Ipv4.splitOn_text, Bool.not_eq_true', List.any_eq_false]
    intro p hp hencoded
    obtain ⟨n, -, rfl⟩ := List.mem_map.1 hp
    have hx : 'x' ∈ Nat.toDigits 10 n := (List.isPrefixOf_iff_prefix.1 hencoded).subset List.mem_cons_self
    exact absurd (Nat.isDigit_of_mem_toDigits (by decide) (by decide) hx) (by decide)

theorem toList_ipv6 (a : Ipv6) : (Host.text (.ipv6 a)).toList = '[' :: (a.text.toList ++ [']']) := by
  show ("[" ++ a.text ++ "]").toList = _
  rw [String.toList_append, String.toList_append]
  rfl

/-- **A host comes back from its text.** Of a name with encoded labels this has to be known. -/
theorem read_text {h : Host} (hreadable : Readable h)
    (hname : isPlain h.text = false → toAscii? h.text = some h.text) : read h.text.toList = .ok h := by
  cases hreadable with
  | @name s ascii form some nameOnly =>
    have hallowed := allowed_of_toAscii? form
    have hform : toAscii? ascii = .some ascii := by
      cases hplain : isPlain ascii with
      | false => exact hname hplain
      | true => exact toAscii?_of_plain hplain fun c hc => (hallowed c hc).2
    show read ascii.toList = _
    rw [read_of_allowed hallowed hform some, if_neg (by rw [nameOnly]; decide)]
  | ipv4 a =>
    have hform : toAscii? a.text = some a.text := toAscii?_of_plain (isPlain_ipv4 a) fun c hc => (allowed_ipv4 hc).2
    show read a.text.toList = _
    rw [read_of_allowed (fun c hc => allowed_ipv4 hc) hform (Ipv4.text_ne a), if_pos (Ipv4.isNumeric_text a),
      Ipv4.read?_text]
  | @ipv6 a wellFormed =>
    have hlast : ('[' :: (a.text.toList ++ [']'])).getLast? = some ']' :=
      List.getLast?_concat (l := '[' :: a.text.toList)
    have hinner : (('[' :: (a.text.toList ++ [']'])).drop 1).dropLast = a.text.toList := by simp
    unfold read bracketed?
    rw [toList_ipv6, if_pos (List.head?_cons ..), hlast]
    simp only
    rw [hinner, Ipv6.read?_text wellFormed]

/-! ## In a URL -/

/-- a visible character without a meaning of its own in an authority -/
def Neutral (c : Char) : Prop :=
  Url.endsHost true false c = false ∧ c ≠ '@' ∧ c ≠ '[' ∧ c ≠ ']' ∧ 0x20 < c.toNat

instance (c : Char) : Decidable (Neutral c) := inferInstanceAs (Decidable (_ ∧ _))

theorem neutral_of_allowed {c : Char} (h : Allowed c.toNat) : Neutral c :=
  forall_ascii (P := fun c => Allowed c.toNat → Neutral c) (by decide) h.1 h

theorem neutral_digitChar : ∀ d < 16, Neutral d.digitChar := by decide

/-- the characters of a host that is written without brackets -/
theorem Readable.cases {h : Host} (hreadable : Readable h) :
    (∀ c ∈ h.text.toList, Allowed c.toNat) ∨ ∃ a : Ipv6, h = .ipv6 a := by
  cases hreadable with
  | name form _ _ => exact .inl (allowed_of_toAscii? form)
  | ipv4 a => exact .inl fun c hc => allowed_ipv4 hc
  | @ipv6 a _ => exact .inr ⟨a, rfl⟩

theorem endsAuthority_of_endsHost {inside : Bool} {c : Char} (h : Url.endsHost true inside c = false) :
    Url.endsAuthority true c = false := (Bool.or_eq_false_iff.1 h).1

/-- **The text of a host holds nothing that ends an authority**, and nothing that ends user information. -/
theorem mem_text {h : Host} (hreadable : Readable h) {c : Char} (hc : c ∈ h.text.toList) :
    Url.endsAuthority true c = false ∧ c ≠ '@' ∧ 0x20 < c.toNat := by
  rcases hreadable.cases with hallowed | ⟨a, rfl⟩
  · obtain ⟨hends, hat, -, -, hvisible⟩ := neutral_of_allowed (hallowed c hc)
    exact ⟨endsAuthority_of_endsHost hends, hat, hvisible⟩
  · rw [toList_ipv6, List.mem_cons, List.mem_append, List.mem_singleton] at hc
    rcases hc with rfl | hc | rfl
    · decide
    · rcases Ipv6.mem_text hc with rfl | ⟨d, hd, rfl⟩
      · decide
      · obtain ⟨hends, hat, -, -, hvisible⟩ := neutral_digitChar d hd
        exact ⟨endsAuthority_of_endsHost hends, hat, hvisible⟩
    · decide

/-- what neither ends a host nor opens or closes a bracket belongs to the host -/
theorem splitHost_append {inside : Bool} {front : List Char}
    (hfront : ∀ c ∈ front, Url.endsHost true inside c = false ∧ c ≠ '[' ∧ c ≠ ']') (rest : List Char) :
    Url.splitHost true inside (front ++ rest) =
      (front ++ (Url.splitHost true inside rest).1, (Url.splitHost true inside rest).2) := by
  induction front with
  | nil => rfl
  | cons c front ih =>
    obtain ⟨hends, hopen, hclose⟩ := hfront c List.mem_cons_self
    rw [List.cons_append, Url.splitHost, if_neg (by rw [hends]; decide), if_neg hopen, if_neg hclose]
    simp only
    rw [ih fun c' hc' => hfront c' (List.mem_cons_of_mem c hc')]
    rfl

/-- **In front of a port a host is as long as its text.** -/
theorem splitHost_text {h : Host} (hreadable : Readable h) (rest : List Char) :
    Url.splitHost true false (h.text.toList ++ ':' :: rest) = (h.text.toList, ':' :: rest) := by
  have hcolon : Url.splitHost true false (':' :: rest) = ([], ':' :: rest) := by
    rw [Url.splitHost, if_pos (by decide)]
  rcases hreadable.cases with hallowed | ⟨a, rfl⟩
  · have hfront : ∀ c ∈ h.text.toList, Url.endsHost true false c = false ∧ c ≠ '[' ∧ c ≠ ']' := fun c hc =>
      have hneutral := neutral_of_allowed (hallowed c hc)
      ⟨hneutral.1, hneutral.2.2.1, hneutral.2.2.2.1⟩
    rw [splitHost_append hfront, hcolon, List.append_nil]
  · -- between the brackets a colon does not end the host
    have hinner : ∀ c ∈ a.text.toList, Url.endsHost true true c = false ∧ c ≠ '[' ∧ c ≠ ']' := by
      intro c hc
      rcases Ipv6.mem_text hc with rfl | ⟨d, hd, rfl⟩
      · decide
      · obtain ⟨hends, -, hopen, hclose, -⟩ := neutral_digitChar d hd
        refine ⟨?_, hopen, hclose⟩
        unfold Url.endsHost
        rw [endsAuthority_of_endsHost hends]
        simp
    have hclosed : Url.splitHost true true (']' :: ':' :: rest) = ([']'], ':' :: rest) := by
      rw [Url.splitHost, if_neg (by decide), if_neg (by decide), if_pos rfl]
      simp only
      rw [hcolon]
    rw [toList_ipv6, List.cons_append, List.append_assoc]
    rw [Url.splitHost, if_neg (by decide), if_pos rfl]
    simp only
    rw [splitHost_append hinner]
    show ('[' :: (a.text.toList ++ (Url.splitHost true true (']' :: ':' :: rest)).1), _) = _
    rw [show [']'] ++ ':' :: rest = ']' :: ':' :: rest from rfl, hclosed]

end Host

end EdgeCache.Address
