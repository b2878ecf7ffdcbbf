/-
IPv6 addresses come back from their texts.

- `WellFormed`: eight groups of sixteen bits. `wellFormed_of_read?`: whatever is read is well formed.
- `readGroups_join`: groups come back from their digits, with what follows them.
- `longestGap_eq`: the run that the text leaves out holds nothing but zeros.
- `read?_text`: a well-formed address is read from its text.
-/
import Mathlib.Algebra.Ring.Nat
import Mathlib.Data.List.TakeWhile
import EdgeCache.Address.Ipv6
import EdgeCache.Proofs.Text.Numerals

namespace EdgeCache.Address.Ipv6

open EdgeCache.Text

/-! ## Groups -/

def digits (g : Nat) : List Char := Nat.toDigits 16 g

theorem digits_ne_nil (g : Nat) : digits g ≠ [] := Nat.toDigits_ne_nil

theorem length_digits {g : Nat} (h : g < 0x10000) : (digits g).length ≤ 4 :=
  (Nat.length_toDigits_le_iff (by decide) (by decide)).2 h

theorem hexValue?_digits {g : Nat} {c : Char} (h : c ∈ digits g) : ∃ d, hexValue? c = some d := by
  obtain ⟨d, hd, rfl⟩ := eq_digitChar_of_mem (by decide) h
  exact ⟨d, hexValue?_digitChar d hd⟩

/-- digits are taken as far as they go -/
theorem hexRun_append {value count limit : Nat} {front : List Char} (hfront : ∀ c ∈ front, ∃ d, hexValue? c = some d)
    (hlimit : front.length ≤ limit) {rest : List Char} (hrest : ∀ c ∈ rest.head?, hexValue? c = none) :
    hexRun value count limit (front ++ rest) =
      (front.foldl (fun n c => 16 * n + (hexValue? c).getD 0) value, count + front.length, rest) := by
  induction front generalizing value count limit with
  | nil =>
    cases limit with
    | zero => rw [List.nil_append, hexRun]; rfl
    | succ limit =>
      cases rest with
      | nil => rfl
      | cons c rest =>
        rw [List.nil_append, hexRun, hrest c rfl]
        rfl
  | cons c front ih =>
    obtain ⟨d, hd⟩ := hfront c List.mem_cons_self
    cases limit with
    | zero => exact absurd hlimit (by simp)
    | succ limit =>
      rw [List.cons_append, hexRun, hd]
      simp only
      rw [ih (fun c' hc' => hfront c' (List.mem_cons_of_mem c hc')) (Nat.le_of_succ_le_succ hlimit), List.foldl_cons, hd,
        List.length_cons, Nat.add_right_comm, Nat.add_assoc]
      rfl

theorem foldl_digits (g : Nat) : (digits g).foldl (fun n c => 16 * n + (hexValue? c).getD 0) 0 = g := by
  induction g using Nat.strongRecOn with
  | _ g ih =>
    unfold digits at ih ⊢
    by_cases hg : g < 16
    · rw [Nat.toDigits_of_lt_base hg, List.foldl_cons, hexValue?_digitChar g hg]
      simp
    · have hmod : g % 16 < 16 := Nat.mod_lt _ (by decide)
      rw [Nat.toDigits_of_base_le (by decide) (Nat.le_of_not_lt hg), List.foldl_append,
        ih _ (Nat.div_lt_self (by omega) (by decide)), List.foldl_cons, hexValue?_digitChar _ hmod]
      show 16 * (g / 16) + g % 16 = g
      omega

theorem hexRun_digits {g : Nat} (hg : g < 0x10000) (rest : List Char) (hrest : ∀ c ∈ rest.head?, hexValue? c = none) :
    hexRun 0 0 4 (digits g ++ rest) = (g, (digits g).length, rest) := by
  rw [hexRun_append (fun c hc => hexValue?_digits hc) (length_digits hg) hrest, foldl_digits, Nat.zero_add]

theorem digits_eq_cons (g : Nat) : ∃ c cs, digits g = c :: cs ∧ c ≠ ':' := by
  obtain ⟨c, cs, hcs⟩ := List.exists_cons_of_ne_nil (digits_ne_nil g)
  refine ⟨c, cs, hcs, ?_⟩
  rintro rfl
  obtain ⟨d, hd⟩ := hexValue?_digits (g := g) (c := ':') (hcs ▸ List.mem_cons_self)
  cases hd

/-- one group is read, and what is behind its colon is next -/
theorem readGroups_digits {st : Reading} (hlength : st.groups.length < 8) {g : Nat} (hg : g < 0x10000)
    {rest : List Char} (hrest : rest ≠ []) :
    readGroups st (digits g ++ ':' :: rest) = readGroups { st with groups := st.groups ++ [g] } rest := by
  obtain ⟨d, rest, rfl⟩ := List.exists_cons_of_ne_nil hrest
  have hrun := hexRun_digits hg (':' :: d :: rest) (by simp; decide)
  obtain ⟨c, cs, hcs, hc⟩ := digits_eq_cons g
  rw [hcs] at hrun ⊢
  rw [List.cons_append] at hrun ⊢
  rw [readGroups.eq_3 _ _ _ hc, if_neg (Nat.ne_of_lt hlength)]
  split
  · next heq => rw [hrun] at heq; cases heq
  · next heq => rw [hrun] at heq; cases heq; rfl
  · next heq => rw [hrun] at heq; cases heq
  · next hno _ => exact (hno _ _ _ _ hrun).elim

theorem readGroups_last {st : Reading} (hlength : st.groups.length < 8) {g : Nat} (hg : g < 0x10000) :
    readGroups st (digits g) = some { st with groups := st.groups ++ [g] } := by
  have hrun := hexRun_digits hg [] (by simp)
  obtain ⟨c, cs, hcs, hc⟩ := digits_eq_cons g
  rw [List.append_nil, hcs] at hrun
  rw [hcs, readGroups.eq_3 _ _ _ hc, if_neg (Nat.ne_of_lt hlength)]
  split
  · next heq => rw [hrun] at heq; cases heq; rfl
  · next heq => rw [hrun] at heq; cases heq
  · next heq => rw [hrun] at heq; cases heq
  · next hno _ _ => exact (hno _ _ hrun).elim

/-- the digits of groups with colons between them -/
def groupDigits (gs : List Nat) : List Char := join ':' (gs.map digits)

theorem toList_groupText (gs : List Nat) : (groupText gs).toList = groupDigits gs := by
  unfold groupText groupDigits
  rw [String.toList_intercalate, List.map_map]
  have hmap : gs.map (String.toList ∘ hex) = gs.map digits :=
    List.map_congr_left fun g _ => String.toList_ofList
  rw [hmap]
  exact intercalate_eq_join ':' _

theorem groupDigits_cons (g : Nat) {gs : List Nat} (hne : gs ≠ []) :
    groupDigits (g :: gs) = digits g ++ ':' :: groupDigits gs := by
  obtain ⟨g', gs, rfl⟩ := List.exists_cons_of_ne_nil hne
  rfl

theorem groupDigits_eq_cons {gs : List Nat} (hne : gs ≠ []) : ∃ c cs, groupDigits gs = c :: cs ∧ c ≠ ':' := by
  obtain ⟨g, gs, rfl⟩ := List.exists_cons_of_ne_nil hne
  obtain ⟨c, cs, hcs, hc⟩ := digits_eq_cons g
  by_cases hgs : gs = []
  · subst hgs
    exact ⟨c, cs, hcs, hc⟩
  · rw [groupDigits_cons g hgs, hcs]
    exact ⟨c, _, List.cons_append, hc⟩

/-- groups are read, and what is behind the colon after the last one is next -/
theorem readGroups_front {gs : List Nat} (hne : gs ≠ []) (st : Reading) (hlength : st.groups.length + gs.length ≤ 8)
    (hgs : ∀ g ∈ gs, g < 0x10000) {rest : List Char} (hrest : rest ≠ []) :
    readGroups st (groupDigits gs ++ ':' :: rest) = readGroups { st with groups := st.groups ++ gs } rest := by
  induction gs generalizing st with
  | nil => exact absurd rfl hne
  | cons g gs ih =>
    have hg : g < 0x10000 := hgs g List.mem_cons_self
    rw [List.length_cons] at hlength
    by_cases hlast : gs = []
    · subst hlast
      exact readGroups_digits (by omega) hg hrest
    · rw [groupDigits_cons g hlast, List.append_assoc, List.cons_append, readGroups_digits (by omega) hg (by simp),
        ih hlast _ (by simp; omega) fun g' hg' => hgs g' (List.mem_cons_of_mem g hg')]
      simp

theorem readGroups_groups {gs : List Nat} (hne : gs ≠ []) (st : Reading) (hlength : st.groups.length + gs.length ≤ 8)
    (hgs : ∀ g ∈ gs, g < 0x10000) :
    readGroups st (groupDigits gs) = some { st with groups := st.groups ++ gs } := by
  induction gs generalizing st with
  | nil => exact absurd rfl hne
  | cons g gs ih =>
    have hg : g < 0x10000 := hgs g List.mem_cons_self
    rw [List.length_cons] at hlength
    by_cases hlast : gs = []
    · subst hlast
      exact readGroups_last (by omega) hg
    · obtain ⟨c, cs, hcs, -⟩ := groupDigits_eq_cons hlast
      rw [groupDigits_cons g hlast, readGroups_digits (by omega) hg (by rw [hcs]; exact List.cons_ne_nil c cs),
        ih hlast _ (by simp; omega) fun g' hg' => hgs g' (List.mem_cons_of_mem g hg')]
      simp

/-! ## The gap -/

/-- the run that is left out holds zeros only -/
theorem longestGap_eq (start : Nat) (gs : List Nat) :
    ∃ k, (longestGap start gs).1 = start + k ∧
      gs = gs.take k ++ List.replicate (longestGap start gs).2 0 ++ gs.drop (k + (longestGap start gs).2) := by
  induction gs generalizing start with
  | nil => exact ⟨0, rfl, rfl⟩
  | cons g gs ih =>
    unfold longestGap
    simp only
    split
    · refine ⟨0, rfl, ?_⟩
      have hzeros : (g :: gs).takeWhile (· = 0) = List.replicate (zeros (g :: gs)) 0 := by
        refine List.eq_replicate_iff.2 ⟨rfl, fun x hx => ?_⟩
        simpa using List.mem_takeWhile_imp hx
      have hsplit := List.prefix_iff_eq_append.1 (List.takeWhile_prefix (fun x => decide (x = 0)) (l := g :: gs))
      rw [hzeros, List.length_replicate] at hsplit
      rw [List.take_zero, List.nil_append, Nat.zero_add]
      exact hsplit.symm
    · obtain ⟨k, hk, hgs⟩ := ih (start + 1)
      refine ⟨k + 1, by omega, ?_⟩
      rw [Nat.add_right_comm k 1, List.take_succ_cons, List.drop_succ_cons, List.cons_append, List.cons_append, ← hgs]

/-- a gap is read as one group of zeros -/
theorem readGroups_gap (before : List Nat) (hlength : before.length < 8) (rest : List Char) :
    readGroups ⟨before, none⟩ (':' :: rest) = readGroups ⟨before ++ [0], some (before.length + 1)⟩ rest := by
  have hfree : ¬(before.length = 8 ∨ (none : Option Nat).isSome = true) := by
    rintro (h | h)
    · omega
    · cases h
  rw [readGroups.eq_2, if_neg hfree]

theorem readGroups_behind (before after : List Nat) (hlength : before.length + 1 + after.length ≤ 8)
    (hafter : ∀ g ∈ after, g < 0x10000) :
    readGroups ⟨before ++ [0], some (before.length + 1)⟩ (groupDigits after) =
      some ⟨before ++ [0] ++ after, some (before.length + 1)⟩ := by
  by_cases hne : after = []
  · subst hne
    rw [List.append_nil]
    exact readGroups.eq_1 _
  · exact readGroups_groups hne _ (by simpa using hlength) hafter

/-- the gap grows to the run that was left out -/
theorem finish?_gap {before after : List Nat} {len : Nat} (hlength : before.length + (len + 1) + after.length = 8) :
    Reading.finish? ⟨before ++ [0] ++ after, some (before.length + 1)⟩ =
      some ⟨before ++ List.replicate (len + 1) 0 ++ after⟩ := by
  have hfront : before.length + 1 = (before ++ [0]).length := by simp
  have hrest : 8 - (before ++ [0] ++ after).length = len := by simp; omega
  unfold Reading.finish?
  simp only
  rw [hrest, hfront, List.take_left, List.drop_left, List.replicate_succ]
  simp

/-! ## Texts -/

/-- eight groups of sixteen bits -/
structure WellFormed (a : Ipv6) : Prop where
  length : a.groups.length = 8
  bounded : ∀ g ∈ a.groups, g < 0x10000

/-- a text that does not begin with a colon is read from its first group on -/
theorem read?_of_group {c d : Char} (hc : c ≠ ':') (cs : List Char) :
    read? (c :: d :: cs) = (readGroups ⟨[], none⟩ (c :: d :: cs)).bind Reading.finish? := by
  unfold read?
  split
  · next heq => cases heq; exact absurd rfl hc
  · next heq => cases heq; exact absurd rfl hc
  · next heq => cases heq
  · next heq => cases heq
  · rfl

/-- an address that is written with all its groups -/
theorem read?_groupDigits {gs : List Nat} (hlength : gs.length = 8) (hgs : ∀ g ∈ gs, g < 0x10000) :
    read? (groupDigits gs) = some ⟨gs⟩ := by
  have hne : gs ≠ [] := by rintro rfl; cases hlength
  have hread := readGroups_groups hne ⟨[], none⟩ (by simp [hlength]) hgs
  -- the text is longer than one character, as there is a second group
  obtain ⟨c, d, cs, hcs, hc⟩ : ∃ c d cs, groupDigits gs = c :: d :: cs ∧ c ≠ ':' := by
    obtain ⟨g, gs, rfl⟩ := List.exists_cons_of_ne_nil hne
    have hmore : gs ≠ [] := by rintro rfl; cases hlength
    obtain ⟨c, cs, hcs, hc⟩ := digits_eq_cons g
    rw [groupDigits_cons g hmore, hcs]
    cases cs with
    | nil => exact ⟨c, _, _, rfl, hc⟩
    | cons d cs => exact ⟨c, d, _, rfl, hc⟩
  rw [hcs] at hread ⊢
  rw [read?_of_group hc, hread]
  show Reading.finish? ⟨gs, none⟩ = some ⟨gs⟩
  unfold Reading.finish?
  exact if_pos hlength

/-- an address that is written with a run of zeros left out -/
theorem read?_gapped {before after : List Nat} {len : Nat} (hlength : before.length + (len + 1) + after.length = 8)
    (hlen : 0 < len) (hbefore : ∀ g ∈ before, g < 0x10000) (hafter : ∀ g ∈ after, g < 0x10000) :
    read? (groupDigits before ++ ':' :: ':' :: groupDigits after) =
      some ⟨before ++ List.replicate (len + 1) 0 ++ after⟩ := by
  have hbehind := readGroups_behind before after (by omega) hafter
  by_cases hne : before = []
  · subst hne
    show (readGroups ⟨[0], some 1⟩ (groupDigits after)).bind Reading.finish? = _
    rw [show readGroups ⟨[0], some 1⟩ (groupDigits after) = _ from hbehind]
    exact finish?_gap hlength
  · have hfront := readGroups_front hne ⟨[], none⟩ (by simp; omega) hbefore
      (List.cons_ne_nil ':' (groupDigits after))
    have hgap := readGroups_gap before (by omega) (groupDigits after)
    obtain ⟨c, cs, hcs, hc⟩ := groupDigits_eq_cons hne
    obtain ⟨d, ds, hds⟩ := List.exists_cons_of_ne_nil (l := cs ++ ':' :: ':' :: groupDigits after) (by simp)
    rw [hcs, List.cons_append, hds] at hfront ⊢
    rw [read?_of_group hc, hfront]
    show (readGroups ⟨before, none⟩ (':' :: groupDigits after)).bind Reading.finish? = _
    rw [hgap, hbehind]
    exact finish?_gap hlength

theorem text_cases (a : Ipv6) :
    a.text.toList = groupDigits a.groups ∨
    ∃ before after len, a.groups = before ++ List.replicate (len + 1) 0 ++ after ∧ 0 < len ∧
      a.text.toList = groupDigits before ++ ':' :: ':' :: groupDigits after := by
  obtain ⟨k, hstart, hgroups⟩ := longestGap_eq 0 a.groups
  rw [Nat.zero_add] at hstart
  unfold text
  simp only
  by_cases hlen : (longestGap 0 a.groups).2 < 2
  · rw [if_pos hlen]
    exact .inl (toList_groupText _)
  · rw [if_neg hlen, hstart]
    refine .inr ⟨a.groups.take k, a.groups.drop (k + (longestGap 0 a.groups).2), (longestGap 0 a.groups).2 - 1, ?_, ?_, ?_⟩
    · rw [Nat.sub_add_cancel (by omega)]
      exact hgroups
    · omega
    · rw [String.toList_append, String.toList_append, toList_groupText, toList_groupText, List.append_assoc]
      rfl

/-- **An IPv6 address comes back from its text.** -/
theorem read?_text {a : Ipv6} (h : a.WellFormed) : read? a.text.toList = some a := by
  rcases text_cases a with hwhole | ⟨before, after, len, hgroups, hlen, hgapped⟩
  · rw [hwhole]
    exact read?_groupDigits h.length h.bounded
  · have hlength := h.length
    have hbounded := h.bounded
    rw [hgroups] at hlength hbounded
    rw [List.length_append, List.length_append, List.length_replicate] at hlength
    rw [hgapped, read?_gapped hlength hlen
      (fun g hg => hbounded g (List.mem_append_left _ (List.mem_append_left _ hg)))
      (fun g hg => hbounded g (List.mem_append_right _ hg)), ← hgroups]

theorem mem_text {a : Ipv6} {c : Char} (hc : c ∈ a.text.toList) :
    c = ':' ∨ ∃ d < 16, c = d.digitChar := by
  have hgroups : ∀ {gs : List Nat}, c ∈ groupDigits gs → c = ':' ∨ ∃ d < 16, c = d.digitChar := by
    intro gs hc
    refine (mem_join hc).imp_right ?_
    rintro ⟨p, hp, hcp⟩
    obtain ⟨g, -, rfl⟩ := List.mem_map.1 hp
    exact eq_digitChar_of_mem (by decide) hcp
  rcases text_cases a with hwhole | ⟨before, after, len, -, -, hgapped⟩
  · rw [hwhole] at hc
    exact hgroups hc
  · rw [hgapped, List.mem_append, List.mem_cons, List.mem_cons] at hc
    rcases hc with hc | rfl | rfl | hc
    · exact hgroups hc
    · exact .inl rfl
    · exact .inl rfl
    · exact hgroups hc

/-! ## What is read -/

/-- at most eight groups of sixteen bits so far -/
structure Reading.Bounded (st : Reading) : Prop where
  length : st.groups.length ≤ 8
  bounded : ∀ g ∈ st.groups, g < 0x10000

theorem hexRun_lt (value count limit : Nat) (cs : List Char) :
    (hexRun value count limit cs).1 < (value + 1) * 16 ^ limit := by
  induction cs generalizing value count limit with
  | nil =>
    have hpow : 0 < 16 ^ limit := Nat.pow_pos (by decide)
    cases limit <;> exact Nat.lt_of_lt_of_le (Nat.lt_succ_self value) (Nat.le_mul_of_pos_right _ hpow)
  | cons c cs ih =>
    have hpow : 0 < 16 ^ limit := Nat.pow_pos (by decide)
    have hvalue : value < (value + 1) * 16 ^ limit :=
      Nat.lt_of_lt_of_le (Nat.lt_succ_self value) (Nat.le_mul_of_pos_right _ hpow)
    cases limit with
    | zero => exact hvalue
    | succ limit =>
      rw [hexRun]
      split
      · next d hd =>
        have hlt := hexValue?_lt hd
        calc (hexRun (16 * value + d) (count + 1) limit cs).1
          _ < (16 * value + d + 1) * 16 ^ limit := ih ..
          _ ≤ (16 * (value + 1)) * 16 ^ limit := Nat.mul_le_mul_right _ (by omega)
          _ = (value + 1) * 16 ^ (limit + 1) := by rw [Nat.pow_succ, Nat.mul_comm 16, Nat.mul_assoc, Nat.mul_comm 16]
      · exact hvalue

theorem octet?_le {cs rest : List Char} {n : Nat} (h : octet? cs = some (n, rest)) : n ≤ 255 := by
  cases cs with
  | nil => cases h
  | cons c cs =>
    simp only [octet?, Option.ite_none_left_eq_some, Option.some.injEq, Prod.mk.injEq] at h
    obtain ⟨hgood, rfl, -⟩ := h
    exact Nat.le_of_not_lt fun hn => hgood (.inr (.inr hn))

theorem octets?_bounded {cs : List Char} {gs : List Nat} (h : octets? cs = some gs) :
    gs.length = 2 ∧ ∀ g ∈ gs, g < 0x10000 := by
  unfold octets? at h
  simp only [Option.bind_eq_bind, Option.bind_eq_some_iff] at h
  obtain ⟨⟨a, r⟩, ha, ⟨b, r₁⟩, hb, ⟨c, r₂⟩, hc, ⟨d, r₃⟩, hd, h⟩ := h
  -- a dot stands in front of each octet but the first
  split at hb
  case h_2 => cases hb
  split at hc
  case h_2 => cases hc
  split at hd
  case h_2 => cases hd
  have := octet?_le ha
  have := octet?_le hb
  have := octet?_le hc
  have := octet?_le hd
  simp only [Option.ite_none_right_eq_some, Option.some.injEq] at h
  obtain ⟨-, rfl⟩ := h
  refine ⟨rfl, fun g hg => ?_⟩
  simp only [List.mem_cons, List.not_mem_nil, or_false] at hg
  omega

/-- more groups, as long as there is room for them -/
theorem Reading.Bounded.append {st : Reading} (h : st.Bounded) {gs : List Nat} (hlength : st.groups.length + gs.length ≤ 8)
    (hgs : ∀ g ∈ gs, g < 0x10000) (gap : Option Nat) : Reading.Bounded ⟨st.groups ++ gs, gap⟩ := by
  refine ⟨by simpa using hlength, fun g hg => ?_⟩
  exact (List.mem_append.1 hg).elim (h.bounded g) (hgs g)

theorem readGroups_bounded {st st' : Reading} {cs : List Char} (h : st.Bounded) (hread : readGroups st cs = some st') :
    st'.Bounded := by
  fun_induction readGroups st cs with
  | case1 st => cases hread; exact h
  | case2 => cases hread
  | case3 st r hfree ih =>
    have hroom : st.groups.length ≠ 8 := fun h => hfree (.inl h)
    have hlength := h.length
    exact ih (h.append (by simp; omega) (by simp) _) hread
  | case4 => cases hread
  | case5 st c r _ hroom value count hrun =>
    cases hread
    have hlength := h.length
    have hvalue : value < 0x10000 := by simpa [hrun] using hexRun_lt 0 0 4 (c :: r)
    exact h.append (by simp; omega) (by simpa using hvalue) _
  | case6 st c r _ hroom value count d rest hrun _ ih =>
    have hlength := h.length
    have hvalue : value < 0x10000 := by simpa [hrun] using hexRun_lt 0 0 4 (c :: r)
    exact ih (h.append (by simp; omega) (by simpa using hvalue) _) hread
  | case7 => cases hread
  | case8 st c r _ _ value count rest _ hgood =>
    obtain ⟨gs, hgs, rfl⟩ := Option.map_eq_some_iff.1 hread
    obtain ⟨htwo, hbounded⟩ := octets?_bounded hgs
    have hroom : ¬st.groups.length > 6 := fun h => hgood (.inr h)
    exact h.append (by omega) hbounded _
  | case9 => cases hread

theorem wellFormed_of_finish? {st : Reading} (h : st.Bounded) {a : Ipv6} (hfinish : st.finish? = some a) :
    a.WellFormed := by
  have hlength := h.length
  unfold Reading.finish? at hfinish
  split at hfinish
  · simp only [Option.ite_none_right_eq_some, Option.some.injEq] at hfinish
    obtain ⟨height, rfl⟩ := hfinish
    exact ⟨height, h.bounded⟩
  · next i _ =>
    cases hfinish
    refine ⟨?_, fun g hg => ?_⟩
    · simp only [List.length_append, List.length_take, List.length_replicate, List.length_drop]
      omega
    · simp only [List.mem_append, List.mem_replicate] at hg
      rcases hg with (hg | ⟨-, rfl⟩) | hg
      · exact h.bounded g (List.mem_of_mem_take hg)
      · decide
      · exact h.bounded g (List.mem_of_mem_drop hg)

/-- **What is read is well formed.** -/
theorem wellFormed_of_read? {cs : List Char} {a : Ipv6} (h : read? cs = some a) : a.WellFormed := by
  have hdone : ∀ {start : Reading} {cs : List Char}, start.Bounded →
      (readGroups start cs).bind Reading.finish? = some a → a.WellFormed := by
    intro start cs hstart h
    obtain ⟨st, hst, hfinish⟩ := Option.bind_eq_some_iff.1 h
    exact wellFormed_of_finish? (readGroups_bounded hstart hst) hfinish
  unfold read? at h
  simp only at h
  split at h
  · exact hdone ⟨by decide, by decide⟩ h
  · cases h
  · cases h
  · cases h
  · exact hdone ⟨by decide, by decide⟩ h

end EdgeCache.Address.Ipv6
