/-
IPv4 addresses come back from their texts.

- `toList_text`: what the text of an address is.
- `read?_text`: an address is read from its text, and `isNumeric_text` that the text is taken for an address at all.
-/
import EdgeCache.Address.Ipv4
import EdgeCache.Proofs.Text.Numerals

namespace EdgeCache.Address.Ipv4

open EdgeCache.Text

theorem toList_text (a : Ipv4) : a.text.toList = join '.' (a.octets.map (Nat.toDigits 10)) := by
  unfold text
  rw [String.toList_intercalate, List.map_map]
  have hmap : a.octets.map (String.toList ∘ toString) = a.octets.map (Nat.toDigits 10) :=
    List.map_congr_left fun n _ => Nat.toList_repr
  rw [hmap]
  exact intercalate_eq_join '.' _

theorem mem_text {a : Ipv4} {c : Char} (h : c ∈ a.text.toList) : c.isDigit = true ∨ c = '.' := by
  rw [toList_text] at h
  rcases mem_join h with rfl | ⟨p, hp, hc⟩
  · exact .inr rfl
  · obtain ⟨n, -, rfl⟩ := List.mem_map.1 hp
    exact .inl (Nat.isDigit_of_mem_toDigits (by decide) (by decide) hc)

theorem octets_lt (a : Ipv4) : ∀ n ∈ a.octets, n < 256 := by
  have hbits := a.bits_lt
  intro n hn
  simp only [octets, List.mem_cons, List.not_mem_nil, or_false] at hn
  omega

theorem number?_octet : ∀ n < 256, number? (Nat.toDigits 10 n) = some n := by decide +kernel

theorem splitOn_text (a : Ipv4) : splitOn '.' a.text.toList = a.octets.map (Nat.toDigits 10) := by
  rw [toList_text]
  refine splitOn_join (List.cons_ne_nil _ _) fun p hp hdot => ?_
  obtain ⟨n, -, rfl⟩ := List.mem_map.1 hp
  exact absurd (Nat.isDigit_of_mem_toDigits (by decide) (by decide) hdot) (by decide)

theorem text_ne (a : Ipv4) : a.text ≠ "" := by
  intro h
  have hsplit := splitOn_text a
  rw [h] at hsplit
  cases congrArg List.length hsplit

theorem parts_text (a : Ipv4) : parts a.text.toList = a.octets.map (Nat.toDigits 10) := by
  unfold parts
  rw [splitOn_text]
  refine if_neg ?_
  -- no final dot leaves an empty label
  rintro ⟨-, hlast⟩
  exact absurd (Option.some.inj hlast) Nat.toDigits_ne_nil

theorem isNumeric_text (a : Ipv4) : isNumeric a.text.toList = true := by
  have hlast : (parts a.text.toList).getLast? = some (Nat.toDigits 10 (a.bits % 256)) := by
    rw [parts_text]
    rfl
  have hnumber := number?_octet (a.bits % 256) (Nat.mod_lt _ (by decide))
  unfold isNumeric
  rw [hlast]
  simp only
  rw [hnumber]
  exact Bool.or_true _

/-- **An IPv4 address comes back from its text.** -/
theorem read?_text (a : Ipv4) : read? a.text.toList = some a := by
  have hnumbers : (parts a.text.toList).mapM number? = some a.octets := by
    rw [parts_text]
    exact mapM_map fun n hn => number?_octet n (octets_lt a n hn)
  have hbits := a.bits_lt
  -- the first three octets are all but the last eight bits
  have hleading : leading? a.octets.dropLast = some (a.bits / 256) := by
    have hfirst : a.bits / 0x1000000 < 256 := by omega
    have hsecond : a.bits / 0x10000 % 256 < 256 := Nat.mod_lt _ (by decide)
    have hthird : a.bits / 0x100 % 256 < 256 := Nat.mod_lt _ (by decide)
    show [a.bits / 0x1000000, a.bits / 0x10000 % 256, a.bits / 0x100 % 256].foldlM _ 0 = _
    simp only [List.foldlM_cons, List.foldlM_nil, if_pos hfirst, if_pos hsecond, if_pos hthird, Option.bind_eq_bind,
      Option.bind_some]
    exact congrArg some (by omega)
  have hlast : a.octets.getLast? = some (a.bits % 256) := rfl
  unfold read?
  rw [hnumbers]
  show (a.octets.getLast?.bind fun last => _) = some a
  rw [hlast]
  show ((leading? a.octets.dropLast).bind fun head => _) = some a
  rw [hleading]
  have hsum : a.bits / 256 * 256 + a.bits % 256 = a.bits := by omega
  show (if a.bits % 256 < 256 then
    if h : a.bits / 256 * 256 + a.bits % 256 < 0x100000000 then some (⟨_, h⟩ : Ipv4) else none else none) = some a
  rw [if_pos (Nat.mod_lt _ (by decide)), dif_pos (by omega)]
  simp only [hsum]

end EdgeCache.Address.Ipv4
