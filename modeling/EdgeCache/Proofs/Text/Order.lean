/-
The order of texts. They are compared character by character, which is the order of their UTF-8 octets.

- `encode_lt`: a smaller character has the smaller octets, whatever follows.
- `octets_lt_iff`: a text comes before another one exactly if its octets do.
-/
import Mathlib.Tactic.SplitIfs
import EdgeCache.Directory

namespace EdgeCache.Text

def octets (s : String) : List UInt8 := s.toUTF8.data.toList

theorem octets_eq (s : String) : octets s = s.toList.flatMap String.utf8EncodeChar := by
  have hs : s.toByteArray = s.toList.utf8Encode := by
    conv => lhs; rw [← String.ofList_toList (s := s)]
    exact String.toByteArray_ofList
  unfold octets
  rw [show s.toUTF8 = s.toByteArray from rfl, hs]
  exact List.toList_data_toByteArray

/-- no encoding begins another one, so the first difference is inside the characters -/
theorem encode_lt {c d : Char} (h : c < d) (x y : List UInt8) :
    String.utf8EncodeChar c ++ x < String.utf8EncodeChar d ++ y := by
  have hlt : c.val.toNat < d.val.toNat := h
  have hd : d.val.toNat < 0x110000 := by
    rcases d.valid with h | h <;> omega
  unfold String.utf8EncodeChar
  generalize c.val.toNat = m at *
  generalize d.val.toNat = n at *
  simp only
  -- one case for each pair of lengths: an octet holds six digits of the number in base 2, and the first one the length
  split_ifs <;>
    simp only [List.cons_append, List.nil_append, List.cons_lt_cons_iff, UInt8.lt_iff_toNat_lt, ← UInt8.toNat_inj,
      UInt8.toNat_ofNat', Nat.reducePow] <;>
    simp (disch := omega) only [Nat.mod_eq_of_lt] <;> omega

theorem flatMap_encode_lt {a b : List Char} (h : a < b) :
    a.flatMap String.utf8EncodeChar < b.flatMap String.utf8EncodeChar := by
  induction h with
  | @nil d ds =>
    rw [List.flatMap_cons, List.flatMap_nil]
    obtain ⟨o, os, hd⟩ := List.exists_cons_of_ne_nil (String.utf8EncodeChar_ne_nil (c := d))
    rw [hd]
    exact List.nil_lt_cons o _
  | rel hlt => exact encode_lt hlt _ _
  | cons _ ih =>
    rw [List.flatMap_cons, List.flatMap_cons]
    exact List.append_left_lt ih

/-- **Texts are ordered by their octets.** -/
theorem octets_lt_iff (a b : String) : octets a < octets b ↔ a < b := by
  have hforth : ∀ {a b : String}, a < b → octets a < octets b := by
    intro a b h
    rw [octets_eq, octets_eq]
    exact flatMap_encode_lt h
  constructor
  · intro h
    by_cases heq : a = b
    · subst heq
      exact absurd h (List.lt_irrefl _)
    · exact Decidable.byContradiction fun hn =>
        List.lt_asymm h (hforth (Directory.lt_of_not_lt_of_ne hn heq))
  · exact hforth

end EdgeCache.Text
