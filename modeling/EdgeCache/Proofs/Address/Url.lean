/-
What is read from a URL of a known scheme.

- `readHost_eq`: a host of the network, then a port, then the rest.
- `network_of_read`: a URL of scheme http or https has a host that was read as one, and its port is below the limit.
- `read_network`: scheme, host and port that are written in front of a path are those that are read. `read_alone`: so
  are those that are written without one, and then nothing else is read.
-/
import EdgeCache.Address.Origin
import EdgeCache.Proofs.Address.Host
import EdgeCache.Proofs.Outcome

namespace EdgeCache.Address.Url

open EdgeCache.Text

def IsWeb (scheme : String) : Prop := scheme = "http" ∨ scheme = "https"

theorem schemeKind_web {scheme : String} (h : IsWeb scheme) : schemeKind scheme = .network (Origin.defaultPort scheme) := by
  rcases h with rfl | rfl <;> rfl

theorem scheme?_web {scheme : String} (h : IsWeb scheme) (rest : List Char) :
    scheme? (scheme.toList ++ ':' :: rest) = some (scheme, rest) := by
  have hname : ':' ∉ scheme.toList ∧ (scheme.toList.head?.any Char.isAlpha ∧ scheme.toList.all fun c =>
      c.isAlphanum || c = '+' || c = '-' || c = '.') ∧ lower (String.ofList scheme.toList) = scheme := by
    rcases h with rfl | rfl <;> decide +kernel
  unfold scheme?
  rw [cutFirst_append hname.1]
  simp only
  rw [if_pos hname.2.1, hname.2.2]

/-! ## A host of the network -/

def portBehind : List Char → Except UrlError (Option Nat × List Char)
  | ':' :: r => readPort r
  | r => pure (none, r)

theorem portBehind_of_none {rest : List Char} (h : ∀ r, rest = ':' :: r → False) :
    portBehind rest = pure (none, rest) := by
  unfold portBehind
  split
  · exact (h _ rfl).elim
  · rfl

def located (scheme : String) (defaultPort : Nat) (user : Option (List Char)) (host : Host) (port : Option Nat)
    (rest : List Char) : Url where
  scheme
  userInfo := user
  host := some host
  port := if port = some defaultPort then none else port
  path := (splitPath rest).1
  query := (splitPath rest).2.1
  fragment := (splitPath rest).2.2

/-- the port is the one that was written, or the default one where that was left out -/
theorem getD_located (scheme : String) (d : Nat) (user : Option (List Char)) (host : Host) (port : Nat)
    (rest : List Char) : (located scheme d user host (some port) rest).port.getD d = port := by
  show (if some port = some d then none else some port).getD d = port
  split_ifs with hdefault
  · exact (Option.some.inj hdefault).symm
  · rfl

theorem readHost_of_empty (scheme : String) (d : Nat) {user : UserInfo} (h : (splitHost true false user.rest).1 = []) :
    readHost scheme (.network d) user = .error .emptyHost := by
  unfold readHost
  simp only
  rw [if_pos ⟨rfl, h⟩]
  rfl

theorem readHost_eq (scheme : String) (d : Nat) {user : UserInfo} (h : (splitHost true false user.rest).1 ≠ []) :
    readHost scheme (.network d) user =
      (Host.read (splitHost true false user.rest).1 >>= fun host =>
        portBehind (splitHost true false user.rest).2 >>= fun found =>
          pure (located scheme d user.text host found.1 found.2)) := by
  unfold readHost
  simp only [show knowsHosts (.network d) = true from rfl, if_true, true_and]
  generalize splitHost true false user.rest = found at h ⊢
  obtain ⟨hostText, rest⟩ := found
  simp only at h
  simp only [h, false_and, if_false]
  congr 1
  funext host
  split
  · rfl
  · next hno =>
    rw [portBehind_of_none hno]
    rfl

/-! ## What was read -/

theorem readPort_le {cs rest : List Char} {p : Nat} (h : readPort cs = .ok (some p, rest)) : p ≤ 65535 := by
  have hvalue : ∀ {digits : List Char}, ¬digitsFrom 0 digits > 65535 → digits? digits = some p → p ≤ 65535 := by
    intro digits hle hp
    unfold digits? at hp
    split_ifs at hp
    cases hp
    exact Nat.le_of_not_lt hle
  unfold readPort at h
  simp only at h
  split_ifs at h with hlarge
  split at h
  · split_ifs at h
    exact hvalue hlarge (Prod.mk.inj (Except.ok.inj h)).1
  · exact hvalue hlarge (Prod.mk.inj (Except.ok.inj h)).1

/-- the URL has a host that was read as one of the network, and a port that a host can have -/
structure Network (url : Url) : Prop where
  host : ∃ h, url.host = some h ∧ h.Readable
  port : ∀ p, url.port = some p → p ≤ 65535

theorem network_of_readHost {scheme : String} {d : Nat} {user : UserInfo} {url : Url}
    (h : readHost scheme (.network d) user = .ok url) : url.Network := by
  by_cases hempty : (splitHost true false user.rest).1 = []
  · rw [readHost_of_empty scheme d hempty] at h
    cases h
  · rw [readHost_eq scheme d hempty] at h
    obtain ⟨host, hhost, h⟩ := ok_of_bind h
    obtain ⟨⟨port, rest⟩, hport, h⟩ := ok_of_bind h
    cases h
    refine ⟨⟨host, rfl, Host.readable_of_read hhost⟩, fun p hp => ?_⟩
    have hfound : port = some p := by
      unfold located at hp
      simp only at hp
      split_ifs at hp
      exact hp
    subst hfound
    unfold portBehind at hport
    split at hport
    · exact readPort_le hport
    · cases hport

theorem scheme_of_readAuthority {scheme : String} {cs : List Char} {url : Url}
    (h : readAuthority scheme .other cs = .ok url) : url.scheme = scheme := by
  obtain ⟨user, -, h⟩ := ok_of_bind h
  unfold readHost at h
  simp only [show knowsHosts .other = false from rfl, Bool.false_eq_true, false_and, if_false] at h
  generalize splitHost false false user.rest = found at h
  obtain ⟨hostText, rest⟩ := found
  obtain ⟨host, -, h⟩ := ok_of_bind h
  by_cases hport : hostText = [] ∧ rest.head? = some ':'
  · rw [if_pos hport] at h
    cases h
  · rw [if_neg hport] at h
    -- whatever the port is, the scheme is the one that was given
    have hlast : ∀ {x : Except UrlError (Option Nat × List Char)} {f : Option Nat × List Char → Url},
        (∀ found, (f found).scheme = scheme) →
        (x >>= fun found => if hostText = [] ∧ user.text.isSome = true then
          (do throw UrlError.emptyHost; pure (f found)) else pure (f found)) = .ok url → url.scheme = scheme := by
      intro x f hf h
      obtain ⟨found, -, h⟩ := ok_of_bind h
      by_cases huser : hostText = [] ∧ user.text.isSome = true
      · rw [if_pos huser] at h
        cases h
      · rw [if_neg huser] at h
        cases h
        exact hf found
    split at h
    · exact hlast (fun _ => rfl) h
    · exact hlast (fun _ => rfl) h

theorem scheme_of_readFile {cs : List Char} {url : Url} (h : readFile cs = .ok url) : url.scheme = "file" := by
  unfold readFile at h
  split at h
  · simp only at h
    split_ifs at h
    · cases h
      rfl
    · cases hhost : Host.read (List.takeWhile (fun c => !endsAuthority true c) _) with
      | error e => rw [hhost] at h; cases h
      | ok host => rw [hhost] at h; cases h; rfl
    · cases h
      rfl
  · cases h
    rfl

/-- **A URL of scheme http or https names a host.** -/
theorem network_of_read {s : String} {url : Url} (h : read s = .ok url) (hweb : IsWeb url.scheme) : url.Network := by
  unfold read at h
  split at h
  · cases h
  · next scheme rest _ =>
    split at h
    · rw [scheme_of_readFile h] at hweb
      rcases hweb with hfile | hfile <;> exact absurd hfile (by decide)
    · obtain ⟨user, -, h⟩ := ok_of_bind h
      exact network_of_readHost h
    · next hkind =>
      have hscheme : url.scheme = scheme := by
        split at h
        · exact scheme_of_readAuthority h
        · cases h
          rfl
      rw [hscheme] at hweb
      rw [schemeKind_web hweb] at hkind
      cases hkind

/-! ## What is read again -/

theorem kept_of_visible {c : Char} (h : 0x20 < c.toNat) : decide (c ≠ '\t' ∧ c ≠ '\n' ∧ c ≠ '\r') = true := by
  refine decide_eq_true ⟨?_, ?_, ?_⟩ <;> rintro rfl <;> exact absurd h (by decide)

theorem dropWhile_of_visible {cs : List Char} (h : ∀ c ∈ cs, 0x20 < c.toNat) :
    cs.dropWhile (fun c => decide (c.toNat ≤ 0x20)) = cs := by
  cases cs with
  | nil => rfl
  | cons c cs =>
    have hc := h c List.mem_cons_self
    exact List.dropWhile_cons_of_neg (by simpa using hc)

theorem clean_of_visible {cs : List Char} (h : ∀ c ∈ cs, 0x20 < c.toNat) : clean cs = cs := by
  unfold clean
  simp only
  rw [dropWhile_of_visible h, dropWhile_of_visible fun c hc => h c (List.mem_reverse.1 hc), List.reverse_reverse]
  exact List.filter_eq_self.2 fun c hc => kept_of_visible (h c hc)

/-- nothing is skipped in front of the last visible character -/
theorem clean_append {front : List Char} (hne : front ≠ []) (hfront : ∀ c ∈ front, 0x20 < c.toNat) (rest : List Char) :
    ∃ rest', clean (front ++ rest) = front ++ rest' := by
  have hlow : ∀ c ∈ front, ¬decide (c.toNat ≤ 0x20) = true := fun c hc h =>
    absurd (of_decide_eq_true h) (Nat.not_le.2 (hfront c hc))
  have hstart : (front ++ rest).dropWhile (fun c => decide (c.toNat ≤ 0x20)) = front ++ rest := by
    obtain ⟨c, cs, rfl⟩ := List.exists_cons_of_ne_nil hne
    exact List.dropWhile_cons_of_neg (hlow c List.mem_cons_self)
  have hend : ∃ rest', ((front ++ rest).reverse.dropWhile fun c => decide (c.toNat ≤ 0x20)).reverse = front ++ rest' := by
    rw [List.reverse_append, List.dropWhile_append]
    split_ifs
    · -- all of the rest is skipped, and the last character of the front is not
      refine ⟨[], ?_⟩
      rw [List.append_nil]
      rw [dropWhile_of_visible fun c hc => hfront c (List.mem_reverse.1 hc), List.reverse_reverse]
    · rw [List.reverse_append, List.reverse_reverse]
      exact ⟨_, rfl⟩
  obtain ⟨rest', hrest'⟩ := hend
  unfold clean
  simp only
  rw [hstart, hrest', List.filter_append, List.filter_eq_self.2 fun c hc => kept_of_visible (hfront c hc)]
  exact ⟨_, rfl⟩

/-- what is behind an authority: a path, or nothing -/
theorem takeWhile_front {p : Char → Bool} (hslash : p '/' = false) {front rest : List Char}
    (hfront : ∀ c ∈ front, p c = true) (hrest : ∀ c ∈ rest.head?, c = '/') : (front ++ rest).takeWhile p = front := by
  rw [List.takeWhile_append_of_pos hfront]
  cases rest with
  | nil => exact List.append_nil front
  | cons c rest =>
    obtain rfl := hrest c rfl
    rw [List.takeWhile_cons_of_neg (by rw [hslash]; decide), List.append_nil]

theorem readPort_toDigits {port : Nat} (hport : port ≤ 65535) {rest : List Char} (hrest : ∀ c ∈ rest.head?, c = '/') :
    readPort (Nat.toDigits 10 port ++ rest) = .ok (some port, rest) := by
  have hdigits : ∀ c ∈ Nat.toDigits 10 port, c.isDigit = true := fun c hc =>
    Nat.isDigit_of_mem_toDigits (by decide) (by decide) hc
  unfold readPort
  simp only
  rw [takeWhile_front (by decide) hdigits hrest, digitsFrom_toDigits, if_neg (Nat.not_lt.2 hport), List.drop_left,
    digits?_toDigits]
  cases rest with
  | nil => rfl
  | cons c rest =>
    obtain rfl := hrest c rfl
    exact if_pos (Or.inl rfl)

theorem splitUser_of_notMem {authority : List Char} (hends : ∀ c ∈ authority, endsAuthority true c = false)
    (hat : '@' ∉ authority) {rest : List Char} (hrest : ∀ c ∈ rest.head?, c = '/') :
    splitUser true (authority ++ rest) = .ok ⟨none, authority ++ rest⟩ := by
  unfold splitUser
  simp only
  rw [takeWhile_front (by decide) (fun c hc => by rw [hends c hc]; rfl) hrest, cutLast_of_notMem hat]

def authority (h : Host) (port : Nat) : List Char := h.text.toList ++ ':' :: Nat.toDigits 10 port

theorem mem_authority {h : Host} (hreadable : h.Readable) {port : Nat} {c : Char} (hc : c ∈ authority h port) :
    endsAuthority true c = false ∧ c ≠ '@' ∧ 0x20 < c.toNat := by
  rcases List.mem_append.1 hc with hc | hc
  · exact Host.mem_text hreadable hc
  · rcases List.mem_cons.1 hc with rfl | hc
    · decide
    · exact forall_digit (P := fun c => endsAuthority true c = false ∧ c ≠ '@' ∧ 0x20 < c.toNat) (by decide)
        (Nat.isDigit_of_mem_toDigits (by decide) (by decide) hc)

theorem readAuthority_authority (scheme : String) (d : Nat) {h : Host} (hreadable : h.Readable)
    (hread : Host.read h.text.toList = .ok h) (hne : h.text ≠ "") {port : Nat} (hport : port ≤ 65535)
    {rest : List Char} (hrest : ∀ c ∈ rest.head?, c = '/') :
    readAuthority scheme (.network d) (authority h port ++ rest) = .ok (located scheme d none h (some port) rest) := by
  have hat : '@' ∉ authority h port := fun hc => (mem_authority hreadable hc).2.1 rfl
  have huser := splitUser_of_notMem (fun c hc => (mem_authority hreadable hc).1) hat hrest
  have hsplit : splitHost true false (authority h port ++ rest) =
      (h.text.toList, ':' :: (Nat.toDigits 10 port ++ rest)) := by
    unfold authority
    rw [List.append_assoc, List.cons_append]
    exact Host.splitHost_text hreadable _
  have hsome : (splitHost true false (authority h port ++ rest)).1 ≠ [] := by
    rw [hsplit]
    exact fun hnil => hne (String.toList_inj.1 hnil)
  have hbehind : portBehind (':' :: (Nat.toDigits 10 port ++ rest)) = .ok (some port, rest) :=
    readPort_toDigits hport hrest
  calc readAuthority scheme (.network d) (authority h port ++ rest)
    _ = splitUser true (authority h port ++ rest) >>= readHost scheme (.network d) := rfl
    _ = readHost scheme (.network d) ⟨none, authority h port ++ rest⟩ := by rw [huser]; rfl
    _ = (Host.read h.text.toList >>= fun host =>
          portBehind (':' :: (Nat.toDigits 10 port ++ rest)) >>= fun found =>
            pure (located scheme d none host found.1 found.2)) := by rw [readHost_eq scheme d hsome, hsplit]
    _ = .ok (located scheme d none h (some port) rest) := by rw [hread, hbehind]; rfl

/-- a scheme and an authority, as an origin writes them -/
def front (scheme : String) (h : Host) (port : Nat) : List Char :=
  scheme.toList ++ ':' :: '/' :: '/' :: authority h port

theorem toList_front (scheme : String) (h : Host) (port : Nat) :
    (scheme ++ "://" ++ h.text ++ ":" ++ toString port).toList = front scheme h port := by
  simp [front, authority]

theorem visible_front {scheme : String} (hweb : IsWeb scheme) {h : Host} (hreadable : h.Readable) {port : Nat} :
    ∀ c ∈ front scheme h port, 0x20 < c.toNat := by
  have hscheme : ∀ c ∈ scheme.toList, 0x20 < c.toNat := by
    rcases hweb with rfl | rfl <;> simp
  intro c hc
  unfold front at hc
  simp only [List.mem_append, List.mem_cons] at hc
  rcases hc with hc | rfl | rfl | rfl | hc
  · exact hscheme c hc
  · decide
  · decide
  · decide
  · exact (mem_authority hreadable hc).2.2

/-- what an origin writes is read back, together with what follows it -/
theorem read_of_clean {scheme : String} (hweb : IsWeb scheme) {h : Host} (hreadable : h.Readable)
    (hread : Host.read h.text.toList = .ok h) (hne : h.text ≠ "") {port : Nat} (hport : port ≤ 65535)
    {text : String} {rest : List Char} (hclean : clean text.toList = front scheme h port ++ rest)
    (hrest : ∀ c ∈ rest.head?, c = '/') :
    read text = .ok (located scheme (Origin.defaultPort scheme) none h (some port) rest) := by
  -- no host begins with a slash that would be skipped
  have hskip : ('/' :: '/' :: (authority h port ++ rest)).dropWhile (fun c => c = '/' || c = '\\') =
      authority h port ++ rest := by
    obtain ⟨c, cs, hcs⟩ := List.exists_cons_of_ne_nil (l := authority h port) (by simp [authority])
    have hc : ¬(decide (c = '/') || decide (c = '\\')) = true := by
      have hmem : c ∈ authority h port := hcs ▸ List.mem_cons_self
      have hends := (mem_authority hreadable hmem).1
      simp only [Bool.or_eq_true, decide_eq_true_eq]
      rintro (rfl | rfl) <;> exact absurd hends (by decide)
    rw [List.dropWhile_cons_of_pos (by decide), List.dropWhile_cons_of_pos (by decide), hcs]
    exact List.dropWhile_cons_of_neg hc
  unfold read
  rw [hclean, front, List.append_assoc, List.cons_append, scheme?_web hweb]
  simp only
  rw [schemeKind_web hweb]
  show readAuthority scheme (.network (Origin.defaultPort scheme))
    (('/' :: '/' :: (authority h port ++ rest)).dropWhile _) = _
  rw [hskip]
  exact readAuthority_authority scheme _ hreadable hread hne hport hrest

/-- **Scheme, host and port that stand in front of a path are those that are read.** -/
theorem read_network {scheme : String} (hweb : IsWeb scheme) {h : Host} (hreadable : h.Readable)
    (hread : Host.read h.text.toList = .ok h) (hne : h.text ≠ "") {port : Nat} (hport : port ≤ 65535)
    (path : List Char) :
    ∃ rest, read (scheme ++ "://" ++ h.text ++ ":" ++ toString port ++ String.ofList ('/' :: path)) =
      .ok (located scheme (Origin.defaultPort scheme) none h (some port) rest) := by
  have htext : (scheme ++ "://" ++ h.text ++ ":" ++ toString port ++ String.ofList ('/' :: path)).toList =
      (front scheme h port ++ ['/']) ++ path := by
    rw [String.toList_append, toList_front]
    simp
  have hvisible : ∀ c ∈ front scheme h port ++ ['/'], 0x20 < c.toNat := by
    intro c hc
    rcases List.mem_append.1 hc with hc | hc
    · exact visible_front hweb hreadable c hc
    · rw [List.mem_singleton.1 hc]
      decide
  obtain ⟨path', hclean⟩ := clean_append (by simp) hvisible path
  rw [← htext, List.append_assoc] at hclean
  exact ⟨'/' :: path', read_of_clean hweb hreadable hread hne hport hclean (by simp)⟩

/-- **What an origin writes without a path is read back.** -/
theorem read_alone {scheme : String} (hweb : IsWeb scheme) {h : Host} (hreadable : h.Readable)
    (hread : Host.read h.text.toList = .ok h) (hne : h.text ≠ "") {port : Nat} (hport : port ≤ 65535) :
    read (scheme ++ "://" ++ h.text ++ ":" ++ toString port) =
      .ok (located scheme (Origin.defaultPort scheme) none h (some port) []) := by
  refine read_of_clean hweb hreadable hread hne hport ?_ (by simp)
  rw [toList_front, List.append_nil]
  exact clean_of_visible (visible_front hweb hreadable)

end EdgeCache.Address.Url
