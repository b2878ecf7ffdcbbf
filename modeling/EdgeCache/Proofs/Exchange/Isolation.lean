/-
Whose answers a request can get. The key of a request is the digest of its host followed by its path, and nothing marks
where the host ends.

- `Key.material_inj`: keys are made of the same octets if and only if host and path together are the same text.
- `Request.same_of_append`: such requests have the same host and the same path, unless a Host field has a slash, or one
  asks for the asterisk and the other for nothing but an authority.
- `Journal.served_same`: what that says of answers from the store.
- `Confused.served_across`: runs in which a request gets the answer of another host and path.
-/
import EdgeCache.Proofs.Exchange.Provenance
import EdgeCache.Proofs.Message.RequestTarget

namespace EdgeCache.Store.Key

theorem material_eq (host path : String) : material false host path = (host ++ path).toUTF8.data.toList := by
  unfold material
  simp

theorem material_inj {host path host' path' : String} :
    material false host path = material false host' path' ↔ host ++ path = host' ++ path' := by
  rw [material_eq, material_eq]
  constructor
  · intro h
    exact String.toByteArray_inj.1 (ByteArray.ext (Array.toList_inj.1 h))
  · intro h
    rw [h]

end EdgeCache.Store.Key

namespace EdgeCache.Message.Request

/-- the target is one that a client can send -/
def Readable (r : Request) : Prop := ∃ s, RequestTarget.read s = .ok r.target

/-- the host is taken from a Host field, and it has a slash -/
def SlashedHost (r : Request) : Prop := r.target.authority = [] ∧ '/' ∈ r.host.toList

variable {r q : Request}

theorem host_of_authority (h : r.target.authority ≠ []) : r.host = String.ofList r.target.authority := by
  unfold host host?
  rw [if_pos h]
  rfl

theorem not_mem_host (hread : r.Readable) (h : ¬r.SlashedHost) : '/' ∉ r.host.toList := by
  obtain ⟨s, hs⟩ := hread
  have hslash := (RequestTarget.wellFormed_of_read hs).authority
  by_cases hauthority : r.target.authority = []
  · intro hmem
    exact h ⟨hauthority, hmem⟩
  · rw [host_of_authority hauthority, String.toList_ofList]
    exact hslash

theorem path_cases (hread : r.Readable) :
    r.path = "" ∨ r.path = "*" ∨ ∃ cs, r.path.toList = '/' :: cs := by
  obtain ⟨s, hs⟩ := hread
  unfold path
  rcases (RequestTarget.wellFormed_of_read hs).path with ⟨hnone, -⟩ | hstar | ⟨cs, hslash⟩
  · rw [hnone]
    exact Or.inl rfl
  · rw [hstar]
    exact Or.inr (Or.inl rfl)
  · refine Or.inr (Or.inr ⟨cs, ?_⟩)
    rw [hslash, String.toList_ofList]

theorem takeWhile_append_slash {a : List Char} (ha : '/' ∉ a) (cs : List Char) :
    (a ++ '/' :: cs).takeWhile (· ≠ '/') = a := by
  have hall : ∀ c ∈ a, decide (c ≠ '/') = true := by
    intro c hc
    exact decide_eq_true (ne_of_mem_of_not_mem hc ha)
  rw [List.takeWhile_append_of_pos hall]
  simp

/-- texts without a slash in front of one with a slash end at the first slash -/
theorem append_slash_inj {a b cs ds : List Char} (ha : '/' ∉ a) (hb : '/' ∉ b) (h : a ++ '/' :: cs = b ++ '/' :: ds) :
    a = b ∧ cs = ds := by
  have hab : a = b := by rw [← takeWhile_append_slash ha cs, h, takeWhile_append_slash hb ds]
  subst hab
  exact ⟨rfl, (List.cons.inj (List.append_cancel_left h)).2⟩

theorem toList_append_eq (h : r.host ++ r.path = q.host ++ q.path) :
    r.host.toList ++ r.path.toList = q.host.toList ++ q.path.toList := by
  rw [← String.toList_append, ← String.toList_append, h]

/-- a text with a slash in its path is none without any slash -/
theorem not_slash_of_append (h : r.host ++ r.path = q.host ++ q.path) (hq : '/' ∉ q.host.toList)
    (hpath : '/' ∉ q.path.toList) {cs : List Char} (hslash : r.path.toList = '/' :: cs) : False := by
  have hlist := toList_append_eq h
  have hmem : '/' ∈ q.host.toList ++ q.path.toList := by
    rw [← hlist, hslash]
    simp
  rcases List.mem_append.1 hmem with hm | hm
  · exact hq hm
  · exact hpath hm

/-- **Host and path of one text.** If host and path together are the same text for two requests, both are the same, unless
a Host field has a slash, or one request is for the asterisk and the other for an authority alone. -/
theorem same_of_append (hr : r.Readable) (hq : q.Readable) (h : r.host ++ r.path = q.host ++ q.path)
    (hslash : ¬r.SlashedHost ∧ ¬q.SlashedHost) (hbare : ¬(r.path = "*" ∧ q.path = "") ∧ ¬(r.path = "" ∧ q.path = "*")) :
    r.host = q.host ∧ r.path = q.path := by
  have hhr := not_mem_host hr hslash.1
  have hhq := not_mem_host hq hslash.2
  -- paths of which both or neither start with a slash
  rcases path_cases hr with hpr | hpr | ⟨cs, hpr⟩
  · rcases path_cases hq with hpq | hpq | ⟨ds, hpq⟩
    · rw [hpr, hpq] at h ⊢
      exact ⟨by simpa using h, rfl⟩
    · exact absurd ⟨hpr, hpq⟩ hbare.2
    · exact (not_slash_of_append h.symm hhr (by rw [hpr]; decide) hpq).elim
  · rcases path_cases hq with hpq | hpq | ⟨ds, hpq⟩
    · exact absurd ⟨hpr, hpq⟩ hbare.1
    · rw [hpr, hpq] at h ⊢
      exact ⟨by simpa using h, rfl⟩
    · exact (not_slash_of_append h.symm hhr (by rw [hpr]; decide) hpq).elim
  · rcases path_cases hq with hpq | hpq | ⟨ds, hpq⟩
    · exact (not_slash_of_append h hhq (by rw [hpq]; decide) hpr).elim
    · exact (not_slash_of_append h hhq (by rw [hpq]; decide) hpr).elim
    · have hlist := toList_append_eq h
      rw [hpr, hpq] at hlist
      obtain ⟨hhost, hrest⟩ := append_slash_inj hhr hhq hlist
      refine ⟨String.toList_inj.1 hhost, String.toList_inj.1 ?_⟩
      rw [hpr, hpq, hrest]

end EdgeCache.Message.Request

namespace EdgeCache.Exchange

open EdgeCache.Message EdgeCache.Store EdgeCache.Text EdgeCache.Time

/-- requests whose host and path together are the same text have the same key -/
theorem keyOf_of_append {Backend : Type} {p : Proxy Backend} (hhost : p.ignoreHost = false) {r q : Request}
    (h : r.host ++ r.path = q.host ++ q.path) : p.keyOf r = p.keyOf q := by
  unfold Proxy.keyOf Key.derive
  rw [hhost, Key.material_inj.2 h]

namespace Journal

variable {Backend : Type} {limits : Limits} {j : Journal Backend}

/-- a step answers a request from what was stored for another one -/
structure Serves (j : Journal Backend) (s : Step) (stored answered : Request) (response : Response) : Prop where
  hit : j.Hits s answered response
  source : ∃ d, j.latest? (j.keyOf answered) = some d ∧ d.fetch.request = stored

end Journal

/-! ## Some requests -/

namespace Confused

open Sample

/-- the document by its absolute address -/
def absolute : Request := ⟨"GET", ⟨some "http".toList, "a.test".toList, "/x".toList⟩, [], .empty⟩

/-- a Host field that goes on after the host -/
def slashed : Request := ⟨"GET", ⟨none, [], "/x".toList⟩, [⟨"host", "a.test/b"⟩], .empty⟩

/-- another document -/
def nested : Request := ⟨"GET", ⟨none, [], "/b/x".toList⟩, [⟨"host", "a.test"⟩], .empty⟩

def authority : Request := ⟨"GET", ⟨none, "a*".toList, []⟩, [], .empty⟩

def asterisk : Request := ⟨"GET", ⟨none, [], ['*']⟩, [⟨"host", "a"⟩], .empty⟩

theorem visited_serves {r q : Request} (hr : Proxy.isForDocument r = true) (hq : Proxy.isForDocument q = true)
    (h : r.host ++ r.path = q.host ++ q.path) :
    (visited r []).Reachable ⟨2, 8, none⟩ ∧ (visited r []).traffic.proxy.ignoreHost = false ∧
    (visited r []).Serves (.lookup 1 now ⟨0⟩ q) r q (replayed [] (q.method == "HEAD")) := by
  obtain ⟨hreachable, hhits, hlatest⟩ := visited_hits hr hq (keyOf_of_append rfl h.symm) says_nothing
  exact ⟨hreachable, Journal.run_ignoreHost _ _, hhits, _, hlatest, rfl⟩

end Confused

namespace Journal

variable {Backend : Type} {limits : Limits} {j : Journal Backend}

/-- **No answer of another host and path.** Where hosts are told apart, a request is answered from what was stored for
another one only if host and path together are the same text for both, short of a collision of digests. Then both are
the same, unless a Host field has a slash, or one request is for the asterisk and the other for an authority alone. -/
theorem served_same (h : Reachable limits j) (hhost : j.traffic.proxy.ignoreHost = false) {s : Step} {r q : Request}
    {response : Response} (hserves : j.Serves s r q response) (hr : r.Readable) (hq : q.Readable)
    (hdigest : Sha256.digest (Key.material false r.host r.path) = Sha256.digest (Key.material false q.host q.path) →
      Key.material false r.host r.path = Key.material false q.host q.path) :
    r.host ++ r.path = q.host ++ q.path ∧
    (¬r.SlashedHost ∧ ¬q.SlashedHost → ¬(r.path = "*" ∧ q.path = "") ∧ ¬(r.path = "" ∧ q.path = "*") →
      r.host = q.host ∧ r.path = q.path) := by
  obtain ⟨d, hd, rfl⟩ := hserves.source
  obtain ⟨hmem, hkey⟩ := mem_of_latest? hd
  have hsame : j.keyOf d.fetch.request = j.keyOf q := (h.sound.deposits d hmem).2.symm.trans hkey
  have happend : d.fetch.request.host ++ d.fetch.request.path = q.host ++ q.path := by
    unfold keyOf Proxy.keyOf Key.derive at hsame
    rw [hhost] at hsame
    exact Key.material_inj.1 (hdigest (congrArg Key.octets hsame))
  exact ⟨happend, Request.same_of_append hr hq happend⟩

open Sample Confused in
theorem served_same_absolute :
    (visited absolute []).Reachable ⟨2, 8, none⟩ ∧ (visited absolute []).traffic.proxy.ignoreHost = false ∧
    (visited absolute []).Serves (.lookup 1 now ⟨0⟩ asked) absolute asked (replayed [] false) ∧
    absolute.Readable ∧ asked.Readable ∧
    (Sha256.digest (Key.material false absolute.host absolute.path) =
      Sha256.digest (Key.material false asked.host asked.path) →
      Key.material false absolute.host absolute.path = Key.material false asked.host asked.path) ∧
    absolute.host ++ absolute.path = asked.host ++ asked.path ∧
    (¬absolute.SlashedHost ∧ ¬asked.SlashedHost →
      ¬(absolute.path = "*" ∧ asked.path = "") ∧ ¬(absolute.path = "" ∧ asked.path = "*") →
      absolute.host = asked.host ∧ absolute.path = asked.path) := by
  have happend : absolute.host ++ absolute.path = asked.host ++ asked.path := by decide
  have habsolute : absolute.Readable := ⟨"http://a.test/x", rfl⟩
  have hasked : asked.Readable := ⟨"/x", rfl⟩
  obtain ⟨hreachable, hhost, hserves⟩ := visited_serves (r := absolute) (q := asked) rfl rfl happend
  have hdigest := fun _ : Sha256.digest (Key.material false absolute.host absolute.path) =
    Sha256.digest (Key.material false asked.host asked.path) => Key.material_inj.2 happend
  exact ⟨hreachable, hhost, hserves, habsolute, hasked, hdigest,
    served_same hreachable hhost hserves habsolute hasked hdigest⟩

end Journal

/-! ## Requests that are taken for each other -/

open Sample in
/-- A Host field with a slash takes a part of the path to the host, so that a request gets what is stored for another
host and another path. So do the asterisk and an authority that ends in one. -/
theorem Confused.served_across :
    ((visited slashed []).Reachable ⟨2, 8, none⟩ ∧ (visited slashed []).traffic.proxy.ignoreHost = false ∧
      slashed.Readable ∧ nested.Readable ∧
      (visited slashed []).Serves (.lookup 1 now ⟨0⟩ nested) slashed nested (replayed [] false) ∧
      slashed.host = "a.test/b" ∧ slashed.path = "/x" ∧ nested.host = "a.test" ∧ nested.path = "/b/x") ∧
    ((visited authority []).Reachable ⟨2, 8, none⟩ ∧ (visited authority []).traffic.proxy.ignoreHost = false ∧
      authority.Readable ∧ asterisk.Readable ∧
      (visited authority []).Serves (.lookup 1 now ⟨0⟩ asterisk) authority asterisk (replayed [] false) ∧
      authority.host = "a*" ∧ authority.path = "" ∧ asterisk.host = "a" ∧ asterisk.path = "*") := by
  obtain ⟨hreachable, hhost, hserves⟩ := visited_serves (r := slashed) (q := nested) rfl rfl (by decide)
  obtain ⟨hreachable', hhost', hserves'⟩ := visited_serves (r := authority) (q := asterisk) rfl rfl (by decide)
  exact ⟨⟨hreachable, hhost, ⟨"/x", rfl⟩, ⟨"/b/x", rfl⟩, hserves, by decide, by decide, by decide, by decide⟩,
    ⟨hreachable', hhost', ⟨"a*", rfl⟩, ⟨"*", rfl⟩, hserves', by decide, by decide, by decide, by decide⟩⟩

end EdgeCache.Exchange
