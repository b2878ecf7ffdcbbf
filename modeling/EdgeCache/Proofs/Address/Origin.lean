/-
Where requests to an origin go.

- `read_eq_ok_iff`: which texts are accepted, and what they give.
- `accepted_of_read`: an accepted text gives a scheme of the web, a host that was read as one, and a port.
- `read_urlText`: a path at an origin leads to that origin.
- `request_leads`: so does every request of a client, whatever its target is.
-/
import EdgeCache.Exchange.Forwarded
import EdgeCache.Proofs.Address.Url

namespace EdgeCache.Address.Origin

open EdgeCache.Exchange EdgeCache.Message EdgeCache.Text EdgeCache.Time EdgeCache.Unicode.DomainName

variable {text : String} {timeout : Span} {o : Origin}

/-- an origin that a URL can name -/
structure Accepted (o : Origin) : Prop where
  scheme : Url.IsWeb o.scheme
  host : ∃ h : Host, h.Readable ∧ h.text = o.host ∧ h.text ≠ ""
  port : o.port ≤ 65535

theorem isWeb_iff {scheme : String} : Url.IsWeb scheme ↔ ¬(scheme ≠ "http" ∧ scheme ≠ "https") := by
  rw [Url.IsWeb, not_and_or, not_not, not_not]

/-- an origin is read from a URL of the web, which has its scheme, its host and its port -/
theorem read_eq_ok_iff : read text timeout = .ok o ↔ ∃ url h, Url.read text = .ok url ∧ Url.IsWeb url.scheme ∧
    url.host = some h ∧ h.Readable ∧ o = ⟨url.scheme, h.text, url.port.getD (defaultPort url.scheme), timeout⟩ := by
  constructor
  · intro h
    unfold read at h
    split at h
    · cases h
    · next url hurl =>
      unfold ofUrl at h
      split_ifs at h with hscheme
      have hweb := isWeb_iff.2 hscheme
      obtain ⟨⟨host, hhost, hreadable⟩, -⟩ := Url.network_of_read hurl hweb
      rw [hhost] at h
      simp only at h
      split_ifs at h
      cases h
      exact ⟨url, host, hurl, hweb, hhost, hreadable, rfl⟩
  · rintro ⟨url, host, hurl, hweb, hhost, hreadable, rfl⟩
    unfold read
    rw [hurl]
    simp only [ofUrl]
    rw [if_neg (isWeb_iff.1 hweb), hhost]
    exact if_neg hreadable.text_ne

theorem accepted_of_read (h : read text timeout = .ok o) : o.Accepted ∧ o.timeout = timeout := by
  obtain ⟨url, host, hurl, hweb, -, hreadable, rfl⟩ := read_eq_ok_iff.1 h
  obtain ⟨-, hport⟩ := Url.network_of_read hurl hweb
  refine ⟨⟨hweb, ⟨host, hreadable, rfl, hreadable.text_ne⟩, ?_⟩, rfl⟩
  show url.port.getD (defaultPort url.scheme) ≤ 65535
  cases hfound : url.port with
  | some p => exact hport p hfound
  | none =>
    show (if url.scheme = "https" then 443 else 80) ≤ 65535
    split_ifs <;> decide

theorem ofUrl_of_leads {url : Url} (h : Leads url o) (ho : o.Accepted) (text : String) :
    ofUrl text o.timeout url = .ok o := by
  obtain ⟨hscheme, hhost, hport, -⟩ := h
  obtain ⟨hweb, ⟨_, -, htext, hne⟩, -⟩ := ho
  obtain ⟨host, hfound, hsame⟩ := Option.map_eq_some_iff.1 hhost
  have hknown : ¬(url.scheme ≠ "http" ∧ url.scheme ≠ "https") := by
    rw [hscheme]
    rintro ⟨hhttp, hhttps⟩
    exact hweb.elim hhttp hhttps
  unfold ofUrl
  rw [if_neg hknown, hfound]
  simp only
  rw [if_neg (by rw [hsame, ← htext]; exact hne), hsame, hport, hscheme]

theorem read_urlText (haccepted : o.Accepted) (hname : isPlain o.host = false → toAscii? o.host = some o.host)
    (path : List Char) :
    ∃ url, Url.read (o.urlText (String.ofList ('/' :: path))) = .ok url ∧ Leads url o ∧
      read (o.urlText (String.ofList ('/' :: path))) o.timeout = .ok o := by
  obtain ⟨host, hreadable, hhost, hne⟩ := haccepted.host
  have hread : Host.read host.text.toList = .ok host := Host.read_text hreadable (hhost ▸ hname)
  obtain ⟨rest, hurl⟩ := Url.read_network haccepted.scheme hreadable hread hne haccepted.port path
  rw [hhost] at hurl
  have hleads : Leads (Url.located o.scheme (defaultPort o.scheme) none host (some o.port) rest) o :=
    ⟨rfl, congrArg some hhost, Url.getD_located .., rfl⟩
  refine ⟨_, hurl, hleads, ?_⟩
  unfold read
  rw [show Url.read (o.urlText (String.ofList ('/' :: path))) = _ from hurl]
  exact ofUrl_of_leads hleads haccepted _

/-- **Requests go nowhere but to the origin.** Whatever a client puts into the target of its request, the URL that an
accepted origin is asked for is one with the scheme, the host and the port of that origin, without user information, and
it names the same origin again. Of a host name with encoded labels it has to be known that it is its own ASCII form; for
all other names and for addresses that is so. -/
theorem request_leads (haccepted : read text timeout = .ok o)
    (hname : isPlain o.host = false → toAscii? o.host = some o.host) (r : Request) (method : String)
    (body : ByteArray) :
    ∃ url, Url.read (o.urlText (Forwarded.ofRequest r method body).path) = .ok url ∧ Leads url o ∧
      read (o.urlText (Forwarded.ofRequest r method body).path) timeout = .ok o := by
  obtain ⟨ho, rfl⟩ := accepted_of_read haccepted
  obtain ⟨path, hpath⟩ : ∃ path, r.target.pathAndQuery = '/' :: path := by
    unfold RequestTarget.pathAndQuery
    split_ifs with hslash
    · obtain ⟨path, hpath⟩ := List.head?_eq_some_iff.1 hslash
      exact ⟨path, hpath⟩
    · exact ⟨[], rfl⟩
  have hsent : (Forwarded.ofRequest r method body).path = String.ofList ('/' :: path) := congrArg String.ofList hpath
  rw [hsent]
  exact read_urlText ho hname path

/-- a target that looks like an authority -/
def Sample.misleading : Request := ⟨"GET", ⟨none, [], "//user@b.test:81/?@c.test#".toList⟩, [], .empty⟩

theorem request_leads_misleading :
    read "HTTP://ops@[2001:DB8:0:0:0:0:0:1]:0080/x?y" ⟨0⟩ = .ok ⟨"http", "[2001:db8::1]", 80, ⟨0⟩⟩ ∧
    isPlain "[2001:db8::1]" = true ∧
    ∃ url, Url.read "http://[2001:db8::1]:80//user@b.test:81/?@c.test#" = .ok url ∧
      Leads url ⟨"http", "[2001:db8::1]", 80, ⟨0⟩⟩ ∧
      read "http://[2001:db8::1]:80//user@b.test:81/?@c.test#" ⟨0⟩ = .ok ⟨"http", "[2001:db8::1]", 80, ⟨0⟩⟩ := by
  have hread : read "HTTP://ops@[2001:DB8:0:0:0:0:0:1]:0080/x?y" ⟨0⟩ = .ok ⟨"http", "[2001:db8::1]", 80, ⟨0⟩⟩ := by
    decide +kernel
  have hplain : isPlain "[2001:db8::1]" = true := by decide +kernel
  have htext : urlText ⟨"http", "[2001:db8::1]", 80, ⟨0⟩⟩ (Forwarded.ofRequest Sample.misleading "GET" .empty).path =
      "http://[2001:db8::1]:80//user@b.test:81/?@c.test#" := by decide +kernel
  have hleads := request_leads hread (fun h => by rw [hplain] at h; cases h) Sample.misleading "GET" .empty
  rw [htext] at hleads
  exact ⟨hread, hplain, hleads⟩

end EdgeCache.Address.Origin
