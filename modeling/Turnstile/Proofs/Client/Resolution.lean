import Turnstile.Proofs.Client.Trust
import Turnstile.Proofs.Text.Ends
import Turnstile.RateLimit.Key
/-!
  In which order the client of a request is looked for.

  1. **Program** — `Request.client` reads the forwarding headers first and asks only then whether the
     peer is believed.

  2. **Specification** (`Resolved`) — four rules, of which the first that applies names the client: the
     first entry of `X-Forwarded-For`, `X-Real-IP`, the peer, and `0.0.0.0`.  The first two need a
     peer that is believed.  What a header names (`Headers.Names`) is said of all its values: the
     first one counts, whether or not it is of any use.

  3. **Malformed values** (`HeaderValue.NamesNobody`) — a value that is not visible, is blank or denotes
     no address names nobody, just like no value (`Headers.names_erase`).

  4. **Headline** (`client_of_request`) — the program follows the rules, and the keys for clients see
     of the headers only whom these two name.  So a malformed value makes no key that is not there
     without it.
-/

namespace Turnstile

open Text

/-! ## Specification -/

/-- **Believed**: there is no range at all, or the peer lies in one. -/
def TrustedProxies.Believes (p : TrustedProxies) (peer : Option IpAddr) : Prop :=
  p.ranges = [] ∨ ∃ a, peer = some a ∧ ∃ c ∈ p.ranges, c.contains a = true

/-- The first of the entries between commas. -/
def firstEntry (t : List Char) : List Char := (split ',' t).headD []

/-- **Named**: the first value of a field is visible, and a part of it denotes the address. -/
def Headers.Names (name : String) (part : List Char → List Char) (h : Headers) (a : IpAddr) : Prop :=
  ∃ v more t, Headers.getAll h name = v :: more ∧ v.text? = some t ∧
    IpAddr.read? (trim (part t)) = some a

/-- **Listed first**: `X-Forwarded-For` names the address, in its first entry. -/
abbrev Headers.ListsFirst : Headers → IpAddr → Prop := Headers.Names "x-forwarded-for" firstEntry

/-- **Held**: `X-Real-IP` names the address. -/
abbrev Headers.Holds : Headers → IpAddr → Prop := Headers.Names "x-real-ip" id

/-- **Nobody**: a value that is not visible, or of which the part is blank or no address. -/
def HeaderValue.NamesNobody (part : List Char → List Char) (v : HeaderValue) : Prop :=
  v.text? = none ∨
    ∃ t, v.text? = some t ∧
      ((∀ c ∈ part t, isBlank c = true) ∨ IpAddr.read? (trim (part t)) = none)

/-- **Silent**: no header that is believed names anyone. -/
def Request.Silent (r : Request) (p : TrustedProxies) : Prop :=
  p.Believes r.peer → ∀ a, ¬ Headers.ListsFirst r.headers a ∧ ¬ Headers.Holds r.headers a

/-- **Resolved**: the text of the client of a request, by the first rule that applies. -/
inductive Resolved (p : TrustedProxies) (r : Request) : String → Prop
  | listed {a : IpAddr} (believed : p.Believes r.peer)
      (listed : Headers.ListsFirst r.headers a) : Resolved p r a.toString
  | held {a : IpAddr} (believed : p.Believes r.peer)
      (unlisted : ∀ b, ¬ Headers.ListsFirst r.headers b)
      (held : Headers.Holds r.headers a) : Resolved p r a.toString
  | peer {a : IpAddr} (silent : r.Silent p) (known : r.peer = some a) : Resolved p r a.toString
  | unknown (silent : r.Silent p) (unknown : r.peer = none) : Resolved p r "0.0.0.0"

/-- A request without the fields of one name. -/
def Request.without (r : Request) (name : String) : Request :=
  { r with headers := Headers.erase r.headers name }

/-! ## What the headers name -/

theorem TrustedProxies.trusts_iff_believes {p : TrustedProxies} {peer : Option IpAddr} :
    p.trusts peer = true ↔ p.Believes peer := by
  unfold trusts Believes
  rw [Bool.or_eq_true, List.isEmpty_iff]
  refine or_congr_right ?_
  cases peer with
  | none => simp
  | some a => simp

theorem firstEntry_eq (t : List Char) : firstEntry t = before ',' t := by
  obtain ⟨rest, hsplit⟩ := split_eq_before_cons ',' t
  unfold firstEntry
  rw [hsplit]
  rfl

/-- What is named is what is read of the first value. -/
theorem Headers.names_iff {name : String} {part : List Char → List Char} {h : Headers}
    {a : IpAddr} :
    Headers.Names name part h a ↔
      (Headers.text? h name).bind (fun t => IpAddr.read? (trim (part t))) = some a := by
  unfold Headers.Names Headers.text?
  rw [Headers.get?_eq_head?_getAll]
  cases Headers.getAll h name with
  | nil => simp
  | cons v more => simp [Option.bind_eq_some_iff]

theorem Headers.forwarded?_eq_some_iff {h : Headers} {a : IpAddr} :
    Headers.forwarded? h = some a ↔
      Headers.ListsFirst h a ∨ (∀ b, ¬ Headers.ListsFirst h b) ∧ Headers.Holds h a := by
  have hlisted (b : IpAddr) : Headers.forwardedFor? h = some b ↔ Headers.ListsFirst h b := by
    refine Iff.symm (Headers.names_iff.trans ?_)
    rw [funext firstEntry_eq]
    rfl
  have hheld (b : IpAddr) : Headers.realIp? h = some b ↔ Headers.Holds h b := Headers.names_iff.symm
  unfold Headers.forwarded?
  rw [Option.or_eq_some_iff, Option.eq_none_iff_forall_ne_some]
  simp only [ne_eq, hlisted, hheld]

/-! ## The rules -/

theorem Request.client_of_silent {r : Request} {p : TrustedProxies} (h : r.Silent p) :
    r.client p = r.peerAddress := by
  unfold client
  split
  · rename_i a named
    refine if_neg fun htrust => ?_
    have hsilent := h (TrustedProxies.trusts_iff_believes.mp htrust) a
    rcases Headers.forwarded?_eq_some_iff.mp named with hlisted | ⟨-, hheld⟩
    · exact hsilent.1 hlisted
    · exact hsilent.2 hheld
  · rfl

/-- The program follows each of the rules. -/
theorem Resolved.eq {p : TrustedProxies} {r : Request} {text : String} (h : Resolved p r text) :
    (r.client p).toString = text := by
  cases h with
  | listed believed listed =>
    have named := Headers.forwarded?_eq_some_iff.mpr (.inl listed)
    rw [Request.client_of_trusts (TrustedProxies.trusts_iff_believes.mpr believed) named]
  | held believed unlisted held =>
    have named := Headers.forwarded?_eq_some_iff.mpr (.inr ⟨unlisted, held⟩)
    rw [Request.client_of_trusts (TrustedProxies.trusts_iff_believes.mpr believed) named]
  | peer silent known =>
    rw [Request.client_of_silent silent, Request.toString_peerAddress, known]
    rfl
  | unknown silent unknown =>
    rw [Request.client_of_silent silent, Request.toString_peerAddress, unknown]
    rfl

/-- One of the rules applies. -/
theorem exists_resolved (p : TrustedProxies) (r : Request) : ∃ text, Resolved p r text := by
  by_cases hsilent : r.Silent p
  · cases hpeer : r.peer with
    | some a => exact ⟨_, .peer hsilent hpeer⟩
    | none => exact ⟨_, .unknown hsilent hpeer⟩
  · unfold Request.Silent at hsilent
    push Not at hsilent
    obtain ⟨believed, a, hnamed⟩ := hsilent
    by_cases hlisted : ∃ b, Headers.ListsFirst r.headers b
    · obtain ⟨b, hb⟩ := hlisted
      exact ⟨_, .listed believed hb⟩
    · have unlisted : ∀ b, ¬ Headers.ListsFirst r.headers b := fun b hb => hlisted ⟨b, hb⟩
      exact ⟨_, .held believed unlisted (hnamed (unlisted a))⟩

theorem resolved_iff {p : TrustedProxies} {r : Request} {text : String} :
    (r.client p).toString = text ↔ Resolved p r text := by
  constructor
  · rintro rfl
    obtain ⟨text, h⟩ := exists_resolved p r
    rwa [h.eq]
  · exact Resolved.eq

/-! ## Malformed values -/

theorem IpAddr.read?_trim_of_blank {t : List Char} (h : ∀ c ∈ t, isBlank c = true) :
    read? (trim t) = none := by
  have hnil : (trim t).isEmpty = true := by rw [isEmpty_trim, List.all_eq_true.mpr h]
  rw [List.isEmpty_iff.mp hnil]
  decide

theorem Headers.not_names {name : String} {part : List Char → List Char} {h : Headers}
    (nobody : ∀ v ∈ (Headers.getAll h name).head?, v.NamesNobody part) (a : IpAddr) :
    ¬ Headers.Names name part h a := by
  rintro ⟨v, more, t, hall, htext, hread⟩
  have hv : v.NamesNobody part := nobody v (by rw [hall]; rfl)
  rcases hv with hhidden | ⟨t', htext', hbad⟩
  · rw [hhidden] at htext
    cases htext
  · obtain rfl : t' = t := Option.some.inj (htext'.symm.trans htext)
    have hnone : IpAddr.read? (trim (part t')) = none := hbad.elim IpAddr.read?_trim_of_blank id
    rw [hnone] at hread
    cases hread

/-- **A field that names nobody may as well be left out.** -/
theorem Headers.names_erase {name : String} {part : List Char → List Char} {h : Headers}
    (nobody : ∀ v ∈ (Headers.getAll h name).head?, v.NamesNobody part) {name' : String}
    {part' : List Char → List Char} (hpart : name' = name → part' = part) (a : IpAddr) :
    Headers.Names name' part' (Headers.erase h name) a ↔ Headers.Names name' part' h a := by
  by_cases hname : name' = name
  · rw [hname, hpart hname]
    refine iff_of_false (Headers.not_names ?_ a) (Headers.not_names nobody a)
    intro v hv
    rw [Headers.getAll_erase_self] at hv
    cases hv
  · unfold Headers.Names
    rw [Headers.getAll_erase_other (Ne.symm hname)]

/-! ## Two requests -/

/-- The client depends on the peer and on whom the two headers name. -/
theorem Request.client_congr {r r' : Request} (p : TrustedProxies) (hpeer : r'.peer = r.peer)
    (hlists : ∀ a, Headers.ListsFirst r'.headers a ↔ Headers.ListsFirst r.headers a)
    (hholds : ∀ a, Headers.Holds r'.headers a ↔ Headers.Holds r.headers a) :
    r'.client p = r.client p := by
  have hnamed : Headers.forwarded? r'.headers = Headers.forwarded? r.headers := by
    refine Option.ext fun a => ?_
    simp only [Headers.forwarded?_eq_some_iff, hlists, hholds]
  unfold client peerAddress
  rw [hnamed, hpeer]

theorem KeyRule.key_congr {rule : KeyRule} (hrule : rule ≠ .path) {p : TrustedProxies}
    {r r' : Request} (hclient : r'.client p = r.client p) (hpath : r'.uri.path = r.uri.path) :
    rule.key p r' = rule.key p r := by
  cases rule with
  | ip => exact congrArg IpAddr.toString hclient
  | path => exact absurd rfl hrule
  | smart =>
    unfold key
    rw [hclient, hpath]

/-! ## Headline -/

/-- **Headline.**  The client of a request is found by the rules, of which the first that applies
counts.  And a key for clients, alone or with a part of the path, stays the same without
`X-Forwarded-For` if its first value names nobody, without `X-Real-IP` if its first value names
nobody, and with any other headers in which the two name the same. -/
theorem client_of_request (p : TrustedProxies) (r : Request) :
    (∀ text, (r.client p).toString = text ↔ Resolved p r text) ∧
    ∀ rule : KeyRule, rule ≠ .path →
      ((∀ v ∈ (Headers.getAll r.headers "x-forwarded-for").head?, v.NamesNobody firstEntry) →
        rule.key p (r.without "x-forwarded-for") = rule.key p r) ∧
      ((∀ v ∈ (Headers.getAll r.headers "x-real-ip").head?, v.NamesNobody id) →
        rule.key p (r.without "x-real-ip") = rule.key p r) ∧
      ∀ r' : Request, r'.peer = r.peer → r'.uri.path = r.uri.path →
        (∀ a, Headers.ListsFirst r'.headers a ↔ Headers.ListsFirst r.headers a) →
        (∀ a, Headers.Holds r'.headers a ↔ Headers.Holds r.headers a) →
        rule.key p r' = rule.key p r := by
  refine ⟨fun text => resolved_iff, fun rule hrule => ⟨?_, ?_, ?_⟩⟩
  · intro nobody
    have hlists (a : IpAddr) : Headers.ListsFirst (r.without "x-forwarded-for").headers a ↔
        Headers.ListsFirst r.headers a := Headers.names_erase nobody (fun _ => rfl) a
    have hholds (a : IpAddr) : Headers.Holds (r.without "x-forwarded-for").headers a ↔
        Headers.Holds r.headers a := Headers.names_erase nobody (fun h => absurd h (by decide)) a
    exact KeyRule.key_congr hrule (Request.client_congr p rfl hlists hholds) rfl
  · intro nobody
    have hlists (a : IpAddr) : Headers.ListsFirst (r.without "x-real-ip").headers a ↔
        Headers.ListsFirst r.headers a :=
      Headers.names_erase nobody (fun h => absurd h (by decide)) a
    have hholds (a : IpAddr) : Headers.Holds (r.without "x-real-ip").headers a ↔
        Headers.Holds r.headers a := Headers.names_erase nobody (fun _ => rfl) a
    exact KeyRule.key_congr hrule (Request.client_congr p rfl hlists hholds) rfl
  · intro r' hpeer hpath hlists hholds
    exact KeyRule.key_congr hrule (Request.client_congr p hpeer hlists hholds) hpath

/-- A trusted peer whose list begins with no address, one whose other field holds none, and one that
sends another text in place of the list. -/
theorem client_of_request_of_three :
    let p := TrustedProxies.ofTexts ["192.0.2.0/24"]
    let sent (headers : Headers) : Request :=
      ⟨"GET", ⟨none, none, "/gateway/rate/users", none⟩, headers, [], IpAddr.parse? "192.0.2.1"⟩
    let r := sent [("x-forwarded-for", .ofString "garbage, 10.0.0.1"),
      ("x-real-ip", .ofString " 10.9.8.7"), ("x-forwarded-for", .ofString "10.0.0.2")]
    let s := sent [("x-forwarded-for", .ofString "10.0.0.1"), ("x-real-ip", .ofString "bogus")]
    let r' := sent [("x-real-ip", .ofString " 10.9.8.7"), ("x-forwarded-for", .ofString "<script>")]
    Resolved p r "10.9.8.7" ∧
    (∀ v ∈ (Headers.getAll r.headers "x-forwarded-for").head?, v.NamesNobody firstEntry) ∧
    KeyRule.smart.key p (r.without "x-forwarded-for") = KeyRule.smart.key p r ∧
    (∀ v ∈ (Headers.getAll s.headers "x-real-ip").head?, v.NamesNobody id) ∧
    KeyRule.ip.key p (s.without "x-real-ip") = KeyRule.ip.key p s ∧
    r'.peer = r.peer ∧ r'.uri.path = r.uri.path ∧
    (∀ a, Headers.ListsFirst r'.headers a ↔ Headers.ListsFirst r.headers a) ∧
    (∀ a, Headers.Holds r'.headers a ↔ Headers.Holds r.headers a) ∧
    KeyRule.smart.key p r' = KeyRule.smart.key p r ∧
    KeyRule.smart.key p r = "10.9.8.7:users" := by
  intro p sent r s r'
  have nobody {h : Headers} {name : String} {part : List Char → List Char} {v : HeaderValue}
      (hfirst : (Headers.getAll h name).head? = some v) {t : List Char} (ht : v.text? = some t)
      (hpart : IpAddr.read? (trim (part t)) = none) :
      ∀ v ∈ (Headers.getAll h name).head?, v.NamesNobody part := by
    intro w hw
    rw [hfirst] at hw
    cases hw
    exact .inr ⟨t, ht, .inr hpart⟩
  have garbage : ∀ v ∈ (Headers.getAll r.headers "x-forwarded-for").head?,
      v.NamesNobody firstEntry :=
    nobody (v := .ofString "garbage, 10.0.0.1") (by decide +kernel)
      (t := "garbage, 10.0.0.1".toList) (by decide +kernel) (by decide +kernel)
  have bogus : ∀ v ∈ (Headers.getAll s.headers "x-real-ip").head?, v.NamesNobody id :=
    nobody (v := .ofString "bogus") (by decide +kernel) (t := "bogus".toList) (by decide +kernel)
      (by decide +kernel)
  have script : ∀ v ∈ (Headers.getAll r'.headers "x-forwarded-for").head?,
      v.NamesNobody firstEntry :=
    nobody (v := .ofString "<script>") (by decide +kernel) (t := "<script>".toList)
      (by decide +kernel) (by decide +kernel)
  have hlists (a : IpAddr) :
      Headers.ListsFirst r'.headers a ↔ Headers.ListsFirst r.headers a :=
    iff_of_false (Headers.not_names script a) (Headers.not_names garbage a)
  have hholds (a : IpAddr) : Headers.Holds r'.headers a ↔ Headers.Holds r.headers a := by
    have hall : Headers.getAll r'.headers "x-real-ip" = Headers.getAll r.headers "x-real-ip" := by
      decide +kernel
    unfold Headers.Holds Headers.Names
    rw [hall]
  obtain ⟨hresolved, hkeys⟩ := client_of_request p r
  obtain ⟨hunlisted, -, hother⟩ := hkeys .smart (by decide)
  obtain ⟨-, hunheld, -⟩ := (client_of_request p s).2 .ip (by decide)
  exact ⟨(hresolved _).mp (by decide +kernel), garbage, hunlisted garbage, bogus, hunheld bogus, rfl,
    rfl, hlists, hholds, hother r' rfl rfl hlists hholds, by decide +kernel⟩

end Turnstile
