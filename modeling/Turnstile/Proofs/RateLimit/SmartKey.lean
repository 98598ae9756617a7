import Turnstile.Proofs.Address.RoundTrip
import Turnstile.RateLimit.Key
/-!
  Which requests the smart rule counts together.

  1. **The question** — a smart key is the text of the client, a colon and a segment of the path,
     and nothing is escaped.  Can the key of one client and segment be that of another?

  2. **Families** (`dot_mem_before_iff`) — the text of an IPv4 address has a dot in front of its
     first colon and no colon, that of an IPv6 address has no such dot.  So a key shows the family
     of its client, and the key of an IPv4 client can be cut in one place only.

  3. **Colons** (`cancel_of_count_eq`) — a text is cut at one of its colons.  If the parts after two
     cuts have as many colons, the cuts are the same.

  4. **Headline** (`smart_key_eq_iff`) — so two keys are equal exactly if clients and segments are,
     where one client has an IPv4 address or the segments have as many colons.  Between IPv6 clients
     a colon in a segment can stand for one in an address (`smart_keys_of_neighbours_collide`).
-/

namespace Turnstile

open Text

/-! ## Cutting a text at a colon -/

/-- The text before the first separator is nothing but text in front of any separator. -/
theorem Text.mem_of_mem_before {sep c : Char} {a b : List Char}
    (hc : c ∈ before sep (a ++ sep :: b)) : c ∈ a := by
  induction a with
  | nil => simp [before] at hc
  | cons d r ih =>
    by_cases hd : d = sep
    · simp [before, hd] at hc
    · simp only [before, List.cons_append, List.takeWhile_cons, ne_eq, hd, not_false_eq_true,
        decide_true, if_true, List.mem_cons] at hc
      rcases hc with rfl | hc
      · exact List.mem_cons_self
      · exact List.mem_cons_of_mem _ (ih hc)

/-- Without a separator in front of the cut, the cut is at the first one. -/
theorem Text.cancel_of_not_mem {sep : Char} {a b s t : List Char} (ha : sep ∉ a) (hb : sep ∉ b)
    (h : a ++ sep :: s = b ++ sep :: t) : a = b ∧ s = t := by
  have hfirst : a = b := by
    rw [← before_append ha (b := sep :: s) (by simp), h, before_append hb (by simp)]
  subst hfirst
  exact ⟨rfl, (List.cons.inj (List.append_cancel_left h)).2⟩

/-- Two cuts with as many separators after them are the same cut. -/
theorem Text.cancel_of_count_eq {sep : Char} {a b s t : List Char}
    (h : a ++ sep :: s = b ++ sep :: t) (hcount : s.count sep = t.count sep) : a = b ∧ s = t := by
  -- the later of two cuts would leave the separator of the earlier one behind
  have hnot : ∀ c u v : List Char, c ≠ [] → sep :: u = c ++ sep :: v →
      v.count sep < u.count sep := by
    intro c u v hc huv
    obtain ⟨d, r, rfl⟩ := List.exists_cons_of_ne_nil hc
    rw [List.cons_append] at huv
    obtain ⟨-, rfl⟩ := List.cons.inj huv
    rw [List.count_append, List.count_cons_self]
    omega
  rcases List.append_eq_append_iff.mp h with ⟨c, rfl, htail⟩ | ⟨c, rfl, htail⟩
  · by_cases hc : c = []
    · subst hc
      exact ⟨(List.append_nil a).symm, (List.cons.inj htail).2⟩
    · have hlt := hnot c s t hc htail
      omega
  · by_cases hc : c = []
    · subst hc
      exact ⟨List.append_nil b, (List.cons.inj htail).2.symm⟩
    · have hlt := hnot c t s hc htail
      omega

/-! ## Families -/

namespace IpAddr

theorem dot_mem_dottedText (bits : BitVec 32) : '.' ∈ dottedText bits := by
  simp [dottedText, List.intercalate_cons_cons]

/-- **The first part of a key shows the family of its client.** -/
theorem dot_mem_before_iff (a : IpAddr) (t : List Char) :
    '.' ∈ before ':' (a.text ++ ':' :: t) ↔ a.width = 32 := by
  cases a with
  | v4 bits =>
    have hbefore : before ':' ((v4 bits).text ++ ':' :: t) = dottedText bits :=
      before_append (colon_not_mem_dottedText bits) (by simp)
    simp [hbefore, dot_mem_dottedText, width]
  | v6 bits =>
    have hnot : '.' ∉ before ':' ((v6 bits).text ++ ':' :: t) := by
      rw [text_v6]
      split
      · simp [mappedText, before]
      · exact fun h => dot_not_mem_colonText _ (mem_of_mem_before h)
    simp [hnot, width]

theorem colon_not_mem_text {a : IpAddr} (h : a.width = 32) : ':' ∉ a.text := by
  cases a with
  | v4 bits => exact colon_not_mem_dottedText bits
  | v6 bits => exact absurd h (by simp [width])

end IpAddr

/-! ## Headline -/

namespace KeyRule

/-- The part of the interface that a request uses, as the smart rule sees it. -/
abbrev part (r : Request) : List Char := segment r.uri.path.toList

theorem smart_key_eq (proxies : TrustedProxies) (r : Request) :
    smart.key proxies r = String.ofList ((r.client proxies).text ++ ':' :: part r) := rfl

/-- **Headline.**  Two requests have one smart key exactly if clients and parts of the interface are
the same, where one of the clients has an IPv4 address or the parts have as many colons, for
instance none. -/
theorem smart_key_eq_iff {proxies : TrustedProxies} {r r' : Request}
    (h : (r.client proxies).width = 32 ∨ (r'.client proxies).width = 32 ∨
      (part r).count ':' = (part r').count ':') :
    smart.key proxies r = smart.key proxies r' ↔
      r.client proxies = r'.client proxies ∧ part r = part r' := by
  rw [smart_key_eq, smart_key_eq, String.ofList_inj]
  constructor
  · intro heq
    have hcut : (r.client proxies).text = (r'.client proxies).text ∧ part r = part r' := by
      have hfamily : (r.client proxies).width = 32 ↔ (r'.client proxies).width = 32 := by
        rw [← IpAddr.dot_mem_before_iff _ (part r), heq, IpAddr.dot_mem_before_iff]
      rcases h with hv4 | hv4 | hcount
      · exact cancel_of_not_mem (IpAddr.colon_not_mem_text hv4)
          (IpAddr.colon_not_mem_text (hfamily.mp hv4)) heq
      · exact cancel_of_not_mem (IpAddr.colon_not_mem_text (hfamily.mpr hv4))
          (IpAddr.colon_not_mem_text hv4) heq
      · exact cancel_of_count_eq heq hcount
    exact ⟨IpAddr.text_injective hcut.1, hcut.2⟩
  · rintro ⟨hclient, hpart⟩
    rw [hclient, hpart]

/-- Two IPv6 clients of which one continues the other, and parts without colons. -/
theorem smart_key_eq_iff_of_neighbours :
    let r : Request := ⟨"GET", ⟨none, none, "/gateway/rate/3", none⟩, [], [], IpAddr.parse? "1::2"⟩
    let r' : Request :=
      ⟨"GET", ⟨none, none, "/gateway/rate/x/3", none⟩, [], [], IpAddr.parse? "1::2:3"⟩
    ((r.client ⟨[]⟩).width = 32 ∨ (r'.client ⟨[]⟩).width = 32 ∨
      (part r).count ':' = (part r').count ':') ∧
    (smart.key ⟨[]⟩ r = smart.key ⟨[]⟩ r' ↔ r.client ⟨[]⟩ = r'.client ⟨[]⟩ ∧ part r = part r') ∧
    smart.key ⟨[]⟩ r = "1::2:3" ∧ smart.key ⟨[]⟩ r' = "1::2:3:x" := by
  intro r r'
  have hcount : (part r).count ':' = (part r').count ':' := by decide
  exact ⟨.inr (.inr hcount), smart_key_eq_iff (.inr (.inr hcount)), by decide +kernel,
    by decide +kernel⟩

/-- **A colon in a part can stand for one in an address**: two IPv6 clients, using different parts,
have one key, so each spends what is allowed to the other. -/
theorem smart_keys_of_neighbours_collide :
    let r : Request :=
      ⟨"GET", ⟨none, none, "/gateway/rate/3:x", none⟩, [], [], IpAddr.parse? "1::2"⟩
    let r' : Request :=
      ⟨"GET", ⟨none, none, "/gateway/rate/x", none⟩, [], [], IpAddr.parse? "1::2:3"⟩
    smart.key ⟨[]⟩ r = smart.key ⟨[]⟩ r' ∧ r.client ⟨[]⟩ ≠ r'.client ⟨[]⟩ ∧ part r ≠ part r' := by
  decide +kernel

end KeyRule

end Turnstile
