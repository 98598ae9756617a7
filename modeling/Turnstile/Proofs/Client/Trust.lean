import Turnstile.Client
/-!
  When a peer that is no trusted proxy can name the client.

  1. **Outsiders** (`Outside`) — a peer that is unknown or lies in no range.  Where there is a
     range, an outsider is not trusted (`not_trusts_of_outside`); where there is none, everyone is.

  2. **Not trusted** (`client_of_not_trusts`) — the forwarding headers of such a peer are not looked
     at: the client is the peer, or the address that stands for an unknown one.

  3. **Headline** (`clients_of_outsiders_iff`) — texts that denote no range are passed over, so what
     counts is whether any text is left: an outsider is taken for what it is, whatever it sends,
     exactly if one of the texts denotes a range.  If all of them are malformed, everyone is
     believed (`client_of_malformed_ranges`).
-/

namespace Turnstile

namespace TrustedProxies

/-- **Outside**: the peer is unknown, or lies in no range. -/
def Outside (p : TrustedProxies) (peer : Option IpAddr) : Prop :=
  ∀ a ∈ peer, ∀ c ∈ p.ranges, c.contains a = false

theorem not_trusts_of_outside {p : TrustedProxies} {peer : Option IpAddr} (hp : p.ranges ≠ [])
    (outside : p.Outside peer) : p.trusts peer = false := by
  have hany : p.ranges.isEmpty = false := by simpa using hp
  unfold trusts
  rw [hany, Bool.false_or]
  cases peer with
  | none => rfl
  | some a =>
    refine List.any_eq_false.mpr fun c hc => ?_
    rw [outside a rfl c hc]
    exact Bool.false_ne_true

theorem trusts_of_ranges_eq_nil {p : TrustedProxies} (hp : p.ranges = []) (peer : Option IpAddr) :
    p.trusts peer = true := by
  unfold trusts
  rw [hp]
  rfl

/-- Ranges are left exactly if some text denotes one. -/
theorem ranges_ofTexts_ne_nil_iff (texts : List String) :
    (ofTexts texts).ranges ≠ [] ↔ ∃ t ∈ texts, (Cidr.parse? t).isSome := by
  constructor
  · intro hne
    obtain ⟨c, hc⟩ := List.exists_mem_of_ne_nil _ hne
    obtain ⟨t, ht, hparse⟩ := List.mem_filterMap.mp hc
    exact ⟨t, ht, Option.isSome_of_eq_some hparse⟩
  · rintro ⟨t, ht, hsome⟩ hnil
    obtain ⟨c, hparse⟩ := Option.isSome_iff_exists.mp hsome
    have hc : c ∈ (ofTexts texts).ranges := List.mem_filterMap.mpr ⟨t, ht, hparse⟩
    rw [hnil] at hc
    exact List.not_mem_nil hc

end TrustedProxies

open TrustedProxies

/-! ## The client -/

/-- **What is not trusted is not looked at.** -/
theorem Request.client_of_not_trusts {p : TrustedProxies} {r : Request}
    (h : p.trusts r.peer = false) : r.client p = r.peerAddress := by
  unfold client
  split
  · rw [h]
    exact if_neg Bool.false_ne_true
  · rfl

theorem Request.client_of_trusts {p : TrustedProxies} {r : Request} {a : IpAddr}
    (h : p.trusts r.peer = true) (named : Headers.forwarded? r.headers = some a) :
    r.client p = a := by
  unfold client
  rw [named]
  exact if_pos h

/-- The text of a peer, and of an unknown one. -/
theorem Request.toString_peerAddress (r : Request) :
    r.peerAddress.toString = (r.peer.map IpAddr.toString).getD "0.0.0.0" := by
  unfold peerAddress
  cases r.peer with
  | none => decide
  | some a => rfl

/-! ## Headline -/

/-- Some request from any given peer names another client. -/
theorem exists_forwarded_ne (peer : Option IpAddr) (text : String) :
    ∃ r : Request, r.peer = peer ∧ ∃ a, Headers.forwarded? r.headers = some a ∧
      a.toString ≠ text := by
  -- two addresses have different texts, so one of them differs from the given text
  have naming (value : String) (a : IpAddr) (h : Headers.forwarded?
      [("x-forwarded-for", .ofString value)] = some a) (hne : a.toString ≠ text) :
      ∃ r : Request, r.peer = peer ∧ ∃ a, Headers.forwarded? r.headers = some a ∧
        a.toString ≠ text :=
    ⟨⟨"GET", ⟨none, none, "/", none⟩, [("x-forwarded-for", .ofString value)], [], peer⟩, rfl,
      a, h, hne⟩
  by_cases htext : text = "0.0.0.1"
  · exact naming "0.0.0.2" (.v4 2) (by decide +kernel) (by rw [htext]; decide +kernel)
  · refine naming "0.0.0.1" (.v4 1) (by decide +kernel) fun heq => htext ?_
    rw [← heq]
    decide +kernel

/-- **Headline.**  Requests from outside of all ranges are taken to come from the peer itself, or
from `0.0.0.0` if it is not known, whatever their headers say, exactly if some text denotes a
range. -/
theorem clients_of_outsiders_iff {texts : List String} {peer : Option IpAddr}
    (outside : (ofTexts texts).Outside peer) :
    (∀ r : Request, r.peer = peer →
      (r.client (ofTexts texts)).toString = (peer.map IpAddr.toString).getD "0.0.0.0") ↔
    ∃ t ∈ texts, (Cidr.parse? t).isSome := by
  rw [← ranges_ofTexts_ne_nil_iff]
  constructor
  · intro hall hnil
    obtain ⟨r, hpeer, a, named, hne⟩ :=
      exists_forwarded_ne peer ((peer.map IpAddr.toString).getD "0.0.0.0")
    refine hne ?_
    rw [← Request.client_of_trusts (trusts_of_ranges_eq_nil hnil r.peer) named]
    exact hall r hpeer
  · rintro hne r rfl
    rw [Request.client_of_not_trusts (not_trusts_of_outside hne outside),
      Request.toString_peerAddress]

/-- One malformed text and one range, and a peer that lies outside of it. -/
theorem clients_of_outsiders_iff_of_mixed :
    let texts := ["10.0.0.0/33", "10.0.0.0/8"]
    let peer := IpAddr.parse? "192.0.2.1"
    (ofTexts texts).Outside peer ∧
    ((∀ r : Request, r.peer = peer →
      (r.client (ofTexts texts)).toString = (peer.map IpAddr.toString).getD "0.0.0.0") ↔
    ∃ t ∈ texts, (Cidr.parse? t).isSome) := by
  intro texts peer
  have outside : (ofTexts texts).Outside peer := by
    have hpeer : peer = some (.v4 0xC0000201) := by decide +kernel
    have hranges : (ofTexts texts).ranges = [⟨.v4 0x0A000000, 8⟩] := by decide +kernel
    intro a ha c hc
    rw [hpeer] at ha
    rw [hranges] at hc
    cases ha
    cases List.mem_singleton.mp hc
    decide
  exact ⟨outside, clients_of_outsiders_iff outside⟩

/-- **Malformed ranges shut nobody out**: the only text denotes no range, and a peer outside of it
names the client that it likes. -/
theorem client_of_malformed_ranges :
    let texts := ["10.0.0.0/33"]
    let r : Request := ⟨"GET", ⟨none, none, "/", none⟩,
      [("x-forwarded-for", .ofString "203.0.113.9")], [], IpAddr.parse? "192.0.2.1"⟩
    texts ≠ [] ∧ (ofTexts texts).Outside r.peer ∧
    (r.client (ofTexts texts)).toString = "203.0.113.9" ∧
    r.peerAddress.toString = "192.0.2.1" := by
  intro texts r
  have hnone : (ofTexts texts).ranges = [] := by decide +kernel
  have outside : (ofTexts texts).Outside r.peer := by
    intro a _ c hc
    rw [hnone] at hc
    exact absurd hc List.not_mem_nil
  exact ⟨by decide, outside, by decide +kernel, by decide +kernel⟩

end Turnstile
