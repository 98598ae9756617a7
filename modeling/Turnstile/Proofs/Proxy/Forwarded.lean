import Turnstile.Proofs.Address.RoundTrip
import Turnstile.Proofs.Proxy.Fields
import Turnstile.Proofs.Text.Bytes
import Turnstile.Proofs.Text.Entries
/-!
  The addresses that a request came through.

  1. **Specification** (`cameThrough`) — every value of `X-Forwarded-For` is a list of addresses,
     and all values together are one list.

  2. **What is read of it** (`readThrough`, `unreadThrough`) — only the first value, and this only
     if it is visible.  Everything else is replaced together with it (`cameThrough_eq`).

  3. **Headline** (`forwarded_addresses`) — the destination gets one value, with the addresses that
     were read and the peer after them.  So nothing is lost exactly if nothing stands in what is not
     read; with two values it is (`forwarded_addresses_lost`).
-/

namespace Turnstile

/-- The entries of the list that a value is. -/
def HeaderValue.entries (v : HeaderValue) : List (List Char) := Text.entries (Text.ofOctets v.bytes)

theorem HeaderValue.entries_ofText {t : List Char} (h : ∀ c ∈ t, c.toNat < 128) :
    (ofText t).entries = Text.entries t :=
  congrArg Text.entries (Text.ofOctets_encode h)

/-- The text of a value is ASCII. -/
theorem HeaderValue.ascii_of_text? {v : HeaderValue} {t : List Char} (ht : v.text? = some t) :
    ∀ c ∈ t, c.toNat < 128 := by
  obtain ⟨hvisible, rfl⟩ := text?_eq_some_iff.mp ht
  intro c hc
  obtain ⟨b, hb, rfl⟩ := List.mem_map.mp hc
  have hchar : (Char.ofUInt8 b).toNat = b.toNat := rfl
  have hb := List.all_eq_true.mp hvisible b hb
  unfold isVisible at hb
  rw [decide_eq_true_iff] at hb
  rw [hchar]
  rcases hb with rfl | ⟨-, hto⟩
  · decide
  · have hto : b.toNat ≤ 126 := hto
    omega

theorem HeaderValue.entries_of_text? {v : HeaderValue} {t : List Char} (ht : v.text? = some t) :
    v.entries = Text.entries t :=
  congrArg Text.entries (text?_eq_some_iff.mp ht).2

namespace IpAddr

/-- Of the ASCII characters, those that are white space come before those of an address. -/
theorem isBlank_of_mem_text {a : IpAddr} {c : Char} (hc : c ∈ a.text) : Text.isBlank c = false := by
  have hascii := ascii_of_mem_text hc
  by_contra hblank
  have hlow : c.toNat ≤ 32 := by
    rw [Bool.not_eq_false] at hblank
    unfold Text.isBlank at hblank
    simp only [Bool.or_eq_true, Bool.and_eq_true, decide_eq_true_eq, beq_iff_eq] at hblank
    omega
  have hother {d : Char} (hd : 32 < d.toNat) : c ≠ d := fun heq =>
    absurd (heq ▸ hd) (Nat.not_lt.mpr hlow)
  have hdigit (d : Nat) : Nat.digitChar d ≠ c := Nat.digitChar_ne c (by simp [hother])
  exact not_mem_text hdigit (hother (by decide)) (hother (by decide)) a hc

/-- An address is one entry. -/
theorem entries_text (a : IpAddr) : Text.entries a.text = [a.text] := by
  have hcomma : ',' ∉ a.text :=
    not_mem_text (fun _ => Nat.digitChar_ne _ (by decide)) (by decide) (by decide) a
  exact Text.entries_of_entry a.text_ne_nil hcomma fun c => isBlank_of_mem_text

end IpAddr

/-- A list to which an address is added. -/
theorem HeaderValue.entries_added {t : List Char} (ht : ∀ c ∈ t, c.toNat < 128) (a : IpAddr) :
    (ofText (t ++ ", ".toList ++ a.text)).entries = Text.entries t ++ [a.text] := by
  have hascii : ∀ c ∈ t ++ ", ".toList ++ a.text, c.toNat < 128 := by
    intro c hc
    simp only [List.mem_append] at hc
    rcases hc with (hc | hc) | hc
    · exact ht c hc
    · have hcomma : c = ',' ∨ c = ' ' := by simpa using hc
      rcases hcomma with rfl | rfl
      · decide
      · decide
    · exact IpAddr.ascii_of_mem_text hc
  calc (ofText (t ++ ", ".toList ++ a.text)).entries
    _ = Text.entries (t ++ ", ".toList ++ a.text) := entries_ofText hascii
    _ = Text.entries (t ++ ',' :: ' ' :: a.text) := by rw [List.append_assoc]; rfl
    _ = Text.entries t ++ [a.text] := by
        rw [Text.entries_comma, Text.entries_space, a.entries_text]

namespace Proxy

open Text

/-! ## Specification -/

/-- **The addresses of a request**: what all values of `X-Forwarded-For` list, in order. -/
def cameThrough (h : Headers) : List (List Char) :=
  (Headers.getAll h forwardedForName).flatMap HeaderValue.entries

/-- What is read of it: the first value, if it has a text. -/
def readThrough (h : Headers) : List (List Char) :=
  match Headers.getAll h forwardedForName with
  | [] => []
  | v :: _ => if v.text?.isSome then v.entries else []

/-- What is not: a first value without text, and the values after the first one. -/
def unreadThrough (h : Headers) : List (List Char) :=
  match Headers.getAll h forwardedForName with
  | [] => []
  | v :: more => (if v.text?.isSome then [] else v.entries) ++ more.flatMap HeaderValue.entries

theorem cameThrough_eq (h : Headers) : cameThrough h = readThrough h ++ unreadThrough h := by
  unfold cameThrough readThrough unreadThrough
  cases Headers.getAll h forwardedForName with
  | nil => rfl
  | cons v more =>
    dsimp only
    rw [List.flatMap_cons]
    split
    · rw [List.nil_append]
    · rw [List.nil_append]

/-! ## The new value -/

/-- **The chain grows**: what was read of it, and the peer after that. -/
theorem entries_forwardedFor (h : Headers) (peer : IpAddr) :
    (forwardedFor h peer).entries = readThrough h ++ [peer.text] := by
  have halone : (HeaderValue.ofText peer.text).entries = [peer.text] := by
    rw [HeaderValue.entries_ofText fun c => IpAddr.ascii_of_mem_text, peer.entries_text]
  unfold forwardedFor Headers.text? readThrough
  rw [Headers.get?_eq_head?_getAll]
  cases Headers.getAll h forwardedForName with
  | nil => exact halone
  | cons v more =>
    dsimp only [List.head?_cons, Option.bind_some]
    cases ht : v.text? with
    | none => exact halone
    | some t =>
      dsimp only [Option.isSome_some]
      rw [if_pos rfl, HeaderValue.entries_of_text? ht]
      split
      · rename_i hblank
        rw [entries_of_blank hblank, halone]
        rfl
      · exact HeaderValue.entries_added (HeaderValue.ascii_of_text? ht) peer

/-- The destination gets the new value, and no other. -/
theorem getAll_requestFields_forwardedFor (h : Headers) (peer : IpAddr) :
    Headers.getAll (requestFields h (some peer)) forwardedForName = [forwardedFor h peer] := by
  have hpeer : Headers.getAll (withPeer h (some peer)) forwardedForName = [forwardedFor h peer] :=
    Headers.getAll_insert_self _ _ _
  rw [requestFields_eq]
  split
  · split
    · rw [Headers.getAll_insert_other (by decide), hpeer]
    · exact hpeer
  · exact hpeer

/-! ## Headline -/

/-- **Headline.**  A request is forwarded with one value of `X-Forwarded-For`.  It lists the
addresses that were read and the peer after them, and so all addresses of the request and the peer
exactly if there are none in what is not read: in a first value that is not visible, or in a value
after the first. -/
theorem forwarded_addresses (h : Headers) (peer : IpAddr) :
    ∃ v, Headers.getAll (requestFields h (some peer)) forwardedForName = [v] ∧
      v.entries = readThrough h ++ [peer.text] ∧
      (v.entries = cameThrough h ++ [peer.text] ↔ unreadThrough h = []) := by
  have hentries := entries_forwardedFor h peer
  refine ⟨forwardedFor h peer, getAll_requestFields_forwardedFor h peer, hentries, ?_⟩
  rw [hentries, cameThrough_eq]
  constructor
  · intro heq
    have hread := List.append_cancel_right heq
    exact List.self_eq_append_right.mp hread
  · intro hnone
    rw [hnone, List.append_nil]

/-- Two values, with one address each: the second address is lost. -/
theorem forwarded_addresses_lost :
    let h : Headers := [(forwardedForName, .ofString "192.0.2.1"),
      (forwardedForName, .ofString "192.0.2.2")]
    let peer : IpAddr := .v4 0xCB007107
    cameThrough h = ["192.0.2.1".toList, "192.0.2.2".toList] ∧
    Headers.getAll (requestFields h (some peer)) forwardedForName =
      [.ofString "192.0.2.1, 203.0.113.7"] ∧
    ∀ v ∈ Headers.getAll (requestFields h (some peer)) forwardedForName,
      v.entries ≠ cameThrough h ++ [peer.text] := by
  intro h peer
  have hchain : cameThrough h = ["192.0.2.1".toList, "192.0.2.2".toList] := by decide +kernel
  have hforwarded : Headers.getAll (requestFields h (some peer)) forwardedForName =
      [.ofString "192.0.2.1, 203.0.113.7"] := by decide +kernel
  have hlost : (HeaderValue.ofString "192.0.2.1, 203.0.113.7").entries ≠
      cameThrough h ++ [peer.text] := by decide +kernel
  refine ⟨hchain, hforwarded, fun v hv => ?_⟩
  rw [hforwarded, List.mem_singleton] at hv
  rw [hv]
  exact hlost

end Proxy

end Turnstile
