import Turnstile.Proxy.Outbound
/-!
  Which fields of a request reach the destination.

  1. **Specification** — all values of a name, in order, are what counts of a field.  Of every name
     it is said what becomes of its values.

  2. **Passed on** (`getAll_endToEnd`) — a name that concerns one connection, be it always or
     because the `Connection` fields of this request list it, loses all its values; every other name
     keeps all of them.

  3. **The proxy's own** (`getAll_requestFields`, `getAll_requestFields_forwardedHost`) — only
     `Host`, `X-Forwarded-For` and `X-Forwarded-Host` get other values.

  4. **Over the connection** (`getAll_fields`) — what is added for the destination concerns five
     names and leaves the others alone.
-/

namespace Turnstile.Proxy

open Text

/-! ## Fields that are passed on -/

/-- **All or none**: a name is passed on with all its values, or not at all. -/
theorem getAll_endToEnd (h : Headers) (name : String) :
    Headers.getAll (endToEnd h) name =
      if isEndToEnd (connectionTokens h) name then Headers.getAll h name else [] :=
  Headers.getAll_filter (isEndToEnd (connectionTokens h)) h name

/-- **Listed**: the `Connection` fields name a field. -/
def Listed (h : Headers) (name : String) : Prop := name.toList ∈ connectionTokens h

instance (h : Headers) (name : String) : Decidable (Listed h name) :=
  inferInstanceAs (Decidable (name.toList ∈ connectionTokens h))

/-- What a client lists depends on its `Connection` fields only. -/
theorem listed_iff_of_getAll_eq {h h' : Headers}
    (heq : Headers.getAll h "connection" = Headers.getAll h' "connection") (name : String) :
    Listed h name ↔ Listed h' name := by
  unfold Listed connectionTokens
  rw [heq]

/-- Of the names that do not always concern one connection, the listed ones are kept back. -/
theorem getAll_endToEnd_of_not_mem {name : String} (hhop : name ∉ hopByHop)
    (hlength : name ≠ "content-length") (h : Headers) :
    Headers.getAll (endToEnd h) name = if Listed h name then [] else Headers.getAll h name := by
  rw [getAll_endToEnd]
  unfold isEndToEnd
  rw [decide_eq_true hhop, bne_iff_ne.mpr hlength, Bool.and_self, Bool.true_and]
  by_cases hlisted : Listed h name
  · have hmem : name.toList ∈ connectionTokens h := hlisted
    rw [if_pos hlisted, if_neg (by simpa using hmem)]
  · have hmem : name.toList ∉ connectionTokens h := hlisted
    rw [if_neg hlisted, if_pos (decide_eq_true hmem)]

/-! ## Fields of the proxy -/

/-- The fields that are passed on without the host, and with the peer. -/
def withPeer (h : Headers) (peer : Option IpAddr) : Headers :=
  match peer with
  | some a => Headers.insert (Headers.erase (endToEnd h) "host") forwardedForName (forwardedFor h a)
  | none => Headers.erase (endToEnd h) "host"

theorem requestFields_eq (h : Headers) (peer : Option IpAddr) :
    requestFields h peer =
      match Headers.get? (endToEnd h) "host" with
      | some v =>
        if (Headers.get? (withPeer h peer) forwardedHostName).isNone then
          Headers.insert (withPeer h peer) forwardedHostName v
        else withPeer h peer
      | none => withPeer h peer := rfl

theorem getAll_withPeer {name : String} (hhost : name ≠ "host") (hfor : name ≠ forwardedForName)
    (h : Headers) (peer : Option IpAddr) :
    Headers.getAll (withPeer h peer) name = Headers.getAll (endToEnd h) name := by
  cases peer with
  | none => exact Headers.getAll_erase_other hhost.symm _
  | some a =>
    exact (Headers.getAll_insert_other hfor.symm _ _).trans
      (Headers.getAll_erase_other hhost.symm _)

/-- **Other names** are passed on as they are. -/
theorem getAll_requestFields {name : String} (hhost : name ≠ "host")
    (hfor : name ≠ forwardedForName) (hforHost : name ≠ forwardedHostName) (h : Headers)
    (peer : Option IpAddr) :
    Headers.getAll (requestFields h peer) name = Headers.getAll (endToEnd h) name := by
  rw [requestFields_eq, ← getAll_withPeer hhost hfor h peer]
  split
  · split
    · exact Headers.getAll_insert_other hforHost.symm _ _
    · rfl
  · rfl

/-- **The host that was asked for** is put into `X-Forwarded-Host`, unless this is passed on with a
value already. -/
theorem getAll_requestFields_forwardedHost (h : Headers) (peer : Option IpAddr) :
    Headers.getAll (requestFields h peer) forwardedHostName =
      if Headers.getAll (endToEnd h) forwardedHostName = [] then
        (Headers.get? (endToEnd h) "host").toList
      else Headers.getAll (endToEnd h) forwardedHostName := by
  have hkept : Headers.getAll (withPeer h peer) forwardedHostName =
      Headers.getAll (endToEnd h) forwardedHostName :=
    getAll_withPeer (by decide) (by decide) h peer
  -- what decides is the field as it is passed on, not as it came in
  have hnone : (Headers.get? (withPeer h peer) forwardedHostName).isNone = true ↔
      Headers.getAll (endToEnd h) forwardedHostName = [] := by
    rw [Headers.get?_eq_head?_getAll, hkept, Option.isNone_iff_eq_none, List.head?_eq_none_iff]
  rw [requestFields_eq]
  cases Headers.get? (endToEnd h) "host" with
  | none =>
    dsimp only
    rw [hkept]
    split
    · assumption
    · rfl
  | some v =>
    dsimp only
    split
    · rw [if_pos (hnone.mp ‹_›), Headers.getAll_insert_self]
      rfl
    · rw [if_neg (mt hnone.mpr ‹_›), hkept]

end Turnstile.Proxy

/-! ## Fields over the connection -/

namespace Turnstile.Outbound

open Proxy

theorem getAll_complete {name other : String} (hne : other ≠ name) (h : Headers)
    (v : Option HeaderValue) :
    Headers.getAll (complete h other v) name = Headers.getAll h name := by
  unfold complete
  split
  · split
    · rfl
    · exact Headers.getAll_append_other hne h _
  · rfl

/-- The names of which the destination gets values that are not passed on. -/
def ownNames : List String := ["host", "accept", "authorization", "content-length", "connection"]

/-- **Over the connection** every other name has the values that are passed on. -/
theorem getAll_fields {name : String} (hname : name ∉ ownNames) (o : Outbound) :
    Headers.getAll o.fields name = Headers.getAll o.headers name := by
  simp only [ownNames, List.mem_cons, List.not_mem_nil, or_false, not_or] at hname
  obtain ⟨hhost, haccept, hauthorization, hlength, hconnection⟩ := hname
  have hclosing : Headers.getAll [Wire.closing] name = [] := by
    have hother : Wire.closing.1 ≠ name := Ne.symm hconnection
    rw [Headers.getAll_cons, if_neg hother]
    rfl
  unfold fields
  rw [List.cons_append, Headers.getAll_cons, if_neg (Ne.symm hhost), Headers.getAll_concat,
    hclosing, List.append_nil, getAll_complete (Ne.symm hlength),
    getAll_complete (Ne.symm hauthorization), getAll_complete (Ne.symm haccept)]

/-- The names to which no rule but the lists of the client applies. -/
def IsPlain (name : String) : Prop :=
  name ∉ hopByHop ∧ name ∉ ownNames ∧ name ≠ forwardedForName ∧ name ≠ forwardedHostName

instance (name : String) : Decidable (IsPlain name) :=
  inferInstanceAs (Decidable (_ ∧ _ ∧ _ ∧ _))

/-- **Of a plain name** the destination gets the values of the request, unless the name is listed.
-/
theorem getAll_fields_outbound {name : String} (h : IsPlain name) (d : Destination) (r : Request) :
    Headers.getAll (outbound d r).fields name =
      if Listed r.headers name then [] else Headers.getAll r.headers name := by
  obtain ⟨hhop, hown, hfor, hforHost⟩ := h
  have hhost : name ≠ "host" := fun heq => hown (by rw [heq]; decide)
  have hlength : name ≠ "content-length" := fun heq => hown (by rw [heq]; decide)
  rw [getAll_fields hown]
  show Headers.getAll (requestFields r.headers r.peer) name = _
  rw [getAll_requestFields hhost hfor hforHost, getAll_endToEnd_of_not_mem hhop hlength]

/-- **Of the host** the destination gets to know by `X-Forwarded-Host`, unless `Host` is listed;
here for a request that has no such field itself. -/
theorem getAll_fields_outbound_forwardedHost {r : Request}
    (habsent : Headers.get? r.headers forwardedHostName = none) (d : Destination) :
    Headers.getAll (outbound d r).fields forwardedHostName =
      if Listed r.headers "host" then [] else (Headers.get? r.headers "host").toList := by
  have hnone : Headers.getAll r.headers forwardedHostName = [] := by
    rw [Headers.get?_eq_head?_getAll, List.head?_eq_none_iff] at habsent
    exact habsent
  have hkept : Headers.getAll (endToEnd r.headers) forwardedHostName = [] := by
    rw [getAll_endToEnd, hnone, ite_self]
  rw [getAll_fields (by decide)]
  show Headers.getAll (requestFields r.headers r.peer) forwardedHostName = _
  rw [getAll_requestFields_forwardedHost, if_pos hkept, Headers.get?_eq_head?_getAll,
    Headers.get?_eq_head?_getAll, getAll_endToEnd_of_not_mem (by decide) (by decide)]
  split <;> rfl

end Turnstile.Outbound
