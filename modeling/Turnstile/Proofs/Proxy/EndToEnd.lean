import Turnstile.Proofs.Proxy.Fields
import Turnstile.Proofs.Text.Case
import Turnstile.Proofs.Text.Entries
/-!
  Which fields are passed on, and which are not.

  1. **Specification** (`OneHop`) — a field concerns one connection if its name always does, if it
     tells the length of the body, or if some `Connection` field says so.  Such a field may stand
     anywhere among the others; its value is a list, if it is visible text, of which an entry may
     name a field in whatever case.

  2. **What is read of the lists** (`listed_iff`) — the tokens that are kept back are the entries in
     lower case, and names are in lower case.

  3. **Once and for all** (`endToEnd_endToEnd`) — the `Connection` fields themselves are among the
     fields that are kept back.  So nothing is listed any more in what is passed on, and passing it
     on again keeps nothing back.

  4. **Headline** (`endToEnd_exactly`) — exactly the other fields are passed on, each name with all
     its values; and the proxy's own changes for the destination bring none of the others back.
-/

namespace Turnstile

theorem Headers.mem_getAll_iff {h : Headers} {name : String} {v : HeaderValue} :
    v ∈ Headers.getAll h name ↔ (name, v) ∈ h := by
  simp [getAll]

/-- No value is left of a name exactly if no field has it. -/
theorem Headers.getAll_eq_nil_iff {h : Headers} {name : String} :
    Headers.getAll h name = [] ↔ ∀ f ∈ h, f.1 ≠ name := by
  simp [getAll, List.filterMap_eq_nil_iff]

namespace Proxy

open Text

/-! ## Specification -/

/-- **Named**: a `Connection` field that is visible text has the name among its entries, in whatever
case; the names of fields themselves are in lower case. -/
def NamedByConnection (h : Headers) (name : String) : Prop :=
  ∃ v t, ("connection", v) ∈ h ∧ v.text? = some t ∧ ∃ entry ∈ entries t, lower entry = name.toList

/-- **One hop**: the fields of a name concern one connection only. -/
def OneHop (h : Headers) (name : String) : Prop :=
  name ∈ hopByHop ∨ name = "content-length" ∨ NamedByConnection h name

/-! ## What is read of the lists -/

/-- Putting a list in lower case leaves as many entries. -/
theorem connectionTokens_eq (h : Headers) :
    connectionTokens h = ((Headers.getAll h "connection").filterMap HeaderValue.text?).flatMap
      fun t => (entries t).map lower := by
  have hkept : (fun token : List Char => !token.isEmpty) ∘ lower = fun token => !token.isEmpty := by
    funext token
    simp [lower]
  have htokens (t : List Char) : ((split ',' t).map fun token => lower (trim token)).filter
      (!·.isEmpty) = (entries t).map lower := by
    have hmap : ((split ',' t).map fun token => lower (trim token)) =
        ((split ',' t).map trim).map lower := List.map_map.symm
    unfold entries
    rw [hmap, List.filter_map, hkept]
  unfold connectionTokens
  simp only [List.filter_flatMap, htokens]

/-- A name is listed exactly if it is named, in whatever case and wherever. -/
theorem listed_iff {h : Headers} {name : String} : Listed h name ↔ NamedByConnection h name := by
  unfold Listed NamedByConnection
  simp only [connectionTokens_eq, List.mem_flatMap, List.mem_filterMap, List.mem_map,
    Headers.mem_getAll_iff]
  constructor
  · rintro ⟨t, ⟨v, hv, ht⟩, hentry⟩
    exact ⟨v, t, hv, ht, hentry⟩
  · rintro ⟨v, t, hv, ht, hentry⟩
    exact ⟨t, ⟨v, hv, ht⟩, hentry⟩

theorem isEndToEnd_iff {h : Headers} {name : String} :
    isEndToEnd (connectionTokens h) name = true ↔ ¬ OneHop h name := by
  unfold isEndToEnd OneHop
  rw [← listed_iff]
  simp [Listed, and_assoc]

instance (h : Headers) (name : String) : Decidable (OneHop h name) :=
  decidable_of_iff (¬ isEndToEnd (connectionTokens h) name = true)
    ((not_congr isEndToEnd_iff).trans Classical.not_not)

/-! ## What is passed on -/

/-- **Exactly**: a field is passed on if it does not concern one connection only. -/
theorem mem_endToEnd_iff {h : Headers} {f : String × HeaderValue} :
    f ∈ endToEnd h ↔ f ∈ h ∧ ¬ OneHop h f.1 := by
  unfold endToEnd
  rw [List.mem_filter, isEndToEnd_iff]

theorem getAll_endToEnd_of_oneHop {h : Headers} {name : String} (hname : OneHop h name) :
    Headers.getAll (endToEnd h) name = [] := by
  rw [getAll_endToEnd, if_neg]
  exact mt isEndToEnd_iff.mp (not_not_intro hname)

theorem getAll_endToEnd_of_not_oneHop {h : Headers} {name : String} (hname : ¬ OneHop h name) :
    Headers.getAll (endToEnd h) name = Headers.getAll h name := by
  rw [getAll_endToEnd, if_pos (isEndToEnd_iff.mpr hname)]

/-- **Once and for all**: passing on again keeps nothing back. -/
theorem endToEnd_endToEnd (h : Headers) : endToEnd (endToEnd h) = endToEnd h := by
  have hlists : Headers.getAll (endToEnd h) "connection" = [] :=
    getAll_endToEnd_of_oneHop (.inl (by decide))
  refine List.filter_eq_self.mpr fun f hf => isEndToEnd_iff.mpr ?_
  obtain ⟨-, hkept⟩ := mem_endToEnd_iff.mp hf
  rintro (hhop | hlength | hnamed)
  · exact hkept (.inl hhop)
  · exact hkept (.inr (.inl hlength))
  · -- nothing is named where there is no `Connection` field
    obtain ⟨v, -, hv, -⟩ := hnamed
    exact absurd rfl (Headers.getAll_eq_nil_iff.mp hlists _ hv)

/-! ## For the destination -/

/-- The host that was asked for is told by the proxy's own fields only. -/
theorem getAll_requestFields_host (h : Headers) (peer : Option IpAddr) :
    Headers.getAll (requestFields h peer) "host" = [] := by
  have hpeer : Headers.getAll (withPeer h peer) "host" = [] := by
    cases peer with
    | none => exact Headers.getAll_erase_self _ _
    | some a =>
      exact (Headers.getAll_insert_other (by decide) _ _).trans (Headers.getAll_erase_self _ _)
  rw [requestFields_eq]
  split
  · split
    · exact (Headers.getAll_insert_other (by decide) _ _).trans hpeer
    · exact hpeer
  · exact hpeer

/-- None of the names that are always kept back gets to the destination. -/
theorem not_mem_requestFields {h : Headers} {peer : Option IpAddr} {f : String × HeaderValue}
    (hf : f ∈ requestFields h peer) :
    f.1 ∉ hopByHop ∧ f.1 ≠ "content-length" ∧ f.1 ≠ "host" := by
  have hother : ∀ name ∈ "content-length" :: hopByHop,
      name ≠ "host" ∧ name ≠ forwardedForName ∧ name ≠ forwardedHostName := by decide
  have hnone : ∀ name ∈ "content-length" :: hopByHop, f.1 ≠ name := by
    intro name hname
    obtain ⟨hhost, hfor, hforHost⟩ := hother name hname
    have honeHop : OneHop h name := (List.mem_cons.mp hname).symm.imp_right .inl
    have hnil : Headers.getAll (requestFields h peer) name = [] := by
      rw [getAll_requestFields hhost hfor hforHost, getAll_endToEnd_of_oneHop honeHop]
    exact Headers.getAll_eq_nil_iff.mp hnil f hf
  exact ⟨fun hhop => hnone _ (List.mem_cons_of_mem _ hhop) rfl, hnone _ List.mem_cons_self,
    Headers.getAll_eq_nil_iff.mp (getAll_requestFields_host h peer) f hf⟩

/-! ## Headline -/

/-- **Headline.**  Exactly those fields are passed on that do not concern one connection only, and a
name that is passed on keeps all its values, in order; passing on twice is passing on once.  Among
the fields for the destination there is none that always concerns one connection, no length and no
host, and of every name but `Host`, `X-Forwarded-For` and `X-Forwarded-Host` they have the values
that are passed on. -/
theorem endToEnd_exactly (h : Headers) (peer : Option IpAddr) :
    (∀ f, f ∈ endToEnd h ↔ f ∈ h ∧ ¬ OneHop h f.1) ∧
    (∀ name, (OneHop h name → Headers.getAll (endToEnd h) name = []) ∧
      (¬ OneHop h name → Headers.getAll (endToEnd h) name = Headers.getAll h name)) ∧
    endToEnd (endToEnd h) = endToEnd h ∧
    (∀ f ∈ requestFields h peer, f.1 ∉ hopByHop ∧ f.1 ≠ "content-length" ∧ f.1 ≠ "host") ∧
    (∀ name, name ≠ "host" → name ≠ forwardedForName → name ≠ forwardedHostName →
      Headers.getAll (requestFields h peer) name = Headers.getAll (endToEnd h) name) := by
  refine ⟨fun f => mem_endToEnd_iff, fun name => ⟨getAll_endToEnd_of_oneHop,
    getAll_endToEnd_of_not_oneHop⟩, endToEnd_endToEnd h, fun f => not_mem_requestFields, ?_⟩
  intro name hhost hfor hforHost
  exact getAll_requestFields hhost hfor hforHost h peer

/-- Two lists, before and behind the fields that they name, and a name with two values. -/
theorem endToEnd_exactly_of_two_lists :
    let h : Headers := [("connection", .ofString "close,, X-A"), ("x-a", .ofString "1"),
      ("x-b", .ofString "1"), ("x-c", .ofString "1"), ("te", .ofString "trailers"),
      ("x-b", .ofString "2"), ("x-c", .ofString "2"), ("connection", .ofString " x-B "),
      ("host", .ofString "shop")]
    OneHop h "x-b" ∧ Headers.getAll (endToEnd h) "x-b" = [] ∧
    ¬ OneHop h "x-c" ∧ Headers.getAll (endToEnd h) "x-c" = Headers.getAll h "x-c" ∧
    Headers.getAll (requestFields h none) "x-c" = [.ofString "1", .ofString "2"] ∧
    (∃ f ∈ requestFields h none, f.1 ∉ hopByHop ∧ f.1 ≠ "content-length" ∧ f.1 ≠ "host") := by
  intro h
  have hb : OneHop h "x-b" := by decide +kernel
  have hc : ¬ OneHop h "x-c" := by decide +kernel
  obtain ⟨-, hvalues, -, hrequest, hother⟩ := endToEnd_exactly h none
  obtain ⟨f, hf⟩ : ∃ f, f ∈ requestFields h none :=
    List.exists_mem_of_ne_nil _ (by decide +kernel)
  refine ⟨hb, (hvalues _).1 hb, hc, (hvalues _).2 hc, ?_, f, hf, hrequest f hf⟩
  rw [hother "x-c" (by decide) (by decide) (by decide), (hvalues _).2 hc]
  decide +kernel

end Proxy

end Turnstile
