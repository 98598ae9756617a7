import Turnstile.Gateway.Halves
import Turnstile.Proofs.Gateway.Build
import Turnstile.Proofs.Gateway.Record
import Turnstile.Proofs.Proxy.Fields
/-!
  The gateway's own fields on the requests that it forwards.

  1. **The question** — the gateway names every request, puts its own name on those of the throttled
     route, and tells the destination the host that was asked for.  A client decides, by its
     `Connection` fields, what a proxy does not pass on.  Does that concern the gateway's own
     fields?

  2. **On the way** (`values_of_sent`) — whatever is sent was made by a route of the gateway that
     was set up; its filters leave the named request alone, and the route itself adds no more than
     the name of the gateway.

  3. **Headline** (`own_fields_reach_iff`) — each of these fields arrives exactly if the client does
     not list it: the name of the request, which the response carries, the name of the gateway, and
     for the host, `Host`.  So a client can take them away (`own_field_listed`).
-/

namespace Turnstile

open Proxy

/-! ## Fields on the way -/

/-- A stamp changes the values of its own name only. -/
theorem Route.getAll_stampRequest {name : String} {route : Route}
    (hother : ∀ stamp ∈ route.requestStamp, stamp.1 ≠ name) (r : Request) :
    Headers.getAll (route.stampRequest r).headers name = Headers.getAll r.headers name := by
  unfold stampRequest
  split
  · rename_i own v hstamp
    exact Headers.getAll_insert_other (hother (own, v) hstamp) r.headers v
  · rfl

theorem Request.getAll_named {name : String} (hname : name ≠ Filter.requestIdName)
    (fresh : HeaderValue) (r : Request) :
    Headers.getAll (r.named fresh).headers name = Headers.getAll r.headers name :=
  Headers.getAll_insert_other hname.symm r.headers _

namespace Gateway

/-- What is on record was made from a request that differs from the one that came in by the
gateway's own fields only: it has a name, and on the throttled route the name of the gateway. -/
theorem Reached.values_of_sent {s : Settings} {g : Gateway} (reached : Reached s g) {σ : Type}
    (net : Network σ) (fresh : HeaderValue) (r : Request) {scene : Scene (List Outbound × σ)}
    (empty : scene.behind.1 = []) {o : Outbound}
    (sent : o ∈ (g.serve net.recording fresh r scene).2.2.2.behind.1) :
    ∃ (d : Destination) (made : Request), o = outbound d made ∧
      (∀ name, name ≠ Filter.requestIdName → name ≠ proxyByName →
        Headers.getAll made.headers name = Headers.getAll r.headers name) ∧
      Headers.getAll made.headers Filter.requestIdName =
        [Filter.requestIdFor fresh r.headers] ∧
      ((PathPattern.under "/api").accepts r.uri.path.toList = true →
        Headers.getAll made.headers proxyByName = [.ofString s.gatewayName]) := by
  rcases g.record_serve net fresh r scene with hnothing | ⟨route, hroute, hsent⟩
  · rw [hnothing, empty] at sent
    cases sent
  · rw [hsent, empty, List.nil_append, List.mem_singleton] at sent
    obtain ⟨hfilters, hstamp, hapi⟩ := reached.of_first? hroute
    have hother : ∀ name, name ≠ proxyByName → ∀ stamp ∈ route.requestStamp, stamp.1 ≠ name := by
      rintro name hname stamp hin rfl
      rcases hstamp with hnone | hsome
      · rw [hnone] at hin
        cases hin
      · rw [hsome] at hin
        cases hin
        exact hname rfl
    refine ⟨route.destination, route.stampRequest (r.named fresh), ?_, ?_, ?_, fun hpath => ?_⟩
    · rw [sent, Route.outbound, Filter.passed_of_not_mem hfilters]
    · intro name hid hby
      rw [Route.getAll_stampRequest (hother name hby), Request.getAll_named hid]
    · rw [Route.getAll_stampRequest (hother _ (by decide))]
      exact Headers.getAll_insert_self _ _ _
    · unfold Route.stampRequest
      rw [hapi hpath]
      exact Headers.getAll_insert_self _ _ _

/-! ## Headline -/

theorem ite_nil_eq_singleton_iff {α : Type} {P : Prop} [Decidable P] {a : α} :
    (if P then [] else [a]) = [a] ↔ ¬ P := by
  by_cases h : P <;> simp [h]

/-- **Headline.**  Whenever the gateway sends a request to a destination, the response carries one
name of the request, and the request that is sent carries the same name and no other, exactly if the
client does not list the name of that field; on the throttled route likewise the name of the
gateway; and if the client gave `Host` but not `X-Forwarded-Host`, the latter carries what it gave,
exactly if it does not list `Host`. -/
theorem own_fields_reach_iff {s : Settings} {g : Gateway} (reached : Reached s g) {σ : Type}
    (net : Network σ) (fresh : HeaderValue) (r : Request) {scene : Scene (List Outbound × σ)}
    (empty : scene.behind.1 = []) {o : Outbound}
    (sent : o ∈ (g.serve net.recording fresh r scene).2.2.2.behind.1) :
    (∃ id, Headers.getAll (g.serve net.recording fresh r scene).1.headers Filter.requestIdName =
        [id] ∧ (Headers.getAll o.fields Filter.requestIdName = [id] ↔
          ¬ Listed r.headers Filter.requestIdName)) ∧
    ((PathPattern.under "/api").accepts r.uri.path.toList = true →
      (Headers.getAll o.fields proxyByName = [.ofString s.gatewayName] ↔
        ¬ Listed r.headers proxyByName)) ∧
    (∀ host, Headers.get? r.headers "host" = some host →
      Headers.get? r.headers forwardedHostName = none →
      (Headers.getAll o.fields forwardedHostName = [host] ↔ ¬ Listed r.headers "host")) := by
  obtain ⟨d, made, rfl, hother, hid, hby⟩ := reached.values_of_sent net fresh r empty sent
  have hlisted := listed_iff_of_getAll_eq (hother "connection" (by decide) (by decide))
  -- a name with one value arrives exactly if it is not listed
  have harrives : ∀ {name : String} {v : HeaderValue}, Outbound.IsPlain name →
      Headers.getAll made.headers name = [v] →
      (Headers.getAll (outbound d made).fields name = [v] ↔ ¬ Listed r.headers name) := by
    intro name v hplain hvalue
    rw [Outbound.getAll_fields_outbound hplain, hvalue, ← hlisted name]
    exact ite_nil_eq_singleton_iff
  refine ⟨⟨Filter.requestIdFor fresh r.headers, ?_, harrives (by decide) hid⟩, fun hapi =>
    harrives (by decide) (hby hapi), fun host hhost habsent => ?_⟩
  · rw [serve_eq]
    exact Headers.getAll_insert_self _ _ _
  · have hgiven : ∀ name, name ≠ Filter.requestIdName → name ≠ proxyByName →
        Headers.get? made.headers name = Headers.get? r.headers name := by
      intro name hname hname'
      rw [Headers.get?_eq_head?_getAll, Headers.get?_eq_head?_getAll, hother name hname hname']
    rw [← hgiven _ (by decide) (by decide)] at hhost habsent
    rw [Outbound.getAll_fields_outbound_forwardedHost habsent, hhost, ← hlisted "host"]
    exact ite_nil_eq_singleton_iff

/-- A client that lists the name of the gateway, and nothing else. -/
theorem own_fields_reach_iff_of_one_listed :
    let g := Parts.standard.gateway
    let r : Request := ⟨"GET", ⟨none, none, "/api/users", none⟩,
      [("host", .ofString "shop"), ("connection", .ofString "close, X-Proxy-By")], [], none⟩
    let scene : Scene (List Outbound × Unit) := ⟨0, 0, [], [], ([], ())⟩
    let fresh := HeaderValue.ofString "7"
    let net := Network.answering (.answered (.plain 200 "ok")) 0
    let after := g.serve net.recording fresh r scene
    Reached .standard g ∧ scene.behind.1 = [] ∧ ∃ o ∈ after.2.2.2.behind.1,
      ((∃ id, Headers.getAll after.1.headers Filter.requestIdName = [id] ∧
        (Headers.getAll o.fields Filter.requestIdName = [id] ↔
          ¬ Listed r.headers Filter.requestIdName)) ∧
      ((PathPattern.under "/api").accepts r.uri.path.toList = true →
        (Headers.getAll o.fields proxyByName = [.ofString Settings.standard.gatewayName] ↔
          ¬ Listed r.headers proxyByName)) ∧
      (∀ host, Headers.get? r.headers "host" = some host →
        Headers.get? r.headers forwardedHostName = none →
        (Headers.getAll o.fields forwardedHostName = [host] ↔ ¬ Listed r.headers "host"))) ∧
      ¬ Listed r.headers Filter.requestIdName ∧ Listed r.headers proxyByName ∧
      ¬ Listed r.headers "host" := by
  intro g r scene fresh net after
  have reached : Reached .standard g := .built build_standard
  have empty : scene.behind.1 = [] := rfl
  obtain ⟨o, sent⟩ : ∃ o, o ∈ after.2.2.2.behind.1 := by
    refine List.exists_mem_of_ne_nil _ ?_
    decide +kernel
  exact ⟨reached, empty, o, sent,
    own_fields_reach_iff reached net fresh r empty sent, by decide +kernel,
    by decide +kernel, by decide +kernel⟩

/-- **A client takes the name of its request away**: it lists the field, the response carries the
name that it gave, and the request that is sent carries none. -/
theorem own_field_listed :
    let g := Parts.standard.gateway
    let r : Request := ⟨"GET", ⟨none, none, "/api/users", none⟩,
      [("connection", .ofString "x-request-id"), ("x-request-id", .ofString "abc")], [], none⟩
    let net := Network.answering (.answered (.plain 200 "ok")) 0
    let after := g.serve net.recording (.ofString "7") r ⟨0, 0, [], [], ([], ())⟩
    Reached .standard g ∧
      Headers.getAll after.1.headers Filter.requestIdName = [.ofString "abc"] ∧
      after.2.2.2.behind.1.map (fun o => Headers.getAll o.fields Filter.requestIdName) = [[]] := by
  intro g r net after
  exact ⟨.built build_standard, by decide +kernel, by decide +kernel⟩

end Gateway

end Turnstile
