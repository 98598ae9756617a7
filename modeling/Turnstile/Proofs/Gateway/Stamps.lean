import Turnstile.Gateway.Halves
import Turnstile.Proofs.Filter.Calls
import Turnstile.Proofs.Gateway.Traffic
import Turnstile.Proofs.Text.Entries
/-!
  The gateway's own fields on its responses.

  1. **Names** (`requestIdFor_eq`) — a request is called by the first name that the client gave, if
     that is made of visible characters and is not blank.  The trimming that decides this drops more
     than spaces and tabs, but of the visible characters no other.

  2. **Filters** (`Gateway.calls`, `request_of_mem_calls`) — the filters of a route see the request
     under its name, and only so.  They are those through which it is served (`serve_of_calls`).

  3. **Headline** (`stamps_of_response`) — whatever a route, a filter or a destination has put on a
     response, it has one name of the gateway and one name of the request in the end.
-/

namespace Turnstile

/-! ## Names -/

namespace HeaderValue

/-- Whether a value can name a request: all of its bytes are visible, and not all are spaces and
tabs. -/
def isName (v : HeaderValue) : Bool :=
  v.bytes.all isVisible && v.bytes.any fun b => b ≠ 0x20 && b ≠ 0x09

/-- Of the visible characters, the space and the tab are white space. -/
theorem isBlank_of_isVisible {b : UInt8} (visible : isVisible b = true) :
    Text.isBlank (Char.ofUInt8 b) = !(b ≠ 0x20 && b ≠ 0x09) := by
  unfold isVisible at visible
  rw [decide_eq_true_iff] at visible
  rcases visible with rfl | ⟨hlow, hhigh⟩
  · rfl
  · have hchar : (Char.ofUInt8 b).toNat = b.toNat := rfl
    have hfrom : 32 ≤ b.toNat := hlow
    have hto : b.toNat ≤ 126 := hhigh
    by_cases hspace : b = 0x20
    · subst hspace
      rfl
    · have hother : b.toNat ≠ 32 := fun h => hspace (UInt8.toNat_inj.mp h)
      have htab : b ≠ 0x09 := by
        rintro rfl
        exact absurd hfrom (by decide)
      have hblank : Text.isBlank (Char.ofUInt8 b) = false := by
        unfold Text.isBlank
        rw [hchar]
        simp only [Bool.or_eq_false_iff, Bool.and_eq_false_iff, decide_eq_false_iff_not,
          beq_eq_false_iff_ne]
        omega
      rw [hblank, decide_eq_true hspace, decide_eq_true htab]
      rfl

theorem isEmpty_trim_of_text? {v : HeaderValue} {t : List Char} (ht : v.text? = some t) :
    (Text.trim t).isEmpty = !v.isName := by
  obtain ⟨hvisible, ht⟩ := text?_eq_some_iff.mp ht
  have hblank : v.bytes.all (fun b => Text.isBlank (Char.ofUInt8 b)) =
      v.bytes.all fun b => !(b ≠ 0x20 && b ≠ 0x09) := by
    rw [Bool.eq_iff_iff, List.all_eq_true, List.all_eq_true]
    refine forall₂_congr fun b hb => ?_
    rw [isBlank_of_isVisible (List.all_eq_true.mp hvisible b hb)]
  unfold isName
  rw [← ht, Text.isEmpty_trim, Text.ofOctets, List.all_map, hvisible, Bool.true_and,
    List.not_any_eq_all_not]
  exact hblank

end HeaderValue

/-- **The name of a request**: the first value that the client gave, if it can be one. -/
theorem Filter.requestIdFor_eq (fresh : HeaderValue) (h : Headers) :
    requestIdFor fresh h =
      ((Headers.getAll h requestIdName).head?.filter HeaderValue.isName).getD fresh := by
  unfold requestIdFor
  rw [Headers.get?_eq_head?_getAll]
  cases (Headers.getAll h requestIdName).head? with
  | none => rfl
  | some v =>
    rw [Option.filter_some]
    dsimp only
    cases ht : v.text? with
    | none =>
      have hname : v.isName = false := by
        unfold HeaderValue.text? at ht
        split at ht
        · cases ht
        · rename_i hhidden
          unfold HeaderValue.isName
          rw [Bool.not_eq_true] at hhidden
          rw [hhidden, Bool.false_and]
      rw [hname]
      rfl
    | some t =>
      dsimp only
      rw [HeaderValue.isEmpty_trim_of_text? ht]
      cases v.isName <;> rfl

/-! ## Filters -/

namespace Gateway

section

variable {σ : Type} (net : Network σ) (fresh : HeaderValue) (g : Gateway) (r : Request)
  (s : Scene σ)

/-- The calls of filters while a gateway serves a request, the outermost first: those of the route
that the request takes, if it leads to a destination. -/
def calls : List Call :=
  match LocalRoute.at? r.uri.path, Route.first? r.uri.path.toList g.routes with
  | none, some route =>
    Filter.calls fresh (route.stage g.maxBody net) route.filters (r.named fresh) s
  | _, _ => []

/-- **The filters see the named request.** -/
theorem request_of_mem_calls {c : Call} (hc : c ∈ g.calls net fresh r s) :
    c.request = r.named fresh := by
  unfold calls at hc
  split at hc
  · -- a filter in front that names requests too would find the name in place
    obtain ⟨front, _, -, hrequest, -⟩ := Filter.exists_of_mem_calls fresh _ hc
    rw [hrequest, Filter.passed_eq, Filter.named_named, ite_self]
  · cases hc

/-- **These filters serve the request**: if there are any, the response is what the outermost of
them hands back, signed. -/
theorem serve_of_calls {c : Call} (hc : (g.calls net fresh r s).head? = some c) :
    (g.serve net fresh r s).1 = g.signed (Filter.requestIdFor fresh r.headers)
      (.ofRoute r.method (Route.responseTo c.outcome)) := by
  unfold calls at hc
  split at hc
  · rename_i route hlocal hroute
    have houtcome : (Filter.serveThrough fresh (route.stage g.maxBody net) route.filters
        (r.named fresh) s).1 = c.outcome := by
      cases hfilters : route.filters with
      | nil =>
        rw [hfilters] at hc
        cases hc
      | cons f rest =>
        rw [hfilters, Filter.calls_cons] at hc
        injection hc with hc
        rw [← hc]
    have hserved := Route.serveFirst_eq_first? net g.maxBody fresh (r.named fresh) s g.routes
    have hfirst : Route.first? (r.named fresh).uri.path.toList g.routes = some route := hroute
    rw [hfirst] at hserved
    obtain ⟨⟨a, routes, after⟩, hx, heq⟩ := Option.map_eq_some_iff.mp hserved
    injection heq with ha
    have hby : (g.serveByRoute net fresh (r.named fresh) s).1 = .ofRoute r.method a := by
      have hnone : LocalRoute.at? (r.named fresh).uri.path = none := hlocal
      unfold serveByRoute
      rw [hnone, hx]
      rfl
    rw [serve_eq, hby, ← houtcome]
    exact congrArg (fun a => g.signed _ (.ofRoute r.method a)) ha
  · cases hc

end

/-- A gateway that has been reached bears its name. -/
theorem Reached.stamp_eq {s : Settings} {g : Gateway} (h : Reached s g) :
    g.stamp = .ofString s.gatewayName := by
  obtain ⟨now, p, hp⟩ := h.asNew_eq
  have hstamp : g.stamp = p.stamp := by
    have hnew := congrArg Gateway.stamp hp
    exact hnew
  rw [hstamp, p.stamp_value]

/-! ## Headline -/

/-- **Headline.**  For all settings with which the gateway can be set up, and whatever it has served
since: every response has one name of the gateway, which is the one that was set, and one name of
the request, whichever way it was served and whatever came back from a destination.  The latter is
the first that the client gave, byte for byte, if that can be a name, and otherwise the fresh one;
and each filter that the request came to saw that name and no other. -/
theorem stamps_of_response {s : Settings} {g : Gateway} (reached : Reached s g) {σ : Type}
    (net : Network σ) (fresh : HeaderValue) (r : Request) (scene : Scene σ) :
    let response := (g.serve net fresh r scene).1
    Headers.getAll response.headers stampName = [.ofString s.gatewayName] ∧
    ∃ id, Headers.getAll response.headers Filter.requestIdName = [id] ∧
      id = ((Headers.getAll r.headers Filter.requestIdName).head?.filter
        HeaderValue.isName).getD fresh ∧
      ∀ c ∈ g.calls net fresh r scene,
        Headers.getAll c.request.headers Filter.requestIdName = [id] := by
  intro response
  have hresponse : response = g.signed (Filter.requestIdFor fresh r.headers)
      (g.serveByRoute net fresh (r.named fresh) scene).1 := by
    show (g.serve net fresh r scene).1 = _
    rw [serve_eq]
  refine ⟨?_, Filter.requestIdFor fresh r.headers, ?_, Filter.requestIdFor_eq fresh r.headers, ?_⟩
  · rw [hresponse, ← reached.stamp_eq]
    unfold signed stamped
    rw [Headers.getAll_insert_other (by decide)]
    exact Headers.getAll_insert_self _ _ _
  · rw [hresponse]
    exact Headers.getAll_insert_self _ _ _
  · intro c hc
    rw [request_of_mem_calls net fresh g r scene hc]
    exact Headers.getAll_insert_self _ _ _

/-- Four requests with two names each, of which the first counts: a destination answers the first
under names of its own, and to the second nobody answers; of the third, which no route has, the name
is blank, and the fourth is refused for its method. -/
theorem stamps_of_response_of_four :
    let g := Parts.standard.gateway
    let stamp := HeaderValue.ofString "sample-gateway"
    let fresh := HeaderValue.ofString "7"
    let scene : Scene Unit := ⟨0, 0, [], [], ()⟩
    let relaying : Network Unit := .answering (.answered ⟨204, [("x-gateway", .ofString "other"),
      ("x-request-id", .ofString "8"), ("x-request-id", .ofString "9")], []⟩) 0
    let ask (method path id : String) : Request := ⟨method, ⟨none, none, path, none⟩,
      [("x-request-id", .ofString id), ("x-request-id", .ofString "6")], [], none⟩
    let served (net : Network Unit) (r : Request) : Nat × List HeaderValue × List HeaderValue :=
      let response := (g.serve net fresh r scene).1
      (response.status, Headers.getAll response.headers stampName,
        Headers.getAll response.headers Filter.requestIdName)
    let seen (net : Network Unit) (r : Request) : List (List HeaderValue) :=
      (g.calls net fresh r scene).map fun c =>
        Headers.getAll c.request.headers Filter.requestIdName
    Reached .standard g ∧
    served relaying (ask "GET" "/api/a" "5") = (204, [stamp], [.ofString "5"]) ∧
    seen relaying (ask "GET" "/api/a" "5") = [[.ofString "5"]] ∧
    served .refusing (ask "GET" "/api/a" "5") = (503, [stamp], [.ofString "5"]) ∧
    served .refusing (ask "GET" "/nowhere" " \t ") = (404, [stamp], [fresh]) ∧
    served .refusing (ask "POST" "/actuator" "5") = (405, [stamp], [.ofString "5"]) := by
  intro g stamp fresh scene relaying ask served seen
  have reached : Reached .standard g := .built build_standard
  have hall : ∀ (net : Network Unit) (r : Request) (status : Nat) (id : HeaderValue),
      (g.serve net fresh r scene).1.status = status →
      ((Headers.getAll r.headers Filter.requestIdName).head?.filter
        HeaderValue.isName).getD fresh = id →
      served net r = (status, [stamp], [id]) ∧ ∀ values ∈ seen net r, values = [id] := by
    intro net r status id hstatus hid
    obtain ⟨hstamp, name, hname, heq, hseen⟩ := stamps_of_response reached net fresh r scene
    rw [hid] at heq
    subst heq
    constructor
    · show (_, _, _) = _
      rw [hstatus, hstamp, hname]
      rfl
    · intro values hvalues
      obtain ⟨c, hc, rfl⟩ := List.mem_map.mp hvalues
      exact hseen c hc
  obtain ⟨hrelayed, hfilters⟩ := hall relaying (ask "GET" "/api/a" "5") 204 (.ofString "5")
    (by decide +kernel) (by decide +kernel)
  have hone : (seen relaying (ask "GET" "/api/a" "5")).length = 1 := by decide +kernel
  obtain ⟨values, hvalues⟩ := List.length_eq_one_iff.mp hone
  refine ⟨reached, hrelayed, ?_, ?_, ?_, ?_⟩
  · rw [hvalues, hfilters values (by rw [hvalues]; exact List.mem_singleton_self values)]
  · exact (hall .refusing (ask "GET" "/api/a" "5") 503 (.ofString "5") (by decide +kernel)
      (by decide +kernel)).1
  · exact (hall .refusing (ask "GET" "/nowhere" " \t ") 404 fresh (by decide +kernel)
      (by decide +kernel)).1
  · exact (hall .refusing (ask "POST" "/actuator" "5") 405 (.ofString "5") (by decide +kernel)
      (by decide +kernel)).1

end Gateway

end Turnstile
