import Turnstile.Proofs.Filter.Chain
/-!
  What a chain of filters does with one request.

  1. **Specification** — whether a filter admits a request (`admits`), and the answers with which
     each kind keeps requests back (`Rejection`).  Both are about the request as it comes to the
     chain: a filter in front of another changes nothing but the name of the request, and no filter
     judges by it (`judge_passed`).

  2. **In front** (`serveThrough_append`) — filters that all admit hand the request on, named if one
     of them names requests, take their own notes, and hand the outcome back, named likewise.  By
     induction on them; everything about chains follows from this one equation.

  3. **The cut** (`serveThrough_cut`) — the first filter that rejects answers, and nothing behind it
     has a part in what comes out.

  4. **Headline** (`transparent_or_cut`) — a chain calls the stage once, or not at all.
-/

namespace Turnstile

/-! ## Names -/

/-- An answer that carries the name of a request. -/
def Response.named (id : HeaderValue) (a : Response) : Response :=
  { a with headers := Headers.insert a.headers Filter.requestIdName id }

/-- An outcome in which the answer, if there is one, carries the name of a request. -/
def Outcome.named (id : HeaderValue) : Outcome → Outcome
  | .answered a => .answered (a.named id)
  | o => o

/-- The status of an outcome, if it is an answer. -/
def Outcome.status? : Outcome → Option Nat
  | .answered a => some a.status
  | _ => none

@[simp] theorem Outcome.status?_named (id : HeaderValue) (o : Outcome) :
    (o.named id).status? = o.status? := by
  cases o <;> rfl

@[simp] theorem Outcome.named_named (id : HeaderValue) (o : Outcome) :
    (o.named id).named id = o.named id := by
  cases o with
  | answered a =>
    show answered ((a.named id).named id) = answered (a.named id)
    unfold Response.named
    rw [Headers.insert_insert]
  | failed reason => rfl
  | abandoned => rfl

theorem Scene.measure_nil {σ : Type} (s : Scene σ) : s.measure [] = s := by
  unfold Scene.measure
  rw [List.append_nil]

namespace Filter

/-- A request that is named again keeps its name. -/
@[simp] theorem requestIdFor_named (fresh : HeaderValue) (r : Request) :
    requestIdFor fresh (r.named fresh).headers = requestIdFor fresh r.headers := by
  have hfirst : Headers.get? (r.named fresh).headers requestIdName =
      some (requestIdFor fresh r.headers) := Headers.get?_insert_self _ _ _
  -- a name is the fresh one or one that may be kept, and either is kept
  have hkept : requestIdFor fresh r.headers = fresh ∨
      ∃ t, (requestIdFor fresh r.headers).text? = some t ∧ (Text.trim t).isEmpty = false := by
    unfold requestIdFor
    split
    · rename_i v hv
      split
      · rename_i t ht
        cases hblank : (Text.trim t).isEmpty
        · right
          exact ⟨t, ht, hblank⟩
        · left
          rfl
      · left
        rfl
    · left
      rfl
  generalize requestIdFor fresh r.headers = id at hfirst hkept
  unfold requestIdFor
  rw [hfirst]
  rcases hkept with rfl | ⟨t, ht, hblank⟩
  · dsimp only
    split
    · split <;> rfl
    · rfl
  · dsimp only
    rw [ht]
    dsimp only
    rw [hblank]
    rfl

@[simp] theorem named_named (fresh : HeaderValue) (r : Request) :
    (r.named fresh).named fresh = r.named fresh := by
  rw [Request.named, requestIdFor_named]
  unfold Request.named
  rw [Headers.insert_insert]

/-! ## Specification -/

/-- Whether a filter lets a request through at `now`. -/
def admits (now : Nat) (r : Request) : Filter → Bool
  | throttle _ bucket => (bucket.take now).1
  | rateGate gate => decide ((gate.check now r).1 = .admitted)
  | timing => true
  | host glob => r.host?.any glob.accepts
  | requestId => true

/-- **Rejection**: the answers with which filters keep requests back. -/
inductive Rejection (now : Nat) (r : Request) : Filter → Response → Prop
  | throttle {route : String} {bucket : Bucket} :
      Rejection now r (throttle route bucket) ⟨429, [], []⟩
  | rateGate {gate : RateGate} {wait : Nat} (refused : (gate.check now r).1 = .refused wait) :
      Rejection now r (rateGate gate)
        ⟨429,
          [("content-type", .ofString "text/plain; charset=utf-8"),
           ("retry-after", .ofString (toString (Limiter.retryAfter wait))),
           ("x-ratelimit-limit", .ofString (toString gate.rate)),
           ("x-ratelimit-remaining", .ofString "0")],
          Text.bytes "Rate limit exceeded. Please retry later."⟩
  | host {glob : HostGlob} : Rejection now r (host glob) ⟨404, [], []⟩

/-- The filter after it has judged a request. -/
def after (now : Nat) (r : Request) (f : Filter) : Filter := (f.judge now r).2.1

/-- What is measured when a filter judges a request. -/
def events (now : Nat) (r : Request) (f : Filter) : List Measurement := (f.judge now r).2.2

section

variable (now : Nat) (r : Request)

theorem judge_throttle (route : String) (bucket : Bucket) :
    (throttle route bucket).judge now r =
      if (bucket.take now).1 = true then (none, throttle route (bucket.take now).2, [])
      else (some (.bare 429), throttle route (bucket.take now).2, [.throttled route]) := rfl

theorem judge_rateGate (gate : RateGate) :
    (rateGate gate).judge now r = match (gate.check now r).1 with
      | .admitted => (none, rateGate (gate.check now r).2, [])
      | .refused wait =>
        (some (gate.refusal wait), rateGate (gate.check now r).2,
          [.rateLimited gate.rule.name]) := by
  unfold judge RateGate.check
  dsimp only
  rcases gate.limiter.check (gate.rule.key gate.proxies r) now with ⟨verdict, limiter⟩
  cases verdict <;> rfl

theorem judge_host (glob : HostGlob) :
    (host glob).judge now r =
      if r.host?.any glob.accepts = true then (none, host glob, [])
      else (some (.bare 404), host glob, []) := by
  unfold judge
  cases r.host? with
  | none => rfl
  | some asked => rfl

theorem after_throttle (route : String) (bucket : Bucket) :
    (throttle route bucket).after now r = throttle route (bucket.take now).2 := by
  unfold after
  rw [judge_throttle]
  split <;> rfl

theorem after_rateGate (gate : RateGate) :
    (rateGate gate).after now r = rateGate (gate.check now r).2 := by
  unfold after
  rw [judge_rateGate]
  split <;> rfl

theorem after_host (glob : HostGlob) : (host glob).after now r = host glob := by
  unfold after
  rw [judge_host]
  split <;> rfl

end

theorem judge_of_admits {now : Nat} {r : Request} {f : Filter} (h : f.admits now r = true) :
    f.judge now r = (none, f.after now r, []) := by
  cases f with
  | throttle route bucket =>
    have htaken : (bucket.take now).1 = true := h
    rw [after_throttle, judge_throttle, if_pos htaken]
  | rateGate gate =>
    have hverdict : (gate.check now r).1 = .admitted := of_decide_eq_true h
    rw [after_rateGate, judge_rateGate, hverdict]
  | timing => rfl
  | host glob =>
    have haccepts : r.host?.any glob.accepts = true := h
    rw [after_host, judge_host, if_pos haccepts]
  | requestId => rfl

theorem judge_of_rejects {now : Nat} {r : Request} {f : Filter} (h : f.admits now r = false) :
    ∃ answer, f.Rejection now r answer ∧
      f.judge now r = (some answer, f.after now r, f.events now r) := by
  unfold after events
  cases f with
  | throttle route bucket =>
    have htaken : (bucket.take now).1 = false := h
    refine ⟨_, .throttle, ?_⟩
    rw [judge_throttle, htaken, if_neg Bool.false_ne_true]
    rfl
  | rateGate gate =>
    have hverdict : (gate.check now r).1 ≠ .admitted := of_decide_eq_false h
    cases hcheck : (gate.check now r).1 with
    | admitted => exact absurd hcheck hverdict
    | refused wait =>
      refine ⟨_, .rateGate hcheck, ?_⟩
      rw [judge_rateGate, hcheck]
      rfl
  | timing => cases h
  | host glob =>
    have haccepts : r.host?.any glob.accepts = false := h
    refine ⟨_, .host, ?_⟩
    rw [judge_host, haccepts, if_neg Bool.false_ne_true]
    rfl
  | requestId => cases h

theorem admits_eq (now : Nat) (r : Request) (f : Filter) :
    f.admits now r = (f.judge now r).1.isNone := by
  cases h : f.admits now r with
  | true =>
    rw [judge_of_admits h]
    rfl
  | false =>
    obtain ⟨answer, -, hjudge⟩ := judge_of_rejects h
    rw [hjudge]
    rfl

/-! ## In front -/

/-- The name of a request has no part in its key. -/
theorem key_named (rule : KeyRule) (proxies : TrustedProxies) (fresh : HeaderValue) (r : Request) :
    rule.key proxies (r.named fresh) = rule.key proxies r := by
  have hforwarded : Headers.forwarded? (r.named fresh).headers = Headers.forwarded? r.headers := by
    unfold Headers.forwarded? Headers.forwardedFor? Headers.realIp? Request.named
    rw [Headers.text?_insert_other (by decide), Headers.text?_insert_other (by decide)]
  have hclient : (r.named fresh).client proxies = r.client proxies := by
    unfold Request.client
    rw [hforwarded]
    rfl
  unfold KeyRule.key
  rw [hclient]
  rfl

theorem judge_named (now : Nat) (fresh : HeaderValue) (r : Request) (f : Filter) :
    f.judge now (r.named fresh) = f.judge now r := by
  cases f with
  | rateGate gate =>
    have hcheck : gate.check now (r.named fresh) = gate.check now r := by
      unfold RateGate.check
      rw [key_named]
    rw [judge_rateGate, judge_rateGate, hcheck]
  | host glob =>
    have hhost : (r.named fresh).host? = r.host? := by
      unfold Request.host? Request.named
      rw [Headers.text?_insert_other (by decide)]
    rw [judge_host, judge_host, hhost]
  | _ => rfl

/-- A request that has passed some filters is the one that came, or has got its name. -/
theorem passed_eq (fresh : HeaderValue) (filters : List Filter) (r : Request) :
    passed fresh filters r = if requestId ∈ filters then r.named fresh else r := by
  induction filters generalizing r with
  | nil => rfl
  | cons f rest ih =>
    show passed fresh rest (f.passedOn fresh r) = _
    rw [ih]
    by_cases hf : f = requestId
    · subst hf
      show (if requestId ∈ rest then (r.named fresh).named fresh else r.named fresh) = _
      rw [named_named, ite_self, if_pos List.mem_cons_self]
    · have hsame : f.passedOn fresh r = r := by
        cases f with
        | requestId => exact absurd rfl hf
        | _ => rfl
      have hmem : requestId ∈ f :: rest ↔ requestId ∈ rest := by
        rw [List.mem_cons, or_iff_right (Ne.symm hf)]
      rw [hsame]
      simp only [hmem]

/-- What filters see of a request does not depend on the filters in front of them. -/
theorem judge_passed (now : Nat) (fresh : HeaderValue) (filters : List Filter) (r : Request)
    (f : Filter) : f.judge now (passed fresh filters r) = f.judge now r := by
  rw [passed_eq]
  split
  · exact judge_named now fresh r f
  · rfl

/-- An outcome as some filters hand it back. -/
def returned (fresh : HeaderValue) (filters : List Filter) (r : Request) (o : Outcome) : Outcome :=
  if requestId ∈ filters then o.named (requestIdFor fresh r.headers) else o

/-- What some filters record, the innermost first, of a request that arrived at `start`. -/
def recordedBy {σ : Type} (filters : List Filter) (r : Request) (start : Nat) (o : Outcome)
    (s : Scene σ) : Scene σ :=
  filters.foldr (fun f s => f.recorded r start o s) s

/-- What a filter records of an outcome is its status, and of a request neither name nor fields. -/
theorem recorded_congr {σ : Type} {r r' : Request} {o o' : Outcome} (hmethod : r'.method = r.method)
    (huri : r'.uri = r.uri) (hstatus : o'.status? = o.status?) (start : Nat) (f : Filter)
    (s : Scene σ) : f.recorded r' start o' s = f.recorded r start o s := by
  cases f with
  | timing =>
    show s.complete ⟨r'.method, r'.uri.path, o'.status?, s.now - start⟩ =
      s.complete ⟨r.method, r.uri.path, o.status?, s.now - start⟩
    rw [hmethod, huri, hstatus]
  | _ => rfl

section

variable {σ : Type} (fresh : HeaderValue) (stage : Stage σ)

theorem status?_returned (filters : List Filter) (r : Request) (o : Outcome) :
    (returned fresh filters r o).status? = o.status? := by
  unfold returned
  split
  · exact Outcome.status?_named _ o
  · rfl

theorem recordedBy_passedOn (f : Filter) (filters : List Filter) (r : Request) (start : Nat)
    (o : Outcome) (s : Scene σ) :
    recordedBy filters (f.passedOn fresh r) start o s = recordedBy filters r start o s := by
  have hmethod : (f.passedOn fresh r).method = r.method := by cases f <;> rfl
  have huri : (f.passedOn fresh r).uri = r.uri := by cases f <;> rfl
  unfold recordedBy
  congr 1
  funext g s
  exact recorded_congr hmethod huri rfl start g s

/-- What comes back through a filter from those behind it, comes back through all of them. -/
theorem handedBack_returned (f : Filter) (rest : List Filter) (r : Request) (o : Outcome) :
    f.handedBack fresh r (returned fresh rest (f.passedOn fresh r) o) =
      returned fresh (f :: rest) r o := by
  by_cases hf : f = requestId
  · subst hf
    show (returned fresh rest (r.named fresh) o).named (requestIdFor fresh r.headers) = _
    unfold returned
    rw [requestIdFor_named, if_pos List.mem_cons_self]
    split
    · exact Outcome.named_named _ o
    · rfl
  · have hmem : requestId ∈ f :: rest ↔ requestId ∈ rest := by
      rw [List.mem_cons, or_iff_right (Ne.symm hf)]
    unfold returned
    simp only [hmem]
    cases f with
    | requestId => exact absurd rfl hf
    | _ => rfl

/-- **In front**: filters that all admit a request.  By induction on them. -/
theorem serveThrough_append {outer : List Filter} {r : Request} {s : Scene σ}
    (admitted : ∀ f ∈ outer, f.admits s.now r = true) (rest : List Filter) :
    serveThrough fresh stage (outer ++ rest) r s =
      let (o, rest', s') := serveThrough fresh stage rest (passed fresh outer r) s
      (returned fresh outer r o, outer.map (after s.now r) ++ rest',
        recordedBy outer r s.now o s') := by
  induction outer generalizing r with
  | nil => rfl
  | cons f outer ih =>
    have hf := judge_of_admits (admitted f List.mem_cons_self)
    have hbehind : ∀ g : Filter, g.judge s.now (f.passedOn fresh r) = g.judge s.now r :=
      judge_passed s.now fresh [f] r
    have hrest : ∀ g ∈ outer, g.admits s.now (f.passedOn fresh r) = true := by
      intro g hg
      rw [admits_eq, hbehind, ← admits_eq]
      exact admitted g (List.mem_cons_of_mem _ hg)
    have hafter : ∀ g : Filter, g.after s.now (f.passedOn fresh r) = g.after s.now r := by
      intro g
      unfold after
      rw [hbehind]
    rw [List.cons_append, serveThrough, hf]
    dsimp only
    rw [Scene.measure_nil, ih hrest]
    show _ = (let (o, rest', s') :=
        serveThrough fresh stage rest (passed fresh outer (f.passedOn fresh r)) s
      (returned fresh (f :: outer) r o, f.after s.now r :: (outer.map (after s.now r) ++ rest'),
        f.recorded r s.now o (recordedBy outer r s.now o s')))
    rcases serveThrough fresh stage rest (passed fresh outer (f.passedOn fresh r)) s with
      ⟨o, rest', s'⟩
    dsimp only
    rw [handedBack_returned, List.map_congr_left fun g _ => hafter g,
      recordedBy_passedOn, recorded_congr rfl rfl (status?_returned fresh outer _ o)]

/-- **All admit**: the stage serves the request. -/
theorem serveThrough_of_admits {filters : List Filter} {r : Request} {s : Scene σ}
    (admitted : ∀ f ∈ filters, f.admits s.now r = true) :
    serveThrough fresh stage filters r s =
      let (o, s') := stage (passed fresh filters r) s
      (returned fresh filters r o, filters.map (after s.now r),
        recordedBy filters r s.now o s') := by
  have hall := serveThrough_append fresh stage admitted []
  rw [List.append_nil] at hall
  rw [hall]
  rcases hstage : stage (passed fresh filters r) s with ⟨o, s'⟩
  simp only [serveThrough, hstage, List.append_nil]

/-- **One rejects**: the first that does answers, and what is behind it stays as it is. -/
theorem serveThrough_of_rejects {outer : List Filter} {r : Request} {s : Scene σ}
    (admitted : ∀ g ∈ outer, g.admits s.now r = true) {f : Filter} {answer : Response}
    (rejected : (f.judge s.now r).1 = some answer) (inner : List Filter) :
    serveThrough fresh stage (outer ++ f :: inner) r s =
      (returned fresh outer r (.answered answer),
        outer.map (after s.now r) ++ f.after s.now r :: inner,
        recordedBy outer r s.now (.answered answer) (s.measure (f.events s.now r))) := by
  have hjudge : f.judge s.now r = (some answer, f.after s.now r, f.events s.now r) := by
    rw [← rejected]
    rfl
  rw [serveThrough_append fresh stage admitted, serveThrough, judge_passed, hjudge]

/-- **The cut**: a request that is rejected is served as if the chain ended there, in front of any
stage, and what is behind is as before. -/
theorem serveThrough_cut {outer : List Filter} {r : Request} {s : Scene σ}
    (admitted : ∀ g ∈ outer, g.admits s.now r = true) {f : Filter}
    (rejected : f.admits s.now r = false) (inner : List Filter) (other : Stage σ) :
    serveThrough fresh stage (outer ++ f :: inner) r s =
      let (o, upto, s') := serveThrough fresh other (outer ++ [f]) r s
      (o, upto ++ inner, s') := by
  obtain ⟨answer, -, hjudge⟩ := judge_of_rejects rejected
  have hanswer : (f.judge s.now r).1 = some answer := by rw [hjudge]
  rw [serveThrough_of_rejects fresh stage admitted hanswer,
    serveThrough_of_rejects fresh other admitted hanswer]
  simp only [List.append_assoc, List.cons_append, List.nil_append]

theorem behind_recordedBy (filters : List Filter) (r : Request) (start : Nat) (o : Outcome)
    (s : Scene σ) : (recordedBy filters r start o s).behind = s.behind := by
  induction filters with
  | nil => rfl
  | cons f rest ih =>
    show (f.recorded r start o (recordedBy rest r start o s)).behind = s.behind
    rw [behind_recorded, ih]

end

/-! ## Headline -/

/-- The filters in front of the first one that rejects all admit. -/
theorem exists_first_rejecting {now : Nat} {r : Request} {filters : List Filter}
    (h : ∃ f ∈ filters, f.admits now r = false) :
    ∃ outer f inner, filters = outer ++ f :: inner ∧
      (∀ g ∈ outer, g.admits now r = true) ∧ f.admits now r = false := by
  have hfound : (filters.find? fun f => !f.admits now r).isSome := by
    obtain ⟨f, hf, hrejects⟩ := h
    exact List.find?_isSome.mpr ⟨f, hf, by rw [hrejects]; rfl⟩
  obtain ⟨f, hfirst⟩ := Option.isSome_iff_exists.mp hfound
  obtain ⟨hrejects, outer, inner, heq, hpass⟩ := List.find?_eq_some_iff_append.mp hfirst
  refine ⟨outer, f, inner, heq, fun g hg => ?_, ?_⟩
  · simpa using hpass g hg
  · simpa using hrejects

/-- **Headline.**  A chain is transparent or cut.  If all filters admit a request, the stage behind
them is called once, with the request, and its outcome comes back; both carry the name of the
request if a filter of the chain gives it one, and are otherwise untouched.  If some filter rejects
it, the stage is not called, and the answer is the rejection of the first that does, with the name
if a filter in front of that one gives it. -/
theorem transparent_or_cut {σ : Type} (fresh : HeaderValue) (stage : Stage σ)
    (filters : List Filter) (r : Request) (s : Scene (List Request × σ)) :
    let served := serveThrough fresh stage.recording filters r s
    let id := requestIdFor fresh r.headers
    ((∀ f ∈ filters, f.admits s.now r = true) →
      let handed := if requestId ∈ filters then r.named fresh else r
      let called := stage handed s.unrecorded
      served.2.2.behind = (s.behind.1 ++ [handed], called.2.behind) ∧
      served.1 = if requestId ∈ filters then called.1.named id else called.1) ∧
    ((∃ f ∈ filters, f.admits s.now r = false) →
      ∃ outer f inner answer, filters = outer ++ f :: inner ∧
        (∀ g ∈ outer, g.admits s.now r = true) ∧ f.admits s.now r = false ∧
        f.Rejection s.now r answer ∧
        served.2.2.behind = s.behind ∧
        served.1 = .answered (if requestId ∈ outer then answer.named id else answer)) := by
  intro served id
  constructor
  · intro admitted handed called
    have hserved : served = _ := serveThrough_of_admits fresh stage.recording admitted
    rw [hserved, passed_eq]
    dsimp only
    rw [behind_recordedBy]
    exact ⟨rfl, rfl⟩
  · intro rejected
    obtain ⟨outer, f, inner, rfl, hpass, hreject⟩ := exists_first_rejecting rejected
    obtain ⟨answer, hrejection, hjudge⟩ := judge_of_rejects hreject
    have hserved : served = _ :=
      serveThrough_of_rejects fresh stage.recording hpass (by rw [hjudge]) inner
    refine ⟨outer, f, inner, answer, rfl, hpass, hreject, hrejection, ?_, ?_⟩
    · rw [hserved, behind_recordedBy]
      rfl
    · rw [hserved]
      unfold returned
      split <;> rfl

/-- A chain that names requests twice, and two requests: one that passes, and one for another
host. -/
theorem transparent_or_cut_of_two :
    let filters := [requestId, host (HostGlob.parse "a.org"), throttle "t" ⟨1, 1, .never⟩, requestId]
    let fresh := HeaderValue.ofString "7"
    let stage : Stage Nat := fun _ s => (.answered (.bare 204), { s with behind := s.behind + 1 })
    let scene : Scene (List Request × Nat) := ⟨0, 0, [], [], ([], 0)⟩
    let a : Request := ⟨"GET", ⟨none, none, "/", none⟩, [("host", .ofString "a.org")], [], none⟩
    let b : Request := ⟨"GET", ⟨none, none, "/", none⟩, [("host", .ofString "b.org")], [], none⟩
    let served (r : Request) := serveThrough fresh stage.recording filters r scene
    (∀ f ∈ filters, f.admits 0 a = true) ∧
    (served a).2.2.behind = ([a.named fresh], 1) ∧
    (served a).1 = .answered (Response.named fresh (.bare 204)) ∧
    (∃ f ∈ filters, f.admits 0 b = false) ∧
    (served b).2.2.behind = ([], 0) ∧
    (served b).1 = .answered (Response.named fresh ⟨404, [], []⟩) := by
  intro filters fresh stage scene a b served
  have hclear : ∀ f ∈ filters, f.admits 0 a = true := by decide
  have hreject : ∃ f ∈ filters, f.admits 0 b = false := by decide
  obtain ⟨hcalled, hreturned⟩ := (transparent_or_cut fresh stage filters a scene).1 hclear
  obtain ⟨outer, f, inner, answer, -, -, -, -, hbehind, -⟩ :=
    (transparent_or_cut fresh stage filters b scene).2 hreject
  exact ⟨hclear, hcalled, hreturned, hreject, hbehind, by decide⟩

end Filter

end Turnstile
