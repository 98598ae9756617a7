import Mathlib.Data.List.Perm.Basic
import Turnstile.Backend
/-!
  The numbers that the sample service gives out.

  1. **Program** (`BackendHistory.run`) — requests come to the service one after the other, and each
     is refused or taken by an endpoint.  The calls that are taken overlap: a call waits, others
     come, and in any order, at any time, one that waits is answered or its client leaves.  Some
     calls are never answered.

  2. **Specification** (`Reaches`) — an endpoint gets the requests for its path that read, and whose
     query is well-formed if it looks at the query.  In each of the two families, the requests that
     reach an endpoint have the numbers from one on, in the order in which they came, whatever
     becomes of them; all other requests have none.

  3. **The crux** (`visits_run`) — which numbers are given out depends on the arrivals alone, for a
     number is drawn when the call begins, and the end of a call touches no counter.

  4. **Headline** (`numbers_of_run`) — by induction on the arrivals, with the counters as the state
     that is generalized over.  No number is used twice, since each call that was taken is waiting,
     answered or left, and only one of them.  The document of an answer shows it
     (`exists_document`).
-/

namespace Turnstile

/-! ## Endpoints -/

namespace Endpoint

theorem mem_all (e : Endpoint) : e ∈ all := by
  cases e <;> decide

/-- No two endpoints have one path. -/
theorem path_injective {e e' : Endpoint} (h : e.path = e'.path) : e = e' := by
  have hall : ∀ e ∈ all, ∀ e' ∈ all, e.path = e'.path → e = e' := by decide
  exact hall e (mem_all e) e' (mem_all e') h

theorem at?_eq_some_iff {path : String} {e : Endpoint} : at? path = some e ↔ path = e.path := by
  constructor
  · intro h
    have hfound := List.find?_some h
    exact (beq_iff_eq.mp hfound).symm
  · rintro rfl
    cases h : at? e.path with
    | none =>
      have hnone := List.find?_eq_none.mp h e (mem_all e)
      simp at hnone
    | some e' =>
      have hfound := List.find?_some h
      rw [path_injective (beq_iff_eq.mp hfound)]

end Endpoint

namespace Backend

/-! ## Specification -/

/-- **Reaches**: an endpoint gets a request. -/
structure Reaches (r : Request) (e : Endpoint) : Prop where
  path : r.uri.path = e.path
  method : r.method = "GET" ∨ r.method = "HEAD"
  /-- Endpoints that do not wait do not look at the query. -/
  query : e.defaultDelay? ≠ none → ∃ asked, queryDelay r.uri.query = .ok asked

/-- A request reaches an endpoint of a family. -/
def ReachesFamily (breaker : Bool) (r : Request) : Prop := ∃ e, Reaches r e ∧ e.isBreaker = breaker

theorem exists_ok_iff {ε α : Type} {x : Except ε α} : (∃ a, x = .ok a) ↔ x.toBool = true := by
  cases x <;> simp [Except.toBool]

instance (r : Request) (e : Endpoint) : Decidable (Reaches r e) :=
  decidable_of_iff (r.uri.path = e.path ∧ (r.method = "GET" ∨ r.method = "HEAD") ∧
      (e.defaultDelay? ≠ none → (queryDelay r.uri.query).toBool = true))
    ⟨fun ⟨hpath, hmethod, hquery⟩ => ⟨hpath, hmethod, fun h => exists_ok_iff.mpr (hquery h)⟩,
      fun ⟨hpath, hmethod, hquery⟩ => ⟨hpath, hmethod, fun h => exists_ok_iff.mp (hquery h)⟩⟩

instance (breaker : Bool) (r : Request) : Decidable (ReachesFamily breaker r) :=
  decidable_of_iff (∃ e ∈ Endpoint.all, Reaches r e ∧ e.isBreaker = breaker)
    ⟨fun ⟨e, _, h⟩ => ⟨e, h⟩, fun ⟨e, h⟩ => ⟨e, e.mem_all, h⟩⟩

/-- A request has one path, so it reaches one endpoint at most. -/
theorem Reaches.unique {r : Request} {e e' : Endpoint} (h : Reaches r e) (h' : Reaches r e') :
    e = e' :=
  Endpoint.path_injective (h.path.symm.trans h'.path)

theorem Reaches.family_iff {r : Request} {e : Endpoint} (h : Reaches r e) (breaker : Bool) :
    ReachesFamily breaker r ↔ e.isBreaker = breaker := by
  constructor
  · rintro ⟨e', h', hbreaker⟩
    rwa [h.unique h']
  · exact fun hbreaker => ⟨e, h, hbreaker⟩

/-! ## One call -/

/-- The last number that a family has given out. -/
def count (b : Backend) (breaker : Bool) : Nat :=
  if breaker then b.breakerNumbered else b.numbered

/-- The number that a call has in a family. -/
def Call.number? (breaker : Bool) : Call → Option Nat
  | .refused _ => none
  | .taken e number _ => if e.isBreaker = breaker then some number else none

theorem next_fst (b : Backend) (e : Endpoint) : (b.next e).1 = b.count e.isBreaker + 1 := by
  unfold next count
  split <;> rfl

/-- A number is drawn in one family, and the other one stays as it is. -/
theorem count_next (b : Backend) (e : Endpoint) (breaker : Bool) :
    (b.next e).2.count breaker = b.count breaker + if e.isBreaker = breaker then 1 else 0 := by
  unfold next count
  cases he : e.isBreaker <;> cases breaker <;> simp

/-- A request that reaches an endpoint takes the next number of its family. -/
theorem call_of_reaches {r : Request} {e : Endpoint} (h : Reaches r e) (b : Backend) :
    ∃ delay, b.call r = (.taken e (b.count e.isBreaker + 1) delay, (b.next e).2) := by
  have hreads : isReading r.method = true := decide_eq_true h.method
  obtain ⟨delay, hdelay⟩ : ∃ delay, b.delayFor e r.uri.query = .ok delay := by
    unfold delayFor
    cases hstandard : e.defaultDelay? with
    | none => exact ⟨0, rfl⟩
    | some standard =>
      obtain ⟨asked, hasked⟩ := h.query (by rw [hstandard]; exact nofun)
      rw [hasked]
      exact ⟨_, rfl⟩
  refine ⟨delay, ?_⟩
  unfold call
  rw [Endpoint.at?_eq_some_iff.mpr h.path]
  dsimp only
  rw [hreads, hdelay, ← next_fst]
  rfl

/-- A request that reaches no endpoint is refused, and takes no number. -/
theorem call_of_not_reaches {r : Request} (h : ∀ e, ¬ Reaches r e) (b : Backend) :
    ∃ response, b.call r = (.refused response, b) := by
  unfold call
  cases hat : Endpoint.at? r.uri.path with
  | none => exact ⟨_, rfl⟩
  | some e =>
    dsimp only
    by_cases hreads : isReading r.method = true
    · rw [hreads, Bool.not_true, if_neg Bool.false_ne_true]
      cases hdelay : b.delayFor e r.uri.query with
      | error reason => exact ⟨_, rfl⟩
      | ok delay =>
        -- the query does not stand in the way either
        refine absurd ⟨Endpoint.at?_eq_some_iff.mp hat, of_decide_eq_true hreads, ?_⟩ (h e)
        intro hwaits
        unfold delayFor at hdelay
        cases hstandard : e.defaultDelay? with
        | none => exact absurd hstandard hwaits
        | some standard =>
          rw [hstandard] at hdelay
          cases hasked : queryDelay r.uri.query with
          | error reason =>
            rw [hasked] at hdelay
            cases hdelay
          | ok asked => exact ⟨asked, rfl⟩
    · rw [Bool.not_eq_true] at hreads
      rw [hreads, Bool.not_false, if_pos rfl]
      exact ⟨_, rfl⟩

/-- **One call**: what reaches a family has its next number, and moves its counter by one. -/
theorem call_family (b : Backend) (r : Request) (breaker : Bool) :
    (b.call r).1.number? breaker =
        (if ReachesFamily breaker r then some (b.count breaker + 1) else none) ∧
      (b.call r).2.count breaker = b.count breaker + if ReachesFamily breaker r then 1 else 0 := by
  by_cases hreaches : ∃ e, Reaches r e
  · obtain ⟨e, he⟩ := hreaches
    obtain ⟨delay, hcall⟩ := call_of_reaches he b
    rw [hcall]
    dsimp only
    rw [count_next, Call.number?]
    by_cases hbreaker : e.isBreaker = breaker
    · have hfamily : ReachesFamily breaker r := (he.family_iff breaker).mpr hbreaker
      rw [if_pos hbreaker, if_pos hbreaker, if_pos hfamily, if_pos hfamily, hbreaker]
      exact ⟨rfl, rfl⟩
    · have hfamily : ¬ ReachesFamily breaker r := mt (he.family_iff breaker).mp hbreaker
      rw [if_neg hbreaker, if_neg hbreaker, if_neg hfamily, if_neg hfamily]
      exact ⟨rfl, rfl⟩
  · have hnone : ∀ e, ¬ Reaches r e := fun e he => hreaches ⟨e, he⟩
    have hfamily : ¬ ReachesFamily breaker r := fun ⟨e, he, _⟩ => hnone e he
    obtain ⟨response, hcall⟩ := call_of_not_reaches hnone b
    rw [hcall, if_neg hfamily, if_neg hfamily]
    exact ⟨rfl, rfl⟩

/-- **One answer**: an endpoint that answers does so with a document that shows the number. -/
theorem exists_document (e : Endpoint) (number delay : Nat) (coin : Bool) (wall : Nat)
    (h : Headers) (answers : answer e number delay coin wall h ≠ .never) :
    ∃ wait status document,
      answer e number delay coin wall h = .after wait (.json status document) ∧
      document.member? "request_id" = some (.number number) := by
  cases e with
  | breakerTimeout => exact absurd rfl answers
  | random => cases coin <;> exact ⟨_, _, _, rfl, rfl⟩
  | breakerRandom => cases coin <;> exact ⟨_, _, _, rfl, rfl⟩
  | _ => exact ⟨_, _, _, rfl, rfl⟩

/-! ## Arrivals -/

/-- A request, and what it came to. -/
abbrev Visit := Request × Call

/-- What requests come to, one after the other. -/
def visits (b : Backend) : List Request → List Visit
  | [] => []
  | r :: rest => (r, (b.call r).1) :: visits (b.call r).2 rest

/-- The numbers that visits have in a family. -/
def numbers (breaker : Bool) (vs : List Visit) : List Nat :=
  vs.filterMap fun v => v.2.number? breaker

/-- How many of some requests reach a family. -/
def reaching (breaker : Bool) (rs : List Request) : Nat :=
  rs.countP fun r => ReachesFamily breaker r

theorem reaching_cons (breaker : Bool) (r : Request) (rs : List Request) :
    reaching breaker (r :: rs) =
      (if ReachesFamily breaker r then 1 else 0) + reaching breaker rs := by
  unfold reaching
  rw [List.countP_cons, Nat.add_comm]
  simp

/-- **No gaps**: the numbers of a family follow each other, from the one after the last. -/
theorem numbers_visits (b : Backend) (breaker : Bool) (rs : List Request) :
    numbers breaker (b.visits rs) = List.range' (b.count breaker + 1) (reaching breaker rs) := by
  induction rs generalizing b with
  | nil => rfl
  | cons r rest ih =>
    obtain ⟨hnumber, hcount⟩ := b.call_family r breaker
    have hrest := ih (b.call r).2
    unfold numbers at hrest ⊢
    rw [visits, List.filterMap_cons, hrest, hnumber, hcount, reaching_cons]
    by_cases hreaches : ReachesFamily breaker r
    · simp [hreaches, Nat.add_comm 1, List.range'_succ]
    · simp [hreaches]

/-- **One each**: a request that reaches an endpoint has the number after those of the requests
before it that reached its family; any other is refused. -/
theorem getElem?_visits (b : Backend) {rs : List Request} {i : Nat} {r : Request}
    (hr : rs[i]? = some r) :
    (∀ e, Reaches r e → ∃ delay, (b.visits rs)[i]? = some (r, .taken e
      (b.count e.isBreaker + reaching e.isBreaker (rs.take i) + 1) delay)) ∧
    ((∀ e, ¬ Reaches r e) → ∃ response, (b.visits rs)[i]? = some (r, .refused response)) := by
  induction rs generalizing b i with
  | nil => cases hr
  | cons first rest ih =>
    cases i with
    | zero =>
      obtain rfl := Option.some.inj hr
      refine ⟨fun e he => ?_, fun hnone => ?_⟩
      · obtain ⟨delay, hcall⟩ := call_of_reaches he b
        refine ⟨delay, ?_⟩
        rw [visits, hcall]
        rfl
      · obtain ⟨response, hcall⟩ := call_of_not_reaches hnone b
        refine ⟨response, ?_⟩
        rw [visits, hcall]
        rfl
    | succ i =>
      obtain ⟨htaken, hrefused⟩ := ih (b.call first).2 hr
      refine ⟨fun e he => ?_, fun hnone => ?_⟩
      · obtain ⟨delay, hdelay⟩ := htaken e he
        refine ⟨delay, ?_⟩
        rw [visits, List.getElem?_cons_succ, hdelay, List.take_succ_cons, reaching_cons,
          (b.call_family first e.isBreaker).2, Nat.add_assoc (b.count e.isBreaker)]
      · obtain ⟨response, hresponse⟩ := hrefused hnone
        exact ⟨response, by rw [visits, List.getElem?_cons_succ, hresponse]⟩

end Backend

/-! ## Program -/

/-- What happens at the sample service. -/
inductive BackendEvent where
  /-- A request comes. -/
  | arrival (r : Request)
  /-- The waiting call at a position has waited long enough. -/
  | answer (i : Nat) (coin : Bool) (wall : Nat)
  /-- The client of the waiting call at a position leaves. -/
  | departure (i : Nat)

/-- The sample service with the calls that it has taken. -/
structure BackendHistory where
  backend : Backend
  /-- All requests that have come, in their order. -/
  visits : List Backend.Visit
  /-- Calls that endpoints have begun and not ended. -/
  waiting : List Backend.Visit
  /-- What has been answered, and how. -/
  answered : List (Backend.Visit × BackendReply)
  /-- Calls whose clients have left. -/
  departed : List Backend.Visit

namespace BackendHistory

open Backend

/-- The service before its first request. -/
def start (maxDelay : Nat) : BackendHistory := ⟨.start maxDelay, [], [], [], []⟩

/-- One event.  A refusal takes no time; a call that an endpoint takes is begun, and waits. -/
def step (s : BackendHistory) : BackendEvent → BackendHistory
  | .arrival r =>
    let (c, backend) := s.backend.call r
    let s := { s with backend, visits := s.visits ++ [(r, c)] }
    match c with
    | .refused response =>
      { s with answered := s.answered ++ [((r, c), .after 0 response)] }
    | .taken _ _ _ => { s with waiting := s.waiting ++ [(r, c)] }
  | .answer i coin wall =>
    match s.waiting[i]? with
    | none => s
    | some v =>
      match reply coin wall v.1 v.2 with
      | .never => s
      | .after delay response =>
        { s with
          waiting := s.waiting.eraseIdx i
          answered := s.answered ++ [(v, .after delay response)] }
  | .departure i =>
    match s.waiting[i]? with
    | none => s
    | some v => { s with waiting := s.waiting.eraseIdx i, departed := s.departed ++ [v] }

/-- Events, one after the other. -/
def run (s : BackendHistory) (events : List BackendEvent) : BackendHistory := events.foldl step s

/-- The requests that come. -/
def arrivals : List BackendEvent → List Request
  | [] => []
  | .arrival r :: rest => r :: arrivals rest
  | _ :: rest => arrivals rest

/-! ## Crux -/

theorem step_arrival (s : BackendHistory) (r : Request) :
    (s.step (.arrival r)).visits = s.visits ++ [(r, (s.backend.call r).1)] ∧
      (s.step (.arrival r)).backend = (s.backend.call r).2 := by
  unfold step
  dsimp only
  split <;> exact ⟨rfl, rfl⟩

/-- The end of a call is no visit, and touches no counter. -/
theorem step_answer (s : BackendHistory) (i : Nat) (coin : Bool) (wall : Nat) :
    (s.step (.answer i coin wall)).visits = s.visits ∧
      (s.step (.answer i coin wall)).backend = s.backend := by
  unfold step
  dsimp only
  split
  · exact ⟨rfl, rfl⟩
  · split <;> exact ⟨rfl, rfl⟩

theorem step_departure (s : BackendHistory) (i : Nat) :
    (s.step (.departure i)).visits = s.visits ∧ (s.step (.departure i)).backend = s.backend := by
  unfold step
  dsimp only
  split <;> exact ⟨rfl, rfl⟩

/-- **The crux**: what the requests of a run come to is what they come to if no call ever ends. -/
theorem visits_run (s : BackendHistory) (events : List BackendEvent) :
    (s.run events).visits = s.visits ++ s.backend.visits (arrivals events) := by
  induction events generalizing s with
  | nil => exact (List.append_nil s.visits).symm
  | cons event rest ih =>
    have hrest := ih (s.step event)
    show ((s.step event).run rest).visits = _
    rw [hrest]
    cases event with
    | arrival r =>
      obtain ⟨hvisits, hbackend⟩ := s.step_arrival r
      rw [hvisits, hbackend, List.append_assoc]
      rfl
    | answer i coin wall =>
      obtain ⟨hvisits, hbackend⟩ := s.step_answer i coin wall
      rw [hvisits, hbackend]
      rfl
    | departure i =>
      obtain ⟨hvisits, hbackend⟩ := s.step_departure i
      rw [hvisits, hbackend]
      rfl

/-! ## The end of calls -/

/-- **Accounted**: each visit is answered, waiting or departed, and an answer is that of its
call. -/
structure Accounted (s : BackendHistory) : Prop where
  once : (s.answered.map (·.1) ++ s.waiting ++ s.departed).Perm s.visits
  own : ∀ a ∈ s.answered, a.2 ≠ .never ∧ ∃ coin wall, a.2 = reply coin wall a.1.1 a.1.2

theorem start_accounted (maxDelay : Nat) : (start maxDelay).Accounted :=
  ⟨.refl _, fun _ ha => absurd ha List.not_mem_nil⟩

/-- A call that has ended is taken out of those that wait. -/
theorem perm_eraseIdx {vs : List Visit} {i : Nat} {v : Visit} (h : vs[i]? = some v) :
    (v :: vs.eraseIdx i).Perm vs := by
  obtain ⟨hi, rfl⟩ := List.getElem?_eq_some_iff.mp h
  exact List.getElem_cons_eraseIdx_perm hi

/-- An event moves a visit at most, from those that wait to those that have ended. -/
theorem Accounted.step {s : BackendHistory} (h : s.Accounted) (event : BackendEvent) :
    (s.step event).Accounted := by
  obtain ⟨honce, hown⟩ := h
  have hmore : ∀ {a : Visit × BackendReply},
      (a.2 ≠ .never ∧ ∃ coin wall, a.2 = reply coin wall a.1.1 a.1.2) →
      ∀ b ∈ s.answered ++ [a],
        b.2 ≠ .never ∧ ∃ coin wall, b.2 = reply coin wall b.1.1 b.1.2 := by
    intro a ha b hb
    rcases List.mem_append.mp hb with hb | hb
    · exact hown b hb
    · rwa [List.mem_singleton.mp hb]
  rw [List.perm_iff_count] at honce
  cases event with
  | arrival r =>
    unfold BackendHistory.step
    dsimp only
    split
    · rename_i response hcall
      refine ⟨List.perm_iff_count.mpr fun v => ?_, hmore ⟨nofun, false, 0, ?_⟩⟩
      · have hv := honce v
        simp only [List.map_append, List.map_cons, List.map_nil, List.count_append] at hv ⊢
        omega
      · show _ = reply false 0 r (s.backend.call r).1
        rw [hcall]
        rfl
    · refine ⟨List.perm_iff_count.mpr fun v => ?_, hown⟩
      have hv := honce v
      simp only [List.count_append] at hv ⊢
      omega
  | answer i coin wall =>
    unfold BackendHistory.step
    dsimp only
    split
    · exact ⟨List.perm_iff_count.mpr honce, hown⟩
    · rename_i v hwaiting
      split
      · exact ⟨List.perm_iff_count.mpr honce, hown⟩
      · rename_i delay response hreply
        refine ⟨List.perm_iff_count.mpr fun w => ?_, hmore ⟨nofun, coin, wall, hreply.symm⟩⟩
        have hw := honce w
        have hmoved := List.perm_iff_count.mp (perm_eraseIdx hwaiting) w
        simp only [List.map_append, List.map_cons, List.map_nil, List.count_append,
          List.count_cons, List.count_nil] at hw hmoved ⊢
        omega
  | departure i =>
    unfold BackendHistory.step
    dsimp only
    split
    · exact ⟨List.perm_iff_count.mpr honce, hown⟩
    · rename_i v hwaiting
      refine ⟨List.perm_iff_count.mpr fun w => ?_, hown⟩
      have hw := honce w
      have hmoved := List.perm_iff_count.mp (perm_eraseIdx hwaiting) w
      simp only [List.count_append, List.count_cons, List.count_nil] at hw hmoved ⊢
      omega

theorem Accounted.run {s : BackendHistory} (h : s.Accounted) (events : List BackendEvent) :
    (s.run events).Accounted := by
  induction events generalizing s with
  | nil => exact h
  | cons event rest ih => exact ih (h.step event)

/-- The document of an answer shows the number of its call. -/
theorem Accounted.document {s : BackendHistory} (h : s.Accounted) {a : Visit × BackendReply}
    (ha : a ∈ s.answered) {e : Endpoint} {number delay : Nat}
    (taken : a.1.2 = .taken e number delay) :
    ∃ wait status document,
      a.2 = .after wait (.ofRoute a.1.1.method (.json status document)) ∧
      document.member? "request_id" = some (.number number) := by
  obtain ⟨hends, coin, wall, hreply⟩ := h.own a ha
  rw [taken] at hreply
  have hanswers : answer e number delay coin wall a.1.1.headers ≠ .never := by
    intro hnever
    rw [hreply, reply, hnever] at hends
    exact hends rfl
  obtain ⟨wait, status, document, hanswer, hnumber⟩ := exists_document e _ _ _ _ _ hanswers
  refine ⟨wait, status, document, ?_, hnumber⟩
  rw [hreply, reply, hanswer]
  rfl

/-! ## Headline -/

/-- **Headline.**  In every run of the service, however its calls overlap and whatever becomes of
them:

* each family gives out the numbers from one on, in the order in which the calls began, as many as
  there are requests that reached it;
* a request that reaches an endpoint, be it one that never answers, or for the head of an answer, or
  still waiting, has one number, of the family of the endpoint; a request that reaches none is
  refused and has no number;
* each visit is answered, waiting or departed, once, and an answer of an endpoint is a document that
  shows the number of the call. -/
theorem numbers_of_run (maxDelay : Nat) (events : List BackendEvent) :
    let s := (start maxDelay).run events
    (∀ breaker, numbers breaker s.visits =
      List.range' 1 (reaching breaker (arrivals events))) ∧
    (∀ (i : Nat) (r : Request), (arrivals events)[i]? = some r →
      (∀ e, Reaches r e → ∃ delay, s.visits[i]? =
        some (r, .taken e (reaching e.isBreaker ((arrivals events).take i) + 1) delay)) ∧
      ((∀ e, ¬ Reaches r e) → ∃ response, s.visits[i]? = some (r, .refused response))) ∧
    s.Accounted ∧
    ∀ a ∈ s.answered, ∀ e number delay, a.1.2 = .taken e number delay →
      ∃ wait status document,
        a.2 = .after wait (.ofRoute a.1.1.method (.json status document)) ∧
        document.member? "request_id" = some (.number number) := by
  intro s
  have haccounted : s.Accounted := (start_accounted maxDelay).run events
  have hvisits : s.visits = (Backend.start maxDelay).visits (arrivals events) :=
    visits_run (start maxDelay) events
  have hcount : ∀ breaker, (Backend.start maxDelay).count breaker = 0 := by
    intro breaker
    cases breaker <;> rfl
  refine ⟨fun breaker => ?_, fun i r hr => ?_, haccounted,
    fun a ha _ _ _ taken => haccounted.document ha taken⟩
  · rw [hvisits, numbers_visits, hcount]
  · obtain ⟨htaken, hrefused⟩ := (Backend.start maxDelay).getElem?_visits hr
    rw [hvisits]
    refine ⟨fun e he => ?_, hrefused⟩
    obtain ⟨delay, hdelay⟩ := htaken e he
    rw [hcount, Nat.zero_add] at hdelay
    exact ⟨delay, hdelay⟩

/-- A call that is never answered, one for the head of an answer that is still waiting, two that are
refused, and one that is answered: the families count two and one. -/
theorem numbers_of_run_of_overlapping :
    let get (method path : String) (query : Option String) : Request :=
      ⟨method, ⟨none, none, path, query⟩, [], [], none⟩
    let events : List BackendEvent :=
      [.arrival (get "GET" "/breaker/timeout" none),
        .arrival (get "HEAD" "/test/slow" (some "delay=9")), .answer 0 false 0,
        .arrival (get "POST" "/test/normal" none),
        .arrival (get "GET" "/test/slow" (some "delay=soon")),
        .arrival (get "GET" "/test/normal" none), .answer 2 false 0, .departure 0]
    let s := (start 60000).run events
    numbers false s.visits = [1, 2] ∧ numbers true s.visits = [1] ∧
    (arrivals events)[4]? = some (get "GET" "/test/normal" none) ∧
    Reaches (get "GET" "/test/normal" none) .normal ∧
    (∃ delay, s.visits[4]? = some (get "GET" "/test/normal" none, .taken .normal 2 delay)) ∧
    s.Accounted ∧
    ∃ a ∈ s.answered, ∃ wait status document,
      a.2 = .after wait (.ofRoute "GET" (.json status document)) ∧
      document.member? "request_id" = some (.number 2) := by
  intro get events s
  obtain ⟨hnumbers, heach, haccounted, hdocuments⟩ := numbers_of_run 60000 events
  have htest : reaching false (arrivals events) = 2 := by decide +kernel
  have hbreaker : reaching true (arrivals events) = 1 := by decide +kernel
  have hreaches : Reaches (get "GET" "/test/normal" none) .normal := by decide +kernel
  have hbefore : reaching false ((arrivals events).take 4) = 1 := by decide +kernel
  obtain ⟨delay, hvisit⟩ := (heach 4 (get "GET" "/test/normal" none) rfl).1 .normal hreaches
  have hanswered : (s.answered[2]?).map (·.1) =
      some (get "GET" "/test/normal" none, .taken .normal 2 0) := by decide +kernel
  obtain ⟨a, ha, hcall⟩ := Option.map_eq_some_iff.mp hanswered
  have hmem : a ∈ s.answered := List.mem_of_getElem? ha
  have hdocument := hdocuments a hmem .normal 2 0 (congrArg (·.2) hcall)
  rw [hcall] at hdocument
  refine ⟨?_, ?_, rfl, hreaches, ⟨delay, ?_⟩, haccounted, a, hmem, hdocument⟩
  · exact (hnumbers false).trans (by rw [htest]; rfl)
  · exact (hnumbers true).trans (by rw [hbreaker]; rfl)
  · exact hvisit.trans (by rw [show Endpoint.normal.isBreaker = false from rfl, hbefore])

end BackendHistory

end Turnstile
