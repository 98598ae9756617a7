import Turnstile.Proofs.Bucket.Step
import Turnstile.Proofs.Filter.Passage
/-!
  Runs of requests through a chain.

  1. **Program** (`serveVisit`, `runThrough`) — requests come one after the other, each at its own
     time, and a run notes what came of each and at which position it was rejected, if it was.

  2. **What a request does to a chain** (`filters_serveThrough`) — it is judged by the filters up to
     the first that rejects it, and the others stay as they are.

  3. **Behind** (`runThrough_append`) — filters behind others live through what those let through,
     and through nothing else.  By induction on the visits.

  4. **Nothing spent** (`Reached.after_of_rejects`) — a filter that rejects a request stays as it
     is: a bucket that is out of tokens has nothing to be credited, and a refusal of a gate is not
     remembered.

  5. **Removal** (`runThrough_kept`) — so the visits that a filter rejects can be left out of a run,
     if the filters in front of it do not count visits.  If they do, they cannot
     (`removal_behind_throttle`).
-/

namespace Turnstile

/-- A request that comes to a chain. -/
structure Visit where
  /-- Nanoseconds of the clock that never goes back. -/
  now : Nat
  /-- Milliseconds of the wall clock. -/
  wall : Nat
  /-- The name of the request, should it bring none. -/
  fresh : HeaderValue
  request : Request
  deriving DecidableEq, Repr

namespace Filter

/-- The position of the first filter that rejects a request. -/
def rejectedAt? (now : Nat) (r : Request) (filters : List Filter) : Option Nat :=
  filters.findIdx? fun f => !f.admits now r

/-- A visit, and what came of it. -/
structure Served where
  visit : Visit
  /-- Where it was rejected. -/
  cut : Option Nat
  outcome : Outcome
  measured : List Measurement
  completions : List Completion
  deriving DecidableEq, Repr

/-- Whether a visit came past the first `n` filters. -/
def Served.passes (n : Nat) (v : Served) : Bool := v.cut.all (n ≤ ·)

/-- Where a visit was rejected and what came of it, as filters in front see it: the position counts
them too, and they hand the outcome back. -/
def Served.handedBack (front : List Filter) (v : Served) : Option Nat × Outcome :=
  (v.cut.map (· + front.length), returned v.visit.fresh front v.visit.request v.outcome)

/-- The filters after they have judged a request. -/
def afterAll (now : Nat) (r : Request) : List Filter → List Filter
  | [] => []
  | f :: rest => f.after now r :: if f.admits now r then afterAll now r rest else rest

section

variable {σ : Type} (stage : Stage σ)

/-- Serves a visit. -/
def serveVisit (filters : List Filter) (behind : σ) (v : Visit) : Served × List Filter × σ :=
  let (o, filters', s) :=
    serveThrough v.fresh stage filters v.request ⟨v.now, v.wall, [], [], behind⟩
  (⟨v, rejectedAt? v.now v.request filters, o, s.measured, s.completions⟩, filters', s.behind)

/-- Serves visits one after the other. -/
def runThrough : List Filter → σ → List Visit → List Served × List Filter × σ
  | filters, behind, [] => ([], filters, behind)
  | filters, behind, v :: rest =>
    let (served, filters, behind) := serveVisit stage filters behind v
    let (more, filters, behind) := runThrough filters behind rest
    (served :: more, filters, behind)

end

/-- A stage that gives up every request. -/
def idle : Stage Unit := fun _ s => (.abandoned, s)

/-- A visit as some filters hand it on. -/
def handedOn (filters : List Filter) (v : Visit) : Visit :=
  { v with request := passed v.fresh filters v.request }

/-- The visits that some filters let through, as they hand them on. -/
def letThrough (filters : List Filter) (visits : List Visit) : List Visit :=
  ((runThrough idle filters () visits).1.filter (·.cut.isNone)).map fun v =>
    handedOn filters v.visit

/-! ## Positions -/

section

variable {now : Nat} {r : Request}

theorem rejectedAt?_eq_none_iff {filters : List Filter} :
    rejectedAt? now r filters = none ↔ ∀ f ∈ filters, f.admits now r = true := by
  unfold rejectedAt?
  rw [List.findIdx?_eq_none_iff]
  simp only [Bool.not_eq_false']

theorem rejectedAt?_cons (f : Filter) (rest : List Filter) :
    rejectedAt? now r (f :: rest) =
      if f.admits now r then (rejectedAt? now r rest).map (· + 1) else some 0 := by
  unfold rejectedAt?
  rw [List.findIdx?_cons]
  cases f.admits now r <;> rfl

theorem rejectedAt?_append (front behind : List Filter) :
    rejectedAt? now r (front ++ behind) =
      (rejectedAt? now r front).or ((rejectedAt? now r behind).map (· + front.length)) :=
  List.findIdx?_append

theorem lt_length_of_rejectedAt? {filters : List Filter} {i : Nat}
    (h : rejectedAt? now r filters = some i) : i < filters.length := by
  obtain ⟨hlt, -⟩ := List.findIdx?_eq_some_iff_getElem.mp h
  exact hlt

theorem rejectedAt?_length_iff {outer : List Filter} {f : Filter} {inner : List Filter} :
    rejectedAt? now r (outer ++ f :: inner) = some outer.length ↔
      (∀ g ∈ outer, g.admits now r = true) ∧ f.admits now r = false := by
  rw [rejectedAt?_append, ← rejectedAt?_eq_none_iff]
  cases houter : rejectedAt? now r outer with
  | none =>
    rw [Option.none_or, rejectedAt?_cons]
    cases f.admits now r with
    | true =>
      constructor
      · intro heq
        obtain ⟨i, hi, hlength⟩ := Option.map_eq_some_iff.mp heq
        obtain ⟨j, -, rfl⟩ := Option.map_eq_some_iff.mp hi
        omega
      · rintro ⟨-, hreject⟩
        cases hreject
    | false => exact ⟨fun _ => ⟨rfl, rfl⟩, fun _ => congrArg some (Nat.zero_add _)⟩
  | some i =>
    -- a position in front of `f` is not that of `f`
    have hlt := lt_length_of_rejectedAt? houter
    rw [Option.some_or]
    constructor
    · intro heq
      injection heq with heq
      omega
    · rintro ⟨hnone, -⟩
      cases hnone

theorem exists_of_rejectedAt? {filters : List Filter} {i : Nat}
    (h : rejectedAt? now r filters = some i) :
    ∃ outer f inner, filters = outer ++ f :: inner ∧ outer.length = i ∧
      (∀ g ∈ outer, g.admits now r = true) ∧ f.admits now r = false := by
  obtain ⟨hlt, hf, -⟩ := List.findIdx?_eq_some_iff_getElem.mp h
  have hsome : ∃ f ∈ filters, f.admits now r = false :=
    ⟨filters[i], List.getElem_mem hlt, by simpa using hf⟩
  obtain ⟨outer, f, inner, rfl, hfirst⟩ := exists_first_rejecting hsome
  rw [rejectedAt?_length_iff.mpr hfirst] at h
  exact ⟨outer, f, inner, rfl, Option.some.inj h, hfirst⟩

end

/-! ## What a request does to a chain -/

section

variable (now : Nat) (fresh : HeaderValue) (front : List Filter) (r : Request)

theorem admits_passed (f : Filter) : f.admits now (passed fresh front r) = f.admits now r := by
  rw [admits_eq, judge_passed, ← admits_eq]

theorem rejectedAt?_passed (filters : List Filter) :
    rejectedAt? now (passed fresh front r) filters = rejectedAt? now r filters := by
  unfold rejectedAt?
  simp only [admits_passed]

theorem afterAll_passed (filters : List Filter) :
    afterAll now (passed fresh front r) filters = afterAll now r filters := by
  induction filters with
  | nil => rfl
  | cons f rest ih => rw [afterAll, afterAll, after, judge_passed, admits_passed, ih, ← after]

end

theorem afterAll_singleton (now : Nat) (r : Request) (f : Filter) :
    afterAll now r [f] = [f.after now r] := by
  unfold afterAll
  exact congrArg (_ :: ·) (ite_self _)

theorem afterAll_append (now : Nat) (r : Request) (front behind : List Filter) :
    afterAll now r (front ++ behind) =
      afterAll now r front ++
        if rejectedAt? now r front = none then afterAll now r behind else behind := by
  induction front with
  | nil => rfl
  | cons f rest ih =>
    rw [List.cons_append, afterAll, afterAll, rejectedAt?_cons, ih]
    cases f.admits now r with
    | true =>
      rw [if_pos rfl, if_pos rfl, if_pos rfl, List.cons_append]
      simp only [Option.map_eq_none_iff]
    | false => rfl

section

variable {σ : Type} (fresh : HeaderValue) (stage : Stage σ)

theorem filters_serveThrough (filters : List Filter) (r : Request) (s : Scene σ) :
    (serveThrough fresh stage filters r s).2.1 = afterAll s.now r filters := by
  induction filters generalizing r s with
  | nil => rfl
  | cons f rest ih =>
    rw [serveThrough, afterAll]
    cases hf : f.admits s.now r with
    | true =>
      have hpassed : afterAll s.now (f.passedOn fresh r) rest = afterAll s.now r rest :=
        afterAll_passed s.now fresh [f] r rest
      rw [judge_of_admits hf, if_pos rfl, ← hpassed]
      exact congrArg (f.after s.now r :: ·) (ih (f.passedOn fresh r) (s.measure []))
    | false =>
      obtain ⟨answer, -, hjudge⟩ := judge_of_rejects hf
      rw [hjudge, if_neg Bool.false_ne_true]

/-- **One request**: rejected at a position, it is served as if the chain ended there, in front of
any stage, and what is behind is as before. -/
theorem serveThrough_of_rejectedAt {outer : List Filter} {f : Filter} {inner : List Filter}
    {r : Request} {s : Scene σ}
    (rejected : rejectedAt? s.now r (outer ++ f :: inner) = some outer.length) (other : Stage σ) :
    serveThrough fresh stage (outer ++ f :: inner) r s =
      let (o, upto, s') := serveThrough fresh other (outer ++ [f]) r s
      (o, upto ++ inner, s') := by
  obtain ⟨hpass, hreject⟩ := rejectedAt?_length_iff.mp rejected
  exact serveThrough_cut fresh stage hpass hreject inner other

/-- What is behind a chain is left alone by a request that is rejected. -/
theorem behind_of_rejectedAt? {filters : List Filter} {r : Request} {s : Scene σ} {i : Nat}
    (rejected : rejectedAt? s.now r filters = some i) :
    (serveThrough fresh stage filters r s).2.2.behind = s.behind := by
  obtain ⟨outer, f, inner, rfl, -, hpass, hreject⟩ := exists_of_rejectedAt? rejected
  obtain ⟨answer, -, hjudge⟩ := judge_of_rejects hreject
  rw [serveThrough_of_rejects fresh stage hpass (by rw [hjudge]), behind_recordedBy]
  rfl

end

/-! ## Behind -/

theorem asNew_afterAll (now : Nat) (r : Request) (filters : List Filter) :
    (afterAll now r filters).map asNew = filters.map asNew := by
  induction filters with
  | nil => rfl
  | cons f rest ih =>
    rw [afterAll, List.map_cons, List.map_cons, after, asNew_judge]
    split
    · rw [ih]
    · rfl

theorem length_afterAll (now : Nat) (r : Request) (filters : List Filter) :
    (afterAll now r filters).length = filters.length := by
  simpa only [List.length_map] using congrArg List.length (asNew_afterAll now r filters)

/-- Filters that differ in traces only hand requests on and back alike. -/
theorem behind_congr {front front' : List Filter} (h : front'.map asNew = front.map asNew) :
    handedOn front' = handedOn front ∧ Served.handedBack front' = Served.handedBack front := by
  have hmem : requestId ∈ front' ↔ requestId ∈ front :=
    ⟨requestId_mem_of_asNew_eq h, requestId_mem_of_asNew_eq h.symm⟩
  have hlength : front'.length = front.length := by
    simpa only [List.length_map] using congrArg List.length h
  constructor
  · funext v
    unfold handedOn
    rw [passed_eq, passed_eq]
    simp only [hmem]
  · funext v
    unfold Served.handedBack returned
    rw [hlength]
    simp only [hmem]

section

variable {σ : Type} (stage : Stage σ)

theorem afterAll_handedOn (front : List Filter) (v : Visit) (filters : List Filter) :
    afterAll (handedOn front v).now (handedOn front v).request filters =
      afterAll v.now v.request filters :=
  afterAll_passed v.now v.fresh front v.request filters

theorem filters_serveVisit (filters : List Filter) (behind : σ) (v : Visit) :
    (serveVisit stage filters behind v).2.1 = afterAll v.now v.request filters :=
  filters_serveThrough v.fresh stage filters v.request _

theorem runThrough_cons (filters : List Filter) (behind : σ) (v : Visit) (rest : List Visit) :
    runThrough stage filters behind (v :: rest) =
      ((serveVisit stage filters behind v).1 ::
          (runThrough stage (afterAll v.now v.request filters)
            (serveVisit stage filters behind v).2.2 rest).1,
        (runThrough stage (afterAll v.now v.request filters)
          (serveVisit stage filters behind v).2.2 rest).2) := by
  rw [← filters_serveVisit stage filters behind v]
  rfl

theorem letThrough_cons (filters : List Filter) (v : Visit) (rest : List Visit) :
    letThrough filters (v :: rest) =
      (if rejectedAt? v.now v.request filters = none then [handedOn filters v] else []) ++
        letThrough (afterAll v.now v.request filters) rest := by
  have hcut : (serveVisit idle filters () v).1.cut = rejectedAt? v.now v.request filters := rfl
  unfold letThrough
  rw [runThrough_cons, (behind_congr (asNew_afterAll v.now v.request filters)).1,
    List.filter_cons, hcut]
  cases rejectedAt? v.now v.request filters <;> rfl

/-- A visit that filters let through is to those behind as if it had come to them. -/
theorem serveVisit_append_of_admits {front : List Filter} {v : Visit}
    (admitted : rejectedAt? v.now v.request front = none) (behind : List Filter) (b : σ) :
    (serveVisit stage (front ++ behind) b v).1.passes front.length = true ∧
    ((serveVisit stage (front ++ behind) b v).1.cut,
        (serveVisit stage (front ++ behind) b v).1.outcome) =
      (serveVisit stage behind b (handedOn front v)).1.handedBack front ∧
    (serveVisit stage (front ++ behind) b v).2.2 =
      (serveVisit stage behind b (handedOn front v)).2.2 := by
  have hpass := rejectedAt?_eq_none_iff.mp admitted
  have hserved := serveThrough_append v.fresh stage (s := ⟨v.now, v.wall, [], [], b⟩) hpass behind
  have hcut : rejectedAt? v.now v.request (front ++ behind) =
      (rejectedAt? v.now (handedOn front v).request behind).map (· + front.length) := by
    rw [rejectedAt?_append, admitted, Option.none_or]
    unfold handedOn
    rw [rejectedAt?_passed]
  -- the visit keeps its name in front
  have hreturned : ∀ o, returned v.fresh front (passed v.fresh front v.request) o =
      returned v.fresh front v.request o := by
    intro o
    unfold returned
    rw [passed_eq]
    split
    · rw [requestIdFor_named]
    · rfl
  unfold serveVisit Served.handedBack Served.passes
  rw [hserved, hcut]
  refine ⟨?_, congrArg _ (hreturned _).symm, behind_recordedBy front _ _ _ _⟩
  dsimp only
  cases rejectedAt? v.now (handedOn front v).request behind with
  | none => rfl
  | some i => exact decide_eq_true (Nat.le_add_left _ i)

/-- A visit that filters reject is nothing to those behind. -/
theorem serveVisit_append_of_rejected {front : List Filter} {v : Visit} {i : Nat}
    (rejected : rejectedAt? v.now v.request front = some i) (behind : List Filter) (b : σ) :
    (serveVisit stage (front ++ behind) b v).1.passes front.length = false ∧
      (serveVisit stage (front ++ behind) b v).2.2 = b := by
  have hcut : rejectedAt? v.now v.request (front ++ behind) = some i := by
    rw [rejectedAt?_append, rejected, Option.some_or]
  have hlt := lt_length_of_rejectedAt? rejected
  constructor
  · show (rejectedAt? v.now v.request (front ++ behind)).all _ = false
    rw [hcut, Option.all_some, decide_eq_false_iff_not]
    omega
  · exact behind_of_rejectedAt? v.fresh stage (s := ⟨v.now, v.wall, [], [], b⟩) hcut

/-- **Behind**: filters behind others live through the visits that those let through, as if they
stood alone. -/
theorem runThrough_append (front behind : List Filter) (b : σ) (visits : List Visit) :
    let run := runThrough stage (front ++ behind) b visits
    let alone := runThrough stage behind b (letThrough front visits)
    run.2 = ((runThrough idle front () visits).2.1 ++ alone.2.1, alone.2.2) ∧
    (run.1.filter (·.passes front.length)).map (fun v => (v.cut, v.outcome)) =
      alone.1.map (Served.handedBack front) := by
  induction visits generalizing front behind b with
  | nil => exact ⟨rfl, rfl⟩
  | cons v rest ih =>
    have hnew := asNew_afterAll v.now v.request front
    have hbehind := (behind_congr hnew).2
    have hlength := length_afterAll v.now v.request front
    -- the front has changed in traces only, so it hands on and back what it did
    have hnext := ih (afterAll v.now v.request front)
    rw [hlength, hbehind] at hnext
    rw [letThrough_cons, runThrough_cons, runThrough_cons idle, afterAll_append]
    cases hfront : rejectedAt? v.now v.request front with
    | none =>
      obtain ⟨hpasses, hserved, hb⟩ := serveVisit_append_of_admits stage hfront behind b
      obtain ⟨hstate, hanswers⟩ := hnext (afterAll v.now v.request behind)
        (serveVisit stage behind b (handedOn front v)).2.2
      rw [if_pos rfl, if_pos rfl, List.singleton_append, runThrough_cons stage behind]
      show _ ∧ List.map _ (List.filter _ (_ :: _)) = _
      rw [List.filter_cons_of_pos hpasses, List.map_cons, hserved, hb, afterAll_handedOn]
      exact ⟨hstate, congrArg (_ :: ·) hanswers⟩
    | some i =>
      obtain ⟨hpasses, hb⟩ := serveVisit_append_of_rejected stage hfront behind b
      obtain ⟨hstate, hanswers⟩ := hnext behind b
      rw [if_neg (Option.some_ne_none i), if_neg (Option.some_ne_none i), List.nil_append, hb]
      show _ ∧ List.map _ (List.filter _ (_ :: _)) = _
      rw [List.filter_cons_of_neg (by rw [hpasses]; exact Bool.false_ne_true)]
      exact ⟨hstate, hanswers⟩

end

end Filter

/-! ## Nothing spent -/

/-- **Gains**: if the bucket is refilled, every interval that ends brings it a token. -/
def Bucket.Gains (b : Bucket) : Prop :=
  match b.refill with
  | .never => True
  | .every amount interval _ => 0 < b.capacity ∧ 0 < amount ∧ 0 < interval

theorem Bucket.create_gains {s : ThrottleSettings} {now : Nat} {b : Bucket}
    (created : create s now = .ok b) : b.Gains := by
  have hpos : ∀ w : UInt32, w ≠ 0 → 0 < w.toNat := fun w hw =>
    Nat.pos_of_ne_zero fun hzero => hw (UInt32.toNat_inj.mp hzero)
  unfold create at created
  split at created
  · injection created with hb
    subst hb
    trivial
  · rename_i hused
    rw [not_or] at hused
    split at created
    · injection created
    · rename_i hlasts
      injection created with hb
      subst hb
      exact ⟨hpos _ hused.1, hpos _ hused.2, Nat.pos_of_ne_zero hlasts⟩

theorem Bucket.gains_asNew_iff {b : Bucket} : b.asNew.Gains ↔ b.Gains := by
  unfold asNew Gains
  cases b.refill <;> exact Iff.rfl

theorem Bucket.take_gains {b : Bucket} (gains : b.Gains) (now : Nat) : (b.take now).2.Gains := by
  rw [← gains_asNew_iff, asNew_take, gains_asNew_iff]
  exact gains

/-- A bucket that has no token for a call stays as it is: had an interval ended, there would be
one. -/
theorem Bucket.take_of_empty {b : Bucket} (gains : b.Gains) {now : Nat}
    (empty : (b.take now).1 = false) : (b.take now).2 = b := by
  rw [take_fst, decide_eq_false_iff_not, Nat.pos_iff_ne_zero, Classical.not_not] at empty
  have hcredit : b.credit now = b := by
    unfold credit at empty ⊢
    unfold Gains at gains
    cases hrefill : b.refill with
    | never => rfl
    | every amount interval since =>
      rw [hrefill] at empty gains
      obtain ⟨hcapacity, hamount, hinterval⟩ := gains
      dsimp only at empty ⊢
      split at empty
      · rename_i hended
        have hone : 0 < (now - since) / interval := Nat.div_pos hended hinterval
        have hgained : 0 < (now - since) / interval * amount := Nat.mul_pos hone hamount
        dsimp only at empty
        omega
      · rename_i hopen
        rw [if_neg hopen]
  rw [hcredit] at empty
  unfold take
  rw [hcredit]
  dsimp only
  rw [if_pos empty]

/-- A refusal is not remembered. -/
theorem RateGate.check_of_refused {g : RateGate} {now : Nat} {r : Request}
    (refused : (g.check now r).1 ≠ .admitted) : (g.check now r).2 = g := by
  unfold check Limiter.check at refused ⊢
  dsimp only at refused ⊢
  split
  · rfl
  · rename_i hdue
    rw [if_neg hdue] at refused
    exact absurd rfl refused

namespace Filter

/-- Whether what a filter says depends on the requests before. -/
def counts : Filter → Bool
  | throttle .. => true
  | rateGate _ => true
  | _ => false

theorem after_of_not_counts {f : Filter} (free : f.counts = false) (now : Nat) (r : Request) :
    f.after now r = f := by
  cases f with
  | throttle route bucket => cases free
  | rateGate gate => cases free
  | timing => rfl
  | host glob => exact after_host now r glob
  | requestId => rfl

/-- **Reached**: a filter that was set up, and has judged requests and been pruned since. -/
inductive Reached : Filter → Prop
  | throttle {settings : ThrottleSettings} {made : Nat} {bucket : Bucket}
      (created : Bucket.create settings made = .ok bucket) (route : String) :
      Reached (throttle route bucket)
  | rateGate {rate burst : UInt32} {rule : KeyRule} {proxies : TrustedProxies} {made : Nat}
      {gate : RateGate} (created : RateGate.create rate burst rule proxies made = .ok gate) :
      Reached (rateGate gate)
  | timing : Reached timing
  | host (glob : HostGlob) : Reached (host glob)
  | requestId : Reached requestId
  | judged {f : Filter} (h : Reached f) (now : Nat) (r : Request) : Reached (f.after now r)
  | pruned {gate : RateGate} (h : Reached (rateGate gate)) (now : Nat) :
      Reached (rateGate (gate.prune now))

theorem Reached.gains {f : Filter} (h : Reached f) {route : String} {bucket : Bucket}
    (hf : f = .throttle route bucket) : bucket.Gains := by
  induction h generalizing bucket with
  | throttle created =>
    cases hf
    exact Bucket.create_gains created
  | @judged g h now r ih =>
    cases g with
    | throttle own before =>
      rw [after_throttle] at hf
      cases hf
      exact Bucket.take_gains (ih rfl) now
    | rateGate gate =>
      rw [after_rateGate] at hf
      cases hf
    | timing => cases hf
    | host glob =>
      rw [after_host] at hf
      cases hf
    | requestId => cases hf
  | _ => cases hf

/-- **Nothing spent**: a filter that rejects a request stays as it is. -/
theorem Reached.after_of_rejects {f : Filter} (h : Reached f) {now : Nat} {r : Request}
    (rejects : f.admits now r = false) : f.after now r = f := by
  cases f with
  | throttle route bucket =>
    rw [after_throttle, Bucket.take_of_empty (h.gains rfl) rejects]
  | rateGate gate =>
    rw [after_rateGate, RateGate.check_of_refused (of_decide_eq_false rejects)]
  | timing => rfl
  | host glob => exact after_host now r glob
  | requestId => rfl

/-! ## Removal -/

section

variable {now : Nat} {r : Request} {outer : List Filter} {f : Filter}

theorem afterAll_of_not_counts (free : ∀ g ∈ outer, g.counts = false) :
    afterAll now r outer = outer := by
  induction outer with
  | nil => rfl
  | cons g rest ih =>
    rw [afterAll, after_of_not_counts (free g List.mem_cons_self),
      ih fun h hh => free h (List.mem_cons_of_mem _ hh), ite_self]

/-- Behind filters that do not count, a filter judges a request or does not get it. -/
theorem afterAll_cases (now : Nat) (r : Request) (free : ∀ g ∈ outer, g.counts = false)
    (f : Filter) (inner : List Filter) :
    ∃ f' inner', afterAll now r (outer ++ f :: inner) = outer ++ f' :: inner' ∧
      (f' = f ∨ f' = f.after now r) := by
  rw [afterAll_append, afterAll_of_not_counts free]
  split
  · exact ⟨_, _, rfl, .inr rfl⟩
  · exact ⟨f, inner, rfl, .inl rfl⟩

/-- A request that is rejected behind such filters leaves the chain as it is. -/
theorem afterAll_of_cut (free : ∀ g ∈ outer, g.counts = false) (reached : f.Reached)
    {inner : List Filter} (cut : rejectedAt? now r (outer ++ f :: inner) = some outer.length) :
    afterAll now r (outer ++ f :: inner) = outer ++ f :: inner := by
  obtain ⟨hpass, hreject⟩ := rejectedAt?_length_iff.mp cut
  rw [afterAll_append, afterAll_of_not_counts free, if_pos (rejectedAt?_eq_none_iff.mpr hpass),
    afterAll, reached.after_of_rejects hreject, hreject, if_neg Bool.false_ne_true]

end

/-- **Removal**: the visits that a filter rejects, behind others that do not count, can be left out
of a run.  By induction on the visits, with the state of the filter at each. -/
theorem runThrough_kept {σ : Type} (stage : Stage σ) {outer : List Filter} {f : Filter}
    (free : ∀ g ∈ outer, g.counts = false) (reached : f.Reached) (inner : List Filter) (b : σ)
    (visits : List Visit) :
    let run := runThrough stage (outer ++ f :: inner) b visits
    let kept := run.1.filter (·.cut ≠ some outer.length)
    runThrough stage (outer ++ f :: inner) b (kept.map (·.visit)) = (kept, run.2) := by
  induction visits generalizing f inner b with
  | nil => rfl
  | cons v rest ih =>
    have hcut : (serveVisit stage (outer ++ f :: inner) b v).1.cut =
        rejectedAt? v.now v.request (outer ++ f :: inner) := rfl
    have hvisit : (serveVisit stage (outer ++ f :: inner) b v).1.visit = v := rfl
    rw [runThrough_cons]
    dsimp only
    by_cases hrejected : rejectedAt? v.now v.request (outer ++ f :: inner) = some outer.length
    · -- the visit is left out, and the rest finds the chain as it was
      have hb : (serveVisit stage (outer ++ f :: inner) b v).2.2 = b :=
        behind_of_rejectedAt? v.fresh stage (s := ⟨v.now, v.wall, [], [], b⟩) hrejected
      rw [List.filter_cons_of_neg (by simp [hcut, hrejected]),
        afterAll_of_cut free reached hrejected, hb]
      exact ih reached inner b
    · obtain ⟨f', inner', hafter, hf'⟩ :=
        afterAll_cases v.now v.request free f inner
      have hreached : f'.Reached := by
        rcases hf' with rfl | rfl
        · exact reached
        · exact reached.judged v.now v.request
      rw [List.filter_cons_of_pos (by simp [hcut, hrejected]), List.map_cons, hvisit,
        runThrough_cons, hafter, ih hreached inner']

/-- Behind a throttle they cannot: it counts them.  Without the first visit, which is for another
host, the second finds a token of the first bucket and takes the one that the third is passed on
for. -/
theorem removal_behind_throttle :
    let filters := [throttle "a" ⟨1, 1, .every 1 10 0⟩, host (HostGlob.parse "a.org"),
      throttle "b" ⟨1, 1, .never⟩]
    let stage : Stage Unit := fun _ s => (.answered (.bare 200), s)
    let visit (now : Nat) (asked : String) : Visit :=
      ⟨now, 0, .ofString "7", ⟨"GET", ⟨none, none, "/", none⟩, [("host", .ofString asked)], [], none⟩⟩
    let run := runThrough stage filters ()
      [visit 0 "b.org", visit 0 "a.org", visit 10 "a.org"]
    let kept := run.1.filter (·.cut ≠ some 1)
    let again := runThrough stage filters () (kept.map (·.visit))
    let seen (v : Served) := (v.cut, v.outcome.status?)
    (∀ f ∈ filters, f.Reached) ∧
    run.1.map seen = [(some 1, some 404), (some 0, some 429), (none, some 200)] ∧
    again.1.map seen = [(none, some 200), (some 2, some 429)] ∧
    again.1 ≠ kept := by
  intro filters stage visit run kept again seen
  have ha : Bucket.create ⟨1, 1, 10, .nanoseconds⟩ 0 = .ok ⟨1, 1, .every 1 10 0⟩ := by rfl
  have hb : Bucket.create ⟨1, 0, 10, .nanoseconds⟩ 0 = .ok ⟨1, 1, .never⟩ := by rfl
  have hreached : ∀ f ∈ filters, f.Reached := by
    intro f hf
    simp only [filters, List.mem_cons, List.not_mem_nil, or_false] at hf
    rcases hf with rfl | rfl | rfl
    · exact .throttle ha "a"
    · exact .host _
    · exact .throttle hb "b"
  have hagain : again.1.map seen = [(none, some 200), (some 2, some 429)] := by decide
  have hkept : kept.map seen = [(some 0, some 429), (none, some 200)] := by decide
  have hdiffer : again.1 ≠ kept := by
    intro heq
    rw [heq, hkept] at hagain
    cases hagain
  exact ⟨hreached, by decide, hagain, hdiffer⟩

end Filter

end Turnstile
