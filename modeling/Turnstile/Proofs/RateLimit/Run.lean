import Turnstile.Filter.Basic
import Turnstile.Proofs.RateLimit.Arrivals
/-!
  Runs of a rate gate.

  All the services that are built from one gate share it, so what happens to it is one sequence of
  requests, whichever service gets them, with prunes between them.  `RateGate.run` gives each
  request with the answer of the filter around the gate (`Filter.judge`): none if the request is
  passed on, the refusal otherwise.
-/

namespace Turnstile

/-- What happens to a rate gate. -/
inductive GateEvent where
  | request (now : Nat) (r : Request)
  | prune (now : Nat)
  deriving DecidableEq, Repr

namespace GateEvent

/-- When it happens. -/
def now : GateEvent → Nat
  | request now _ => now
  | prune now => now

/-- Whether it is a request that is counted under a key. -/
def asks (rule : KeyRule) (proxies : TrustedProxies) (key : String) : GateEvent → Bool
  | request _ r => rule.key proxies r == key
  | prune _ => false

end GateEvent

/-- A request that has been judged, with the answer that kept it back, if it was. -/
structure Judged where
  now : Nat
  request : Request
  answer : Option Response
  deriving DecidableEq, Repr

/-- Whether a request that has been judged was counted under a key. -/
def Judged.asks (rule : KeyRule) (proxies : TrustedProxies) (key : String) (j : Judged) : Bool :=
  rule.key proxies j.request == key

namespace RateGate

/-- The answer with which the filter around a gate keeps a request back, if it does. -/
def answer (g : RateGate) (now : Nat) (r : Request) : Option Response :=
  (Filter.judge now r (.rateGate g)).1

/-- The requests among some events with their answers, and the gate after the events. -/
def run (g : RateGate) : List GateEvent → List Judged × RateGate
  | [] => ([], g)
  | .request now r :: rest =>
    let (judged, last) := run (g.check now r).2 rest
    (⟨now, r, g.answer now r⟩ :: judged, last)
  | .prune now :: rest => run (g.prune now) rest

theorem run_request (g : RateGate) (now : Nat) (r : Request) (rest : List GateEvent) :
    g.run (.request now r :: rest) =
      (⟨now, r, g.answer now r⟩ :: ((g.check now r).2.run rest).1,
        ((g.check now r).2.run rest).2) := rfl

/-! ## Creation -/

/-- What settings make: a gate that remembers nothing. -/
theorem create_cases {rate burst : UInt32} {rule : KeyRule} {proxies : TrustedProxies}
    {made : Nat} {g : RateGate} (created : create rate burst rule proxies made = .ok g) :
    rate ≠ 0 ∧ g = ⟨rate.toNat, rule, proxies,
      ⟨.perSecond rate.toNat burst.toNat, made, []⟩⟩ := by
  unfold create at created
  split at created
  · injection created
  · rename_i hrate
    injection created with hg
    exact ⟨hrate, hg.symm⟩

theorem create_distinct {rate burst : UInt32} {rule : KeyRule} {proxies : TrustedProxies}
    {made : Nat} {g : RateGate} (created : create rate burst rule proxies made = .ok g) :
    g.limiter.Distinct := by
  obtain ⟨-, rfl⟩ := create_cases created
  exact Limiter.create_distinct _ _

/-! ## One judgement -/

theorem check_eq (g : RateGate) (now : Nat) (r : Request) :
    g.check now r = ((g.limiter.check (g.rule.key g.proxies r) now).1,
      { g with limiter := (g.limiter.check (g.rule.key g.proxies r) now).2 }) := rfl

/-- The filter around a gate goes on with the gate after the check, so `run` is what the filter
lives through. -/
theorem judge_gate (g : RateGate) (now : Nat) (r : Request) :
    (Filter.judge now r (.rateGate g)).2.1 = .rateGate (g.check now r).2 := by
  unfold Filter.judge
  dsimp only
  rw [check_eq]
  cases (g.limiter.check (g.rule.key g.proxies r) now).1 <;> rfl

/-- A request is passed on if the limiter admits its key, and refused with the time to wait if
not. -/
theorem answer_eq (g : RateGate) (now : Nat) (r : Request) :
    g.answer now r = match (g.limiter.check (g.rule.key g.proxies r) now).1 with
      | .admitted => none
      | .refused wait => some (g.refusal wait) := by
  unfold answer Filter.judge
  dsimp only
  rw [check_eq]
  cases (g.limiter.check (g.rule.key g.proxies r) now).1 <;> rfl

end RateGate

end Turnstile
