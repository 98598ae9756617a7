import Turnstile.Gateway.Halves
import Turnstile.Proofs.Gateway.Record
/-!
  Forwarding is all or nothing.

  1. **Specification** (`TooLarge`) — a body is too large if it has more bytes than are allowed, or
     if the first `Content-Length` is the number of more bytes than are allowed.  A field that is no
     number declares nothing.

  2. **Nothing** (`stageFor_of_unfit`) — a body that is too large, or breaks off, is answered with
     413, and neither the network nor what has been measured is touched.

  3. **All** (`stageFor_eq`) — every other request is handed to the client of the network
     (`Network.client`) once, as a whole, and what comes back makes the answer.  This holds for
     every network, also for one that keeps a record of what is sent (`record_stageFor`).

  4. **Headline** (`forwarded_or_refused`).
-/

namespace Turnstile

/-- What takes the proxy's requests: it sends them over a network, and fails for those whose URL
cannot be asked. -/
def Network.client {σ : Type} (net : Network σ) : Network σ := fun o s =>
  if Proxy.isAskable o.url then net o s else (.failed .transport, s)

/-- The status under which a failure is answered. -/
def FailureKind.status : FailureKind → Nat
  | timeout => 504
  | connect => 503
  | transport => 503

namespace Proxy

/-! ## Specification -/

/-- **Declared**: the first `Content-Length` is a number in 64 bits. -/
def Declares (h : Headers) (n : Nat) : Prop :=
  ∃ v more t, Headers.getAll h "content-length" = v :: more ∧ v.text? = some t ∧
    Text.numeral Text.bound64 (Text.trim t) = .ok n

/-- **Too large**: the body, or the length that is declared, exceeds the limit. -/
def TooLarge (limit : Nat) (r : Request) : Prop :=
  limit < r.body.length ∨ ∃ n, Declares r.headers n ∧ limit < n

/-- **Unfit**: the body is too large, or there is more that does not come. -/
def Unfit (limit : Nat) (ending : BodyEnd) (r : Request) : Prop :=
  TooLarge limit r ∨ ending ≠ .complete

theorem declaredLength?_eq_some_iff {h : Headers} {n : Nat} :
    declaredLength? h = some n ↔ Declares h n := by
  unfold declaredLength? Declares Headers.text?
  rw [Headers.get?_eq_head?_getAll]
  cases Headers.getAll h "content-length" with
  | nil => simp
  | cons v more =>
    simp only [List.head?_cons, Option.bind_some, Option.bind_eq_some_iff, List.cons.injEq]
    constructor
    · rintro ⟨t, ht, hn⟩
      refine ⟨v, more, t, ⟨rfl, rfl⟩, ht, ?_⟩
      split at hn
      · cases hn
        assumption
      · cases hn
    · rintro ⟨v', more', t, ⟨rfl, rfl⟩, ht, hn⟩
      exact ⟨t, ht, by rw [hn]⟩

/-- A body is refused exactly if it is too large, and then as too large. -/
theorem oversize?_cases (limit : Nat) (r : Request) :
    (TooLarge limit r ∧ ∃ detail, oversize? limit r = some (.bodyTooLarge detail)) ∨
      (¬ TooLarge limit r ∧ oversize? limit r = none) := by
  unfold oversize? TooLarge
  simp only [← declaredLength?_eq_some_iff]
  cases declaredLength? r.headers with
  | none =>
    dsimp only
    split
    · exact .inl ⟨.inl ‹_›, _, rfl⟩
    · exact .inr ⟨by simpa using Nat.not_lt.mp ‹_›, rfl⟩
  | some n =>
    dsimp only
    split
    · exact .inl ⟨.inr ⟨n, rfl, ‹_›⟩, _, rfl⟩
    · split
      · exact .inl ⟨.inl ‹_›, _, rfl⟩
      · refine .inr ⟨?_, rfl⟩
        rintro (hbody | ⟨n', hn', hlength⟩)
        · contradiction
        · cases hn'
          contradiction

/-- Besides, one that breaks off is refused, and counts as too large. -/
theorem refusal?_cases (limit : Nat) (ending : BodyEnd) (r : Request) :
    (Unfit limit ending r ∧ ∃ detail, refusal? limit ending r = some (.bodyTooLarge detail)) ∨
      (¬ Unfit limit ending r ∧ refusal? limit ending r = none) := by
  unfold refusal? Unfit
  rcases oversize?_cases limit r with ⟨hlarge, detail, hfault⟩ | ⟨hfits, hnone⟩
  · rw [hfault]
    exact .inl ⟨.inl hlarge, detail, rfl⟩
  · rw [hnone]
    cases ending with
    | complete => exact .inr ⟨not_or.mpr ⟨hfits, fun hne => hne rfl⟩, rfl⟩
    | broken reason => exact .inl ⟨.inr nofun, _, rfl⟩

/-! ## Nothing, or all -/

section

variable {σ : Type} {limit : Nat} {ending : BodyEnd} {net : Network σ} {d : Destination}
  {r : Request} {s : Scene σ}

/-- **Nothing**: an unfit body is answered with 413, and nothing else happens. -/
theorem stageFor_of_unfit (h : Unfit limit ending r) :
    stageFor ending limit net d r s = (.answered (.json 413 (.object
      [("error", .string "payload_too_large"),
       ("message", .string "Request body exceeds the configured limit.")])), s) := by
  rcases refusal?_cases limit ending r with ⟨-, detail, hfault⟩ | ⟨hfits, -⟩
  · unfold stageFor forward
    rw [hfault]
    rfl
  · exact absurd h hfits

/-- What is made of what comes back. -/
def answerTo : Exchange × Scene σ → Outcome × Scene σ
  | (.answered a, after) => (.answered (relayed a), after)
  | (.failed kind, after) =>
    (.answered (.fallback kind.status after.wall), after.measure [.destinationFailed kind.name])

/-- **All**: any other request is handed to the client once, and what comes back makes the answer.
-/
theorem stageFor_eq (h : ¬ Unfit limit ending r) :
    stageFor ending limit net d r s = answerTo (net.client (outbound d r) s) := by
  rcases refusal?_cases limit ending r with ⟨hunfit, -⟩ | ⟨-, hfits⟩
  · exact absurd hunfit h
  · have hexchange : exchange net d r s = net.client (outbound d r) s := rfl
    unfold stageFor forward
    rw [hfits, hexchange]
    obtain ⟨x, after⟩ := net.client (outbound d r) s
    cases x with
    | answered a => rfl
    | failed kind => cases kind <;> rfl

/-- A record of what is sent grows by that request, if its URL can be asked. -/
theorem record_stageFor {s : Scene (List Outbound × σ)} (h : ¬ Unfit limit ending r)
    (askable : isAskable (outbound d r).url = true) :
    (stageFor ending limit net.recording d r s).2.behind.1 = s.behind.1 ++ [outbound d r] := by
  rw [stageFor_eq h]
  unfold Network.client
  rw [if_pos askable]
  unfold Network.recording
  obtain ⟨x, after⟩ := net (outbound d r) { s with behind := s.behind.2 }
  cases x <;> rfl

end

/-- A failure moves the counter of its own kind, by one. -/
theorem total_measure {σ : Type} (s : Scene σ) (kind other : FailureKind) :
    Measurement.total (s.measure [.destinationFailed kind.name]).measured
        (.destinationFailed other.name) =
      .count (s.measured.count (.destinationFailed other.name) +
        if other = kind then 1 else 0) := by
  rw [Measurement.total_eq_count rfl]
  show Total.count ((s.measured ++ _).count _) = _
  rw [List.count_append]
  cases other <;> cases kind <;> rfl

/-! ## Headline -/

/-- **Headline.**  A body that is too large, or is not there as a whole, is answered with 413, the
network is not used, and nothing is measured.  Every other request is handed to the client of the
network once, with its method and its whole body, and goes out as it is, if it can.  An answer that
comes back is relayed with its status, its body and exactly its end-to-end fields, and no failure is
counted.  A failure is answered with status 504 if the time ran out, and 503 otherwise, and with
the fallback document as its body, whose code is that status; and it is counted once, under its own
kind. -/
theorem forwarded_or_refused {σ : Type} (limit : Nat) (net : Network σ) (d : Destination)
    (ending : BodyEnd) (r : Request) (s : Scene σ) :
    let sent := outbound d r
    let served := stageFor ending limit net d r s
    let shown (status : Nat) (document : Json) : Response :=
      ⟨status, [("content-type", .ofString "application/json")], Text.bytes document.text⟩
    let label (kind : FailureKind) : String := match kind with
      | .connect => "connect"
      | .timeout => "timeout"
      | .transport => "transport"
    (TooLarge limit r ∨ ending ≠ .complete →
      served = (.answered (shown 413 (.object
        [("error", .string "payload_too_large"),
         ("message", .string "Request body exceeds the configured limit.")])), s)) ∧
    (¬ TooLarge limit r → ending = .complete →
      served = stage limit net d r s ∧
      (sent.method = r.method ∧ sent.body = r.body ∧
        (isAskable sent.url = true → ∀ before : Scene (List Outbound × σ),
          (stageFor ending limit net.recording d r before).2.behind.1 =
            before.behind.1 ++ [sent])) ∧
      (∀ a after, net.client sent s = (.answered a, after) →
        served = (.answered ⟨a.status, endToEnd a.headers, a.body⟩, after)) ∧
      (∀ kind after, net.client sent s = (.failed kind, after) →
        ∃ status document, (status = if kind = .timeout then 504 else 503) ∧
          document = .object
            [("status", .string "error"),
             ("message", .string "Service temporarily unavailable. Please try again later."),
             ("timestamp", .number after.wall), ("code", .number status)] ∧
          document.member? "code" = some (.number status) ∧
          served = (.answered (shown status document),
            after.measure [.destinationFailed (label kind)]) ∧
          ∀ other : FailureKind,
            let counter := Measurement.destinationFailed (label other)
            counter.series = "gateway_upstream_failures_total" ∧
            counter.labels = [("kind", label other)] ∧
            Measurement.total served.2.measured counter =
              .count (after.measured.count counter + if other = kind then 1 else 0))) := by
  intro sent served shown label
  have hlabel : ∀ kind, label kind = kind.name := fun kind => by cases kind <;> rfl
  refine ⟨stageFor_of_unfit, ?_⟩
  rintro hfits rfl
  have hfit : ¬ Unfit limit .complete r := not_or.mpr ⟨hfits, fun hne => hne rfl⟩
  refine ⟨rfl, ⟨rfl, rfl, fun askable _ => record_stageFor hfit askable⟩, ?_, ?_⟩
  · intro a after hback
    show stageFor .complete limit net d r s = _
    rw [stageFor_eq hfit, hback]
    rfl
  · intro kind after hback
    have hserved : served = (.answered (.fallback kind.status after.wall),
        after.measure [.destinationFailed kind.name]) := by
      show stageFor .complete limit net d r s = _
      rw [stageFor_eq hfit, hback]
      rfl
    refine ⟨kind.status, _, by cases kind <;> rfl, rfl, rfl, ?_, fun other => ⟨rfl, rfl, ?_⟩⟩
    · rw [hlabel]
      exact hserved
    · rw [hserved, hlabel]
      exact total_measure after kind other

/-- With a limit of four bytes: two bytes of which nine are declared, four bytes after which the
rest does not come, four bytes that are answered with 502, and four bytes for which the time runs
out. -/
theorem forwarded_or_refused_of_four :
    let base : Url := ⟨"http".toList, [], [], some "localhost".toList, false, some 8081,
      .segments [[]], none, none⟩
    let d : Destination := ⟨"api", base, 1, []⟩
    let post (lengths : List String) (body : String) : Request :=
      ⟨"POST", ⟨none, none, "/api/users", none⟩,
        lengths.map fun n => ("content-length", .ofString n), Text.bytes body, none⟩
    let long := post ["\t+9 ", "2"] "ab"
    let full := post ["nine", "9"] "abcd"
    let s : Scene Unit := ⟨0, 7, [.destinationFailed "timeout"], [], ()⟩
    let bad : Response := ⟨502, [("connection", .ofString "x-a"), ("x-a", .ofString "1"),
      ("x-b", .ofString "2")], Text.bytes "oops"⟩
    let answering := Network.answering (.answered bad) 5
    let silent := Network.answering (.failed .timeout) 5
    let tooLarge := "\x7b\"error\":\"payload_too_large\"," ++
      "\"message\":\"Request body exceeds the configured limit.\"\x7d"
    let timedOut := "\x7b\"status\":\"error\",\"message\":" ++
      "\"Service temporarily unavailable. Please try again later.\"," ++
      "\"timestamp\":7,\"code\":504\x7d"
    let shown (status : Nat) (text : String) : Outcome :=
      .answered ⟨status, [("content-type", .ofString "application/json")], Text.bytes text⟩
    (TooLarge 4 long ∧ stageFor .complete 4 answering d long s = (shown 413 tooLarge, s)) ∧
    stageFor (.broken "connection reset") 4 answering d full s = (shown 413 tooLarge, s) ∧
    (¬ TooLarge 4 full ∧ isAskable (outbound d full).url = true ∧
      (outbound d full).body = Text.bytes "abcd" ∧
      (stageFor .complete 4 answering.recording d full
        ⟨0, 7, [], [], ([], ())⟩).2.behind.1 = [outbound d full] ∧
      stageFor .complete 4 answering d full s =
        (.answered ⟨502, [("x-b", .ofString "2")], Text.bytes "oops"⟩, s.advance 5) ∧
      (stageFor .complete 4 silent d full s).1 = shown 504 timedOut ∧
      Measurement.total (stageFor .complete 4 silent d full s).2.measured
        (.destinationFailed "timeout") = .count 2) := by
  intro base d post long full s bad answering silent tooLarge timedOut shown
  have hlong : TooLarge 4 long := by
    refine .inr ⟨9, declaredLength?_eq_some_iff.mp ?_, by decide⟩
    decide +kernel
  have hfull : ¬ TooLarge 4 full := by
    rintro (hbody | ⟨n, hn, -⟩)
    · exact absurd hbody (by decide +kernel)
    · have hnone : declaredLength? full.headers = none := by decide +kernel
      rw [← declaredLength?_eq_some_iff, hnone] at hn
      cases hn
  have askable : isAskable (outbound d full).url = true := by decide +kernel
  have hback (x : Exchange) : (Network.answering x 5).client (outbound d full) s =
      (x, s.advance 5) := if_pos askable
  obtain ⟨hrefused, -⟩ := forwarded_or_refused 4 answering d .complete long s
  obtain ⟨hbroken, -⟩ := forwarded_or_refused 4 answering d (.broken "connection reset") full s
  obtain ⟨-, hforwarded⟩ := forwarded_or_refused 4 answering d .complete full s
  obtain ⟨-, hfailing⟩ := forwarded_or_refused 4 silent d .complete full s
  obtain ⟨-, ⟨-, hbody, hrecord⟩, hrelayed, -⟩ := hforwarded hfull rfl
  obtain ⟨-, -, -, hfailed⟩ := hfailing hfull rfl
  obtain ⟨status, document, hstatus, hdocument, -, hserved, hcounted⟩ :=
    hfailed .timeout _ (hback _)
  have hfields : endToEnd bad.headers = [("x-b", .ofString "2")] := by decide +kernel
  have htooLarge : (Json.object [("error", .string "payload_too_large"),
      ("message", .string "Request body exceeds the configured limit.")]).text = tooLarge := by
    decide +kernel
  have htimedOut : (Json.object [("status", .string "error"),
      ("message", .string "Service temporarily unavailable. Please try again later."),
      ("timestamp", .number 7), ("code", .number 504)]).text = timedOut := by decide +kernel
  refine ⟨⟨hlong, ?_⟩, ?_, hfull, askable, hbody, hrecord askable _, ?_, ?_,
    (hcounted .timeout).2.2⟩
  · exact (hrefused (.inl hlong)).trans (congrArg (fun text => (shown 413 text, s)) htooLarge)
  · exact (hbroken (.inr nofun)).trans (congrArg (fun text => (shown 413 text, s)) htooLarge)
  · rw [hrelayed bad _ (hback _), hfields]
  · rw [hserved, hdocument, hstatus, if_pos rfl]
    exact congrArg (shown 504) htimedOut

end Proxy

end Turnstile
