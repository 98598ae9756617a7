import Turnstile.Http.Message
/-!
  What every server adds to the answers of its routes.

  A known route says how long its body is, and a request that asks for the head of an answer only
  gets no body.  A path that no route has is answered with nothing at all, unless the target is no
  path; a route that only reads refuses every method but the two that read.
-/

namespace Turnstile

/-- Whether a method asks for what is there, and nothing else. -/
def isReading (method : String) : Bool := method = "GET" ∨ method = "HEAD"

namespace Response

/-- The answer with the length of its body, if it does not have one yet. -/
def sized (a : Response) : Response :=
  if (Headers.get? a.headers "content-length").isSome then a
  else { a with headers :=
    Headers.append a.headers "content-length" (.ofString (toString a.body.length)) }

/-- The answer as the method wants it: without body for `HEAD`. -/
def askedBy (method : String) (a : Response) : Response :=
  if method = "HEAD" then { a with body := [] } else a

/-- The answer of a known route. -/
def ofRoute (method : String) (a : Response) : Response := a.sized.askedBy method

/-- The answer where there is no route. -/
def unknown (path : String) : Response :=
  if path.toList.head? = some '/' then .bare 404 else (bare 404).sized

/-- The answer to a method other than the two that read. -/
def onlyReading : Response :=
  ⟨405, [("allow", .ofString "GET,HEAD"), ("content-length", .ofString "0")], []⟩

end Response

end Turnstile
