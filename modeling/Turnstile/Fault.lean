import Turnstile.Http.Message
/-!
  What can go wrong while the gateway serves or is set up, and how a client learns of it.

  The message of a fault tells everything and is for the log; the response gives no detail away.  A
  destination that cannot be reached is answered with the fallback document, the same one that the
  fallback route serves.
-/

namespace Turnstile

/-- What went wrong, with details. -/
inductive Fault where
  | unavailable (detail : String)
  | timedOut (detail : String)
  | bodyTooLarge (detail : String)
  | internal (detail : String)
  | misconfigured (detail : String)
  deriving DecidableEq, Repr

/-- The document that stands in for an answer that cannot be had. -/
def fallbackDocument (status wall : Nat) : Json :=
  .object
    [("status", .string "error"),
     ("message", .string "Service temporarily unavailable. Please try again later."),
     ("timestamp", .number wall),
     ("code", .number status)]

/-- The fallback document under its status, at wall-clock time `wall`. -/
def Response.fallback (status wall : Nat) : Response := .json status (fallbackDocument status wall)

namespace Fault

/-- A fault in full, for the log. -/
def message : Fault → String
  | unavailable detail => "Upstream unavailable: " ++ detail
  | timedOut detail => "Upstream timed out: " ++ detail
  | bodyTooLarge detail => "Request body too large: " ++ detail
  | internal detail => "Internal server error: " ++ detail
  | misconfigured detail => "Configuration error: " ++ detail

/-- The document that names a fault without its details. -/
def document (name text : String) : Json :=
  .object [("error", .string name), ("message", .string text)]

/-- The response to a request that met a fault, at wall-clock time `wall`. -/
def response (wall : Nat) : Fault → Response
  | unavailable _ => .fallback 503 wall
  | timedOut _ => .fallback 504 wall
  | bodyTooLarge _ =>
    .json 413 (document "payload_too_large" "Request body exceeds the configured limit.")
  | internal _ =>
    .json 500 (document "internal_error"
      "An internal error occurred. Please contact support if the issue persists.")
  | misconfigured _ =>
    .json 500 (document "config_error" "Gateway configuration error. Please contact support.")

end Fault

end Turnstile
