import Turnstile.Address.Cidr
import Turnstile.Http.Message
import Turnstile.Text.Split
/-!
  Who sent a request.

  A reverse proxy names the client in a forwarding header, but so can anyone else.  The header is
  therefore believed only if the peer is a trusted proxy, and a header that holds no address counts
  as absent, so that arbitrary text never stands for a client.  Otherwise the client is the peer.
-/

namespace Turnstile

open Text

/-- The first address that `X-Forwarded-For` lists. -/
def Headers.forwardedFor? (h : Headers) : Option IpAddr :=
  (Headers.text? h "x-forwarded-for").bind fun t => IpAddr.read? (trim (before ',' t))

/-- The address in `X-Real-IP`. -/
def Headers.realIp? (h : Headers) : Option IpAddr :=
  (Headers.text? h "x-real-ip").bind fun t => IpAddr.read? (trim t)

/-- The client that the forwarding headers name. -/
def Headers.forwarded? (h : Headers) : Option IpAddr :=
  (Headers.forwardedFor? h).or (Headers.realIp? h)

/-- The address of the peer, the unspecified one if it is not known. -/
def Request.peerAddress (r : Request) : IpAddr := r.peer.getD .unspecified

/-- The address of the client that a request comes from. -/
def Request.client (r : Request) (proxies : TrustedProxies) : IpAddr :=
  match Headers.forwarded? r.headers with
  | some a => if proxies.trusts r.peer then a else r.peerAddress
  | none => r.peerAddress

/-- The host that a request asks for: the `Host` field, or else the authority of its target. -/
def Request.host? (r : Request) : Option (List Char) :=
  (Headers.text? r.headers "host").or r.uri.host?

end Turnstile
