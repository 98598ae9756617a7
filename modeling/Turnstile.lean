import Turnstile.Filter.Rehearsal
import Turnstile.Main
import Turnstile.Proofs.Address.Membership
import Turnstile.Proofs.Address.RoundTrip
import Turnstile.Proofs.Backend.Numbering
import Turnstile.Proofs.Bucket.Bounds
import Turnstile.Proofs.Bucket.Eager
import Turnstile.Proofs.Bucket.Generous
import Turnstile.Proofs.Bucket.Refusal
import Turnstile.Proofs.Bucket.Words
import Turnstile.Proofs.Client.Resolution
import Turnstile.Proofs.Client.Trust
import Turnstile.Proofs.Filter.Calls
import Turnstile.Proofs.Filter.Chain
import Turnstile.Proofs.Filter.Completions
import Turnstile.Proofs.Filter.Layers
import Turnstile.Proofs.Filter.Passage
import Turnstile.Proofs.Filter.Rejections
import Turnstile.Proofs.Filter.Run
import Turnstile.Proofs.Gateway.Checked
import Turnstile.Proofs.Gateway.Counters
import Turnstile.Proofs.Gateway.Failure
import Turnstile.Proofs.Gateway.OwnFields
import Turnstile.Proofs.Gateway.Prefixes
import Turnstile.Proofs.Gateway.Stamps
import Turnstile.Proofs.Gateway.Traffic
import Turnstile.Proofs.HostGlob.Domain
import Turnstile.Proofs.HostGlob.Spelling
import Turnstile.Proofs.Proxy.EndToEnd
import Turnstile.Proofs.Proxy.Forwarded
import Turnstile.Proofs.Proxy.Forwarding
import Turnstile.Proofs.Proxy.Front
import Turnstile.Proofs.RateLimit.Admissions
import Turnstile.Proofs.RateLimit.Arrivals
import Turnstile.Proofs.RateLimit.Due
import Turnstile.Proofs.RateLimit.Isolation
import Turnstile.Proofs.RateLimit.Memory
import Turnstile.Proofs.RateLimit.Run
import Turnstile.Proofs.RateLimit.SmartKey
import Turnstile.Proofs.RateLimit.Spelling
import Turnstile.Proofs.RateLimit.Wait
import Turnstile.Proofs.Settings.Rendering
