import Turnstile.Client
/-!
  The keys under which requests are counted.
-/

namespace Turnstile

/-- What requests have in common that are counted together. -/
inductive KeyRule where
  /-- The address of the client. -/
  | ip
  /-- The path. -/
  | path
  /-- The address of the client and the part of the interface that it uses. -/
  | smart
  deriving DecidableEq, Repr

namespace KeyRule

open Text

/-- The name of a rule. -/
def name : KeyRule → String
  | ip => "ip"
  | path => "path"
  | smart => "smart"

/-- The rule that a setting names, in any case and with white space around it. -/
def parse? (s : String) : Option KeyRule :=
  let given := String.ofList (lower (trim s.toList))
  [ip, path, smart].find? fun r => given == r.name

/-- The rule that a setting names, or why there is none. -/
def parse (s : String) : Except String KeyRule :=
  match parse? s with
  | some r => .ok r
  | none => .error s!"unknown key resolver '{s}', expected one of: ip, path, smart"

/-- The path in front of the parts of the interface that are told apart. -/
def segmentRoot : String := "/gateway/rate/"

/-- What stands for the part of the interface on every other path. -/
def defaultSegment : String := "default"

/-- The segment after `segmentRoot`. -/
def segment (path : List Char) : List Char :=
  match segmentRoot.toList.isPrefixOf? path with
  | none => defaultSegment.toList
  | some rest =>
    let first := before '/' rest
    if first.isEmpty then defaultSegment.toList else first

/-- The key of a request. -/
def key (rule : KeyRule) (proxies : TrustedProxies) (r : Request) : String :=
  match rule with
  | ip => (r.client proxies).toString
  | path => r.uri.path
  | smart => String.ofList ((r.client proxies).text ++ ':' :: segment r.uri.path.toList)

example : String.ofList (segment "/gateway/rate/users/7".toList) = "users" := by decide
example : String.ofList (segment "/gateway/rate//users".toList) = "default" := by decide
example : parse? " SMART " = some smart := by decide

end KeyRule

end Turnstile
