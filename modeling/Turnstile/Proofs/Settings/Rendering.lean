import Turnstile.Proofs.Settings.Check
import Turnstile.Proofs.Settings.Written
/-!
  Settings written into an environment are loaded from it.

  1. **Blocks** (`ofBlock_blockOf`) — a block of definitions, one after the other and each ended by a
     zero byte, is read as these definitions.

  2. **Variables** (`Variable`, `Settings.textOf`) — the eighteen variables, their names, and what
     is written into each for given settings.

  3. **Some of them** (`Settings.onlyOn`, `Environment.Sets`) — an environment that sets some of the
     variables, and the settings that differ from the standard where a variable is set.

  4. **Headline** (`load_block`) — for every choice of variables, what is loaded is what the check
     says about these settings.  It rests on one fact for each variable, that its reader gives back
     what is written into it (`Sets.read`), so a name, a unit or a standard that does not fit would
     show in that variable alone.
-/

namespace Turnstile

open Text Environment

/-! ## Blocks -/

namespace Environment

/-- A block of definitions. -/
def blockOf (definitions : List (String × String)) : Bytes :=
  definitions.flatMap fun d => bytes (d.1 ++ "=" ++ d.2 ++ "\x00")

end Environment

namespace Text

theorem ofOctets_bytes_append (s t : String) :
    ofOctets (bytes (s ++ t)) = ofOctets (bytes s) ++ ofOctets (bytes t) := by
  rw [bytes_append]
  exact List.map_append

end Text

namespace Environment

/-- The definition in one entry of a block. -/
def definition? (entry : List Char) : Option (String × Bytes) := do
  let (name, value) ← cut '=' entry
  pure (← decode? (octets name), octets value)

theorem definition?_eq {name : String} (h : '=' ∉ name.toList) (value : String) :
    definition? (ofOctets (bytes (name ++ "=" ++ value))) = some (name, bytes value) := by
  have hname : '=' ∉ ofOctets (bytes name) := fun hin =>
    h (mem_of_mem_ofOctets_bytes (by decide) hin)
  have hcut : cut '=' (ofOctets (bytes (name ++ "=" ++ value))) =
      some (ofOctets (bytes name), ofOctets (bytes value)) := by
    rw [ofOctets_bytes_append, ofOctets_bytes_append, List.append_assoc]
    exact cut_append hname _
  unfold definition?
  rw [hcut]
  simp [octets_ofOctets, decode?_bytes]

/-- A block is read as its definitions. -/
theorem ofBlock_blockOf {definitions : List (String × String)}
    (h : ∀ d ∈ definitions, '=' ∉ d.1.toList ∧ '\x00' ∉ d.1.toList ∧ '\x00' ∉ d.2.toList) :
    ofBlock (blockOf definitions) = ⟨definitions.map fun d => (d.1, bytes d.2)⟩ := by
  suffices hentries : (split '\x00' (ofOctets (blockOf definitions))).filterMap definition? =
      definitions.map fun d => (d.1, bytes d.2) from congrArg Environment.mk hentries
  induction definitions with
  | nil => rfl
  | cons d rest ih =>
    obtain ⟨hequals, hname, hvalue⟩ := h d List.mem_cons_self
    have hline : '\x00' ∉ ofOctets (bytes (d.1 ++ "=" ++ d.2)) := by
      intro hin
      have hin := mem_of_mem_ofOctets_bytes (by decide) hin
      simp only [String.toList_append, List.mem_append] at hin
      rcases hin with (hin | hin) | hin
      · exact hname hin
      · exact absurd hin (by decide)
      · exact hvalue hin
    have hblock : ofOctets (blockOf (d :: rest)) =
        ofOctets (bytes (d.1 ++ "=" ++ d.2)) ++ '\x00' :: ofOctets (blockOf rest) := by
      unfold blockOf
      rw [List.flatMap_cons, ofOctets, List.map_append, ← ofOctets, ← ofOctets,
        ofOctets_bytes_append, List.append_assoc]
      rfl
    rw [hblock, split_append_sep, split_of_not_mem hline, List.singleton_append,
      List.filterMap_cons_some (definition?_eq hequals d.2), List.map_cons,
      ih fun d hd => h d (List.mem_cons_of_mem _ hd)]

end Environment

/-! ## Variables -/

/-- A variable that the gateway reads. -/
inductive Variable where
  | host
  | port
  | gatewayName
  | mainUrl
  | timingUrl
  | demoUrl
  | timeout
  | maxBody
  | capacity
  | refillTokens
  | refillPeriod
  | refillUnit
  | rate
  | burst
  | keyRule
  | trustedProxies
  | pruneInterval
  | metricsPort
  deriving DecidableEq, Repr

namespace Variable

/-- The name of a variable. -/
def name : Variable → String
  | host => "HOST"
  | port => "PORT"
  | gatewayName => "GATEWAY_NAME"
  | mainUrl => "UPSTREAM_URL"
  | timingUrl => "TIMING_UPSTREAM_URL"
  | demoUrl => "HTTPBIN_URL"
  | timeout => "UPSTREAM_TIMEOUT_MS"
  | maxBody => "MAX_REQUEST_BODY_SIZE"
  | capacity => "THROTTLE_CAPACITY"
  | refillTokens => "THROTTLE_REFILL_TOKENS"
  | refillPeriod => "THROTTLE_REFILL_PERIOD"
  | refillUnit => "THROTTLE_REFILL_UNIT"
  | rate => "RATE_LIMIT_REPLENISH_RATE"
  | burst => "RATE_LIMIT_BURST_CAPACITY"
  | keyRule => "RATE_LIMIT_KEY_RESOLVER"
  | trustedProxies => "TRUSTED_PROXIES"
  | pruneInterval => "RATE_LIMIT_PRUNE_INTERVAL_SECS"
  | metricsPort => "METRICS_PORT"

/-- Different variables have different names. -/
theorem name_injective {v w : Variable} (h : v.name = w.name) : v = w := by
  cases v <;> cases w <;> simp [name] at h ⊢

/-- The name of a variable can stand in a block. -/
theorem isPlain_name (v : Variable) : '=' ∉ v.name.toList ∧ '\x00' ∉ v.name.toList := by
  cases v <;> simp [name]

end Variable

namespace Settings

/-- What is written into a variable for given settings. -/
def textOf (c : Settings) : Variable → String
  | .host => c.host
  | .port => toString c.port.toNat
  | .gatewayName => c.gatewayName
  | .mainUrl => c.mainUrl
  | .timingUrl => c.timingUrl
  | .demoUrl => c.demoUrl
  | .timeout => toString (Duration.millis c.timeout)
  | .maxBody => toString c.maxBody.toNat
  | .capacity => toString c.throttle.capacity.toNat
  | .refillTokens => toString c.throttle.refillTokens.toNat
  | .refillPeriod => toString c.throttle.refillPeriod.toNat
  | .refillUnit => c.throttle.refillUnit.name
  | .rate => toString c.rate.toNat
  | .burst => toString c.burst.toNat
  | .keyRule => c.keyRule.name
  | .trustedProxies => commaText c.trustedProxies
  | .pruneInterval => toString (Duration.secs c.pruneInterval)
  | .metricsPort => toString c.metricsPort.toNat

/-- **Writable**: settings that variables can hold.  No text has the zero character, the two
durations are whole milliseconds and whole seconds of a number that fits, and the ranges of proxies
are items of a list. -/
structure Writable (c : Settings) : Prop where
  host : '\x00' ∉ c.host.toList
  gatewayName : '\x00' ∉ c.gatewayName.toList
  mainUrl : '\x00' ∉ c.mainUrl.toList
  timingUrl : '\x00' ∉ c.timingUrl.toList
  demoUrl : '\x00' ∉ c.demoUrl.toList
  timeout : ∃ ms < bound64, c.timeout = Duration.ofMillis ms
  proxies : ∀ item ∈ c.trustedProxies, IsItem item ∧ '\x00' ∉ item.toList
  pruneInterval : ∃ secs < bound64, c.pruneInterval = secs * Duration.second

/-- What is written into a variable has no zero character. -/
theorem Writable.nul_not_mem {c : Settings} (hc : c.Writable) (v : Variable) :
    '\x00' ∉ (c.textOf v).toList := by
  have hnumber (n : Nat) : '\x00' ∉ (toString n).toList := by
    intro hin
    have hdigit := Nat.isDigit_of_mem_toDigits (by omega) (by omega) (Nat.toList_repr ▸ hin)
    cases hdigit
  cases v
  case host => exact hc.host
  case gatewayName => exact hc.gatewayName
  case mainUrl => exact hc.mainUrl
  case timingUrl => exact hc.timingUrl
  case demoUrl => exact hc.demoUrl
  case refillUnit => cases hunit : c.throttle.refillUnit <;> simp only [textOf, hunit] <;> decide
  case keyRule => cases hrule : c.keyRule <;> simp only [textOf, hrule] <;> decide
  case trustedProxies => exact not_mem_commaText (by decide) fun item hi => (hc.proxies item hi).2
  all_goals exact hnumber _

/-! ## Some of them -/

/-- What is written into some of the variables, as a block. -/
def block (c : Settings) (given : List Variable) : Bytes :=
  blockOf (given.map fun v => (v.name, c.textOf v))

/-- A setting of `c` if its variable is given, the standard one otherwise. -/
def pick {α : Type} (c : Settings) (given : List Variable) (v : Variable) (setting : Settings → α) :
    α :=
  if v ∈ given then setting c else setting standard

/-- The settings of `c` where variables are given, the standard ones otherwise. -/
def onlyOn (c : Settings) (given : List Variable) : Settings where
  host := c.pick given .host (·.host)
  port := c.pick given .port (·.port)
  gatewayName := c.pick given .gatewayName (·.gatewayName)
  mainUrl := c.pick given .mainUrl (·.mainUrl)
  timingUrl := c.pick given .timingUrl (·.timingUrl)
  demoUrl := c.pick given .demoUrl (·.demoUrl)
  timeout := c.pick given .timeout (·.timeout)
  maxBody := c.pick given .maxBody (·.maxBody)
  throttle :=
    { capacity := c.pick given .capacity (·.throttle.capacity)
      refillTokens := c.pick given .refillTokens (·.throttle.refillTokens)
      refillPeriod := c.pick given .refillPeriod (·.throttle.refillPeriod)
      refillUnit := c.pick given .refillUnit (·.throttle.refillUnit) }
  rate := c.pick given .rate (·.rate)
  burst := c.pick given .burst (·.burst)
  keyRule := c.pick given .keyRule (·.keyRule)
  trustedProxies := c.pick given .trustedProxies (·.trustedProxies)
  pruneInterval := c.pick given .pruneInterval (·.pruneInterval)
  metricsPort := c.pick given .metricsPort (·.metricsPort)

end Settings

namespace Environment

/-- **Sets**: of the variables that the gateway reads, the environment has the given ones, with what
is written into them for `c`, and none of the others. -/
def Sets (e : Environment) (c : Settings) (given : List Variable) : Prop :=
  ∀ v, e.text? v.name = if v ∈ given then some (c.textOf v) else none

variable {e : Environment} {c : Settings} {given : List Variable}

/-- The first definition of a variable counts, and all that are written are the same. -/
theorem text?_map (c : Settings) (given : List Variable) (v : Variable) :
    text? ⟨given.map fun v => (v.name, bytes (c.textOf v))⟩ v.name =
      if v ∈ given then some (c.textOf v) else none := by
  induction given with
  | nil => rfl
  | cons w rest ih =>
    by_cases hv : w = v
    · rw [hv, if_pos List.mem_cons_self]
      simp [text?, bytes?, decode?_bytes]
    · have hname : w.name ≠ v.name := fun h => hv (Variable.name_injective h)
      have hmem : (v ∈ w :: rest) = (v ∈ rest) := by simp [Ne.symm hv]
      simp only [hmem]
      rw [← ih]
      simp [text?, bytes?, hname]

/-- The block sets the variables that are written into it. -/
theorem sets_ofBlock (hc : c.Writable) (given : List Variable) :
    (ofBlock (c.block given)).Sets c given := by
  have hentries : ofBlock (c.block given) =
      ⟨(given.map fun v => (v.name, c.textOf v)).map fun d => (d.1, bytes d.2)⟩ := by
    refine ofBlock_blockOf fun d hd => ?_
    obtain ⟨v, -, rfl⟩ := List.mem_map.mp hd
    exact ⟨v.isPlain_name.1, v.isPlain_name.2, hc.nul_not_mem v⟩
  intro v
  rw [hentries, List.map_map]
  exact text?_map c given v

/-- A variable gives back what its reader makes of what is written, and the standard otherwise. -/
theorem Sets.read {α : Type} {parse : String → Except String α} {a standard : α}
    (he : e.Sets c given) (v : Variable) (h : parse (c.textOf v) = .ok a) :
    e.read v.name parse standard = .ok (if v ∈ given then a else standard) := by
  unfold Environment.read
  rw [he v]
  by_cases hv : v ∈ given
  · rw [if_pos hv, if_pos hv]
    dsimp only
    rw [h]
  · rw [if_neg hv, if_neg hv]

/-- A variable that is taken as it is gives back what is written, and the standard otherwise. -/
theorem Sets.getD (he : e.Sets c given) (v : Variable) (standard : String) :
    (e.text? v.name).getD standard = if v ∈ given then c.textOf v else standard := by
  rw [he v]
  by_cases hv : v ∈ given
  · rw [if_pos hv, if_pos hv]
    rfl
  · rw [if_neg hv, if_neg hv]
    rfl

end Environment

namespace Settings

/-! ## Headline -/

variable {e : Environment} {c : Settings} {given : List Variable}

/-- What is read is what was written where a variable is set, and the standard elsewhere. -/
theorem read_of_sets (hc : c.Writable) (he : e.Sets c given) : read e = .ok (c.onlyOn given) := by
  obtain ⟨ms, hms, htimeout⟩ := hc.timeout
  obtain ⟨secs, hsecs, hprune⟩ := hc.pruneInterval
  have hmillis : Duration.millis c.timeout = ms := by
    rw [htimeout, Duration.millis_ofMillis]
  have hseconds : Duration.secs c.pruneInterval = secs := by
    rw [hprune, Duration.secs_mul_second]
  have hlist : listItems (c.textOf .trustedProxies) = c.trustedProxies :=
    listItems_commaText fun item hi => (hc.proxies item hi).1
  unfold Settings.read
  simp only [bind_eq_ok_iff]
  refine ⟨_, he.read .port (inWords_toString (uint16_toDigits c.port)),
    _, he.read .timeout (inWords_toString (numeral_toDigits (hmillis ▸ hms))),
    _, he.read .maxBody (inWords_toString (uint64_toDigits c.maxBody)),
    _, he.read .capacity (inWords_toString (uint32_toDigits c.throttle.capacity)),
    _, he.read .refillTokens (inWords_toString (uint32_toDigits c.throttle.refillTokens)),
    _, he.read .refillPeriod (inWords_toString (uint64_toDigits c.throttle.refillPeriod)),
    _, he.read .refillUnit (TimeUnit.parse_name c.throttle.refillUnit),
    _, he.read .rate (inWords_toString (uint32_toDigits c.rate)),
    _, he.read .burst (inWords_toString (uint32_toDigits c.burst)),
    _, he.read .keyRule (KeyRule.parse_name c.keyRule),
    _, he.read .pruneInterval (inWords_toString (numeral_toDigits (hseconds ▸ hsecs))),
    _, he.read .metricsPort (inWords_toString (uint16_toDigits c.metricsPort)), ?_⟩
  -- only the durations and the list are not taken as they were read
  have hdelay : Duration.ofMillis (if .timeout ∈ given then Duration.millis c.timeout else 3000) =
      c.pick given .timeout (·.timeout) := by
    rw [apply_ite Duration.ofMillis, hmillis, ← htimeout]
    rfl
  have hpause : (if .pruneInterval ∈ given then Duration.secs c.pruneInterval else 60) *
      Duration.second = c.pick given .pruneInterval (·.pruneInterval) := by
    rw [apply_ite (· * Duration.second), hseconds, ← hprune]
    rfl
  have hproxies : ((e.text? "TRUSTED_PROXIES").map listItems).getD standard.trustedProxies =
      c.pick given .trustedProxies (·.trustedProxies) := by
    rw [show e.text? "TRUSTED_PROXIES" = _ from he .trustedProxies, apply_ite (Option.map listItems),
      Option.map_some, hlist, apply_ite (Option.getD · standard.trustedProxies)]
    rfl
  refine congrArg Except.ok ?_
  rw [onlyOn, Settings.mk.injEq]
  exact ⟨he.getD .host _, rfl, he.getD .gatewayName _, he.getD .mainUrl _, he.getD .timingUrl _,
    he.getD .demoUrl _, hdelay, rfl, rfl, rfl, rfl, rfl, hproxies, hpause, rfl⟩

/-- Settings that were read are loaded as the check decides. -/
theorem load_of_read {s : Settings} (h : read e = .ok s) : load e = s.check.map fun _ => s := by
  unfold load
  rw [h]
  cases hcheck : s.check with
  | error p => exact congrArg (· >>= fun _ => pure s) hcheck
  | ok _ => exact congrArg (· >>= fun _ => pure s) hcheck

/-- For every choice of variables, writing settings into these variables gives an environment that
sets them.  From every environment that sets them and no other variable of the gateway, exactly the
settings that agree with the written ones there and with the standard elsewhere are loaded, if these
pass the check, and otherwise the problem that the check finds is reported. -/
theorem load_block (c : Settings) (hc : c.Writable) (given : List Variable) :
    (ofBlock (c.block given)).Sets c given ∧
      ∀ e : Environment, e.Sets c given →
        ((c.onlyOn given).check = .ok () → load e = .ok (c.onlyOn given)) ∧
        ∀ p, (c.onlyOn given).check = .error p → load e = .error p := by
  refine ⟨sets_ofBlock hc given, fun e he => ?_⟩
  have hload := load_of_read (read_of_sets hc he)
  constructor
  · intro hcheck
    rw [hload, hcheck]
    rfl
  · intro p hcheck
    rw [hload, hcheck]
    rfl

/-- The host is not written, so it stays the standard one. -/
theorem load_block_of_timeout :
    load (ofBlock (block
        { standard with
          host := "::1"
          timeout := Duration.ofMillis 250
          trustedProxies := ["10.0.0.0/8", "::1"] }
        [.trustedProxies, .timeout])) =
      .ok { standard with
        timeout := Duration.ofMillis 250
        trustedProxies := ["10.0.0.0/8", "::1"] } := by
  have hc : Writable { standard with
      host := "::1", timeout := Duration.ofMillis 250, trustedProxies := ["10.0.0.0/8", "::1"] } :=
    ⟨by decide, by decide, by decide, by decide, by decide, ⟨250, by decide, rfl⟩, by decide,
      ⟨60, by decide, rfl⟩⟩
  obtain ⟨hsets, hload⟩ := load_block _ hc [.trustedProxies, .timeout]
  exact (hload _ hsets).1 rfl

end Settings

end Turnstile
