import Mathlib.Data.List.DropRight
import Turnstile.Proofs.Url.Written
import Turnstile.Proxy.Destination
/-!
  What stands in front of a forwarded path.

  A destination puts the path of its base URL, and the path that its route leads with, in front of
  what is left of a request's path.  The whole is then read as the path of a URL, so dot segments
  of the client are resolved after the front has been put there.

  1. **Specification** (`Below`) — a path is below a front if it goes on after it with a slash, or
     ends there.

  2. **The front** (`Destination.front`) — as the names of the base URL stay as they are, the names
     in front are those of the base path and then the segments of the lead as they are shown
     (`front_eq`).

  3. **The crux** (`path_urlFor`) — by `resolve_above`, the client's segments come to what they come
     to from the root, after what they have left of the front.

  4. **Headline** (`urlFor_of_http`) — scheme, credentials, host and port are those of the base, and
     the query is the request's.  The path is below the front exactly if the client finds the names
     again that it has gone back over: it is if the client never goes back (`below_of_forward`), but
     not for all clients (`urlFor_outside`).
-/

namespace Turnstile

open Text Proxy Url

/-! ## Specification -/

/-- **Below**: a path that goes on after a front with a slash, or ends there. -/
def Below (front path : List Char) : Prop :=
  ∃ rest, path = front ++ rest ∧ ∀ c ∈ rest.head?, c = '/'

/-- What follows a front after a slash has its segments after those of the front. -/
theorem cuts_append_of_slash (a : List Char) {b : List Char} (hb : ∀ c ∈ b.head?, c = '/') :
    cuts (a ++ b) = cuts a ++ cuts b := by
  cases b with
  | nil =>
    rw [List.append_nil]
    exact (List.append_nil _).symm
  | cons c r =>
    obtain rfl : c = '/' := hb c rfl
    exact cuts_append a r

/-- Name by name, what is below a path begins with its names. -/
theorem below_iff {front names : List (List Char)} (hfront : ∀ n ∈ front, Plain n)
    (hnames : ∀ n ∈ names, Plain n) :
    Below (pathText (.segments front)) (pathText (.segments names)) ↔ front <+: names := by
  constructor
  · rintro ⟨rest, htext, hrest⟩
    rw [← cuts_pathText hnames, htext, cuts_append_of_slash _ hrest, cuts_pathText hfront]
    exact List.prefix_append _ _
  · rintro ⟨more, rfl⟩
    refine ⟨pathText (.segments more), List.flatMap_append, ?_⟩
    intro c hc
    cases more with
    | nil => cases hc
    | cons name rest => exact (Option.some.inj hc).symm

/-- A lead begins with a slash, if there is one, and has no dot segments. -/
structure IsLead (path : List Char) : Prop where
  slash : ∀ c ∈ path.head?, c = '/'
  noDots : ∀ s ∈ cuts path, isDotSegment (counted s) = false

/-- Slashes at the end do not matter. -/
theorem IsLead.dropEnd {path : List Char} (h : IsLead path) :
    IsLead (dropEndWhile (· = '/') path) := by
  obtain ⟨hslash, hnoDots⟩ := h
  obtain ⟨rest, hpath, hrest⟩ := exists_eq_dropEndWhile_append (· = '/') path
  generalize dropEndWhile (· = '/') path = lead at hpath ⊢
  subst hpath
  constructor
  · intro c hc
    cases lead with
    | nil => cases hc
    | cons d r => exact hslash c hc
  · intro s hs
    cases rest with
    | nil => exact hnoDots s (by rwa [List.append_nil])
    | cons d r =>
      obtain rfl : d = '/' := of_decide_eq_true (hrest d List.mem_cons_self)
      refine hnoDots s ?_
      rw [cuts_append]
      exact List.mem_append_left _ hs

/-! ## The front -/

/-- Without slashes at its end, a path has no empty names at its end. -/
theorem dropEndWhile_pathText {names : List (List Char)} (h : ∀ n ∈ names, Plain n) :
    dropEndWhile (· = '/') (pathText (.segments names)) =
      pathText (.segments (names.rdropWhile (·.isEmpty))) := by
  induction names using List.reverseRecOn with
  | nil => rfl
  | append_singleton rest s ih =>
    have htext : pathText (.segments (rest ++ [s])) = pathText (.segments rest) ++ '/' :: s := by
      show (rest ++ [s]).flatMap ('/' :: ·) = rest.flatMap ('/' :: ·) ++ '/' :: s
      rw [List.flatMap_append, List.flatMap_singleton]
    show List.rdropWhile _ _ = _
    rw [htext]
    rcases List.eq_nil_or_concat' s with rfl | ⟨front, c, rfl⟩
    · rw [List.rdropWhile_concat_pos _ _ _ (by decide), List.rdropWhile_concat_pos _ _ _ rfl]
      exact ih fun n hn => h n (List.mem_append_left _ hn)
    · have hc : c ≠ '/' := by
        rintro rfl
        exact (h _ (List.mem_append_right _ (List.mem_singleton_self _))).1 (by simp)
      rw [List.rdropWhile_concat_neg _ _ _ (by simp), htext, ← List.cons_append,
        ← List.append_assoc, List.rdropWhile_concat_neg _ _ _ (by simpa using hc)]

namespace Destination

/-- The names in front of what is left of a request's path. -/
def front (d : Destination) : List (List Char) := (cuts (d.basePath ++ d.lead)).map shown

/-- The segments that are left of a request's path. -/
def own (d : Destination) (target : Uri) : List (List Char) :=
  cuts (stripSegments d.strip target.path.toList)

/-- The lead as it is shown. -/
def shownLead (d : Destination) : List Char := pathText (.segments ((cuts d.lead).map shown))

/-- **Over HTTP**: the names of the base URL stay as they are, and the lead is one. -/
structure OverHttp (d : Destination) : Prop where
  scheme : isHttp d.base.scheme = true
  base : ∃ names, d.base.path = .segments names ∧ ∀ n ∈ names, Written n
  lead : IsLead d.lead

theorem overHttp_of_create {name url : String} {strip : Nat} {d : Destination} {lead : String}
    (hcreate : create name url strip = .ok d) (hhttp : isHttp d.base.scheme = true)
    (hlead : IsLead lead.toList) : (d.withLead lead).OverHttp := by
  refine ⟨hhttp, ?_, hlead.dropEnd⟩
  unfold create at hcreate
  cases hparse : parse url with
  | error e =>
    rw [hparse] at hcreate
    cases hcreate
  | ok base =>
    rw [hparse] at hcreate
    injection hcreate with hcreate
    rw [← hcreate] at hhttp ⊢
    exact written_of_parse hparse hhttp

variable {d : Destination}

/-- The base path comes back from its segments, which are names that stay as they are. -/
theorem OverHttp.basePath_eq (h : d.OverHttp) :
    d.basePath = pathText (.segments (cuts d.basePath)) ∧ ∀ n ∈ cuts d.basePath, Written n := by
  obtain ⟨names, hnames, hwritten⟩ := h.base
  have hleft : ∀ n ∈ names.rdropWhile (·.isEmpty), Written n := fun n hn =>
    hwritten n ((List.rdropWhile_prefix _ names).subset hn)
  have hbase : d.basePath = pathText (.segments (names.rdropWhile (·.isEmpty))) := by
    unfold basePath
    rw [hnames, dropEndWhile_pathText fun n hn => (hwritten n hn).plain]
  have hcuts : cuts d.basePath = names.rdropWhile (·.isEmpty) := by
    rw [hbase, cuts_pathText fun n hn => (hleft n hn).plain]
  rw [hcuts]
  exact ⟨hbase, hleft⟩

/-- **The front**: the names of the base path, and the segments of the lead as they are shown. -/
theorem OverHttp.front_eq (h : d.OverHttp) :
    d.front = cuts d.basePath ++ (cuts d.lead).map shown := by
  have hbase : (cuts d.basePath).map shown = (cuts d.basePath).map id :=
    List.map_congr_left fun n hn => (h.basePath_eq.2 n hn).shown_eq
  unfold front
  rw [cuts_append_of_slash _ h.lead.slash, List.map_append, hbase, List.map_id]

theorem OverHttp.noDots (h : d.OverHttp) :
    ∀ s ∈ cuts (d.basePath ++ d.lead), isDotSegment (counted s) = false := by
  intro s hs
  rw [cuts_append_of_slash _ h.lead.slash] at hs
  rcases List.mem_append.mp hs with hs | hs
  · have hwritten := h.basePath_eq.2 s hs
    rw [hwritten.counted_eq]
    exact hwritten.notDot
  · exact h.lead.noDots s hs

theorem OverHttp.written_front (h : d.OverHttp) : ∀ n ∈ d.front, Written n := by
  intro n hn
  obtain ⟨s, hs, rfl⟩ := List.mem_map.mp hn
  exact written_shown (plain_of_mem_cuts hs) (h.noDots s hs)

/-- The front as a text: the base path, and after it the lead as it is shown. -/
theorem OverHttp.pathText_front (h : d.OverHttp) :
    pathText (.segments d.front) = d.basePath ++ d.shownLead := by
  rw [h.front_eq]
  calc pathText (.segments (cuts d.basePath ++ (cuts d.lead).map shown))
    _ = pathText (.segments (cuts d.basePath)) ++ pathText (.segments ((cuts d.lead).map shown)) :=
        List.flatMap_append
    _ = d.basePath ++ d.shownLead := by
        rw [← h.basePath_eq.1]
        rfl

/-- A lead in which nothing has to be encoded is shown as it is. -/
theorem shownLead_eq (hslash : ∀ c ∈ d.lead.head?, c = '/')
    (hkept : ∀ c ∈ d.lead, Percent.pathSet c = false ∧ c.toNat < 0x80 ∧ c ≠ '\\') :
    d.shownLead = d.lead := by
  unfold shownLead
  generalize d.lead = lead at hslash hkept
  cases lead with
  | nil => rfl
  | cons c r =>
    obtain rfl : c = '/' := hslash c rfl
    have hr : ∀ c ∈ r, Percent.pathSet c = false ∧ c.toNat < 0x80 ∧ c ≠ '\\' := fun c hc =>
      hkept c (List.mem_cons_of_mem _ hc)
    have hshown : ∀ s ∈ split '/' r, shown s = id s := by
      intro s hs
      have hs : ∀ c ∈ s, Percent.pathSet c = false ∧ c.toNat < 0x80 := fun c hc =>
        ⟨(hr c (mem_of_mem_split hs hc)).1, (hr c (mem_of_mem_split hs hc)).2.1⟩
      unfold shown
      rw [counted_of_kept fun c hc => isDropped_of_controls (controls_of_pathSet (hs c hc).1)]
      exact Percent.encode_eq_self_iff.mpr hs
    rw [cuts_slash, rawSegments_of_not_mem fun hc => (hr _ hc).2.2 rfl,
      List.map_congr_left hshown, List.map_id]
    obtain ⟨s, more, hsplit⟩ := List.exists_cons_of_ne_nil (split_ne_nil '/' r)
    show (split '/' r).flatMap ('/' :: ·) = '/' :: r
    rw [hsplit, flatMap_slash, ← hsplit, intercalate_split]

/-! ## Crux -/

theorem exists_stripSegments_eq (n : Nat) (path : List Char) :
    ∃ rest, stripSegments n path = '/' :: rest := by
  unfold stripSegments joinSegments
  cases (segments path).drop n with
  | nil => exact ⟨[], rfl⟩
  | cons s names => exact ⟨_, rfl⟩

/-- **The crux**: the path of the URL for a request. -/
theorem OverHttp.path_urlFor (h : d.OverHttp) (target : Uri) :
    (d.urlFor target).path = .segments
      ((goBack^[rises [] (d.own target)] d.front.reverse).reverse ++
        resolve false [] (d.own target)) := by
  obtain ⟨hspecial, hfile⟩ := isHttp_cases h.scheme
  obtain ⟨names, hnames, -⟩ := h.base
  obtain ⟨rest, hrest⟩ := exists_stripSegments_eq d.strip target.path.toList
  have hfirst : ∀ c ∈ (d.basePath ++ d.lead).head?, c = '/' := by
    intro c hc
    rcases head?_basePath hnames with hbase | hbase
    · rw [hbase] at hc
      exact h.lead.slash c hc
    · rw [List.head?_append, hbase] at hc
      exact (Option.some.inj hc).symm
  have hcuts : cuts (d.basePath ++ d.lead ++ '/' :: rest) =
      cuts (d.basePath ++ d.lead) ++ d.own target := by
    rw [cuts_append, own, hrest]
  have hslash : ∃ x, d.basePath ++ d.lead ++ '/' :: rest = '/' :: x := by
    cases hfront : d.basePath ++ d.lead with
    | nil => exact ⟨rest, rfl⟩
    | cons c r =>
      rw [hfront] at hfirst
      obtain rfl : c = '/' := hfirst c rfl
      exact ⟨r ++ '/' :: rest, rfl⟩
  obtain ⟨x, hx⟩ := hslash
  have hset : (d.urlFor target).path = .segments (resolve false [] (cuts ('/' :: x))) := by
    show (d.base.setPath
      (d.basePath ++ d.lead ++ stripSegments d.strip target.path.toList)).path = _
    rw [hrest, hx, setPath_slash hnames, hspecial, hfile, cuts_slash]
    unfold trimSegments
    rw [hfile]
    rfl
  have habove := resolve_above [] d.front.reverse (d.own target)
  rw [hset, ← hx, hcuts, resolve_names h.noDots, List.append_nil]
  exact congrArg UrlPath.segments habove

/-- Going back takes names away at the end. -/
theorem exists_front_eq (d : Destination) (n : Nat) :
    ∃ dropped, d.front = (goBack^[n] d.front.reverse).reverse ++ dropped := by
  have hstep (l : List (List Char)) : goBack l <:+ l := by
    cases l with
    | nil => exact List.suffix_rfl
    | cons name more =>
      rw [goBack_cons]
      split
      · exact List.suffix_rfl
      · exact List.suffix_cons _ _
  have hleft : goBack^[n] d.front.reverse <:+ d.front.reverse := by
    induction n with
    | zero => exact List.suffix_rfl
    | succ n ih =>
      rw [Function.iterate_succ_apply']
      exact (hstep _).trans ih
  obtain ⟨dropped, hdropped⟩ := hleft
  refine ⟨dropped.reverse, ?_⟩
  rw [← List.reverse_append, hdropped, List.reverse_reverse]

theorem written_own (d : Destination) (target : Uri) :
    ∀ n ∈ resolve false [] (d.own target), Written n :=
  written_resolve (fun _ hs => plain_of_mem_cuts hs) (by simp)

/-- Of a front of which some names are dropped, a path is below exactly if it begins with them
after the others. -/
theorem OverHttp.below_urlFor_iff (h : d.OverHttp) {target : Uri} {kept dropped : List (List Char)}
    (hfront : d.front = kept ++ dropped)
    (hpath : (d.urlFor target).path = .segments (kept ++ resolve false [] (d.own target))) :
    Below (d.basePath ++ d.shownLead) (pathText (d.urlFor target).path) ↔
      dropped <+: resolve false [] (d.own target) := by
  have hplain : ∀ n ∈ kept ++ resolve false [] (d.own target), Plain n := by
    intro n hn
    rcases List.mem_append.mp hn with hn | hn
    · exact (h.written_front n (hfront ▸ List.mem_append_left _ hn)).plain
    · exact (d.written_own target n hn).plain
  have hbelow := below_iff (fun n hn => (h.written_front n hn).plain) hplain
  rw [← h.pathText_front, hpath, hbelow, hfront, List.prefix_append_right_inj]

/-- A client that never goes back stays below. -/
theorem OverHttp.below_of_forward (h : d.OverHttp) {target : Uri}
    (forward : ∀ s ∈ d.own target, isDotDot (counted s) = false) :
    Below (d.basePath ++ d.shownLead) (pathText (d.urlFor target).path) := by
  have hpath : (d.urlFor target).path =
      .segments (d.front ++ resolve false [] (d.own target)) := by
    rw [h.path_urlFor, rises_eq_zero forward]
    show UrlPath.segments (d.front.reverse.reverse ++ _) = _
    rw [List.reverse_reverse]
  exact (h.below_urlFor_iff (List.append_nil _).symm hpath).mpr List.nil_prefix

/-! ## The query -/

/-- A query that is set is kept as it is if nothing in it has to be encoded. -/
theorem encode_counted_eq_iff (q : List Char) :
    Percent.encode Percent.specialQuerySet (counted q) = q ↔
      ∀ c ∈ q, Percent.specialQuerySet c = false ∧ c.toNat < 0x80 := by
  have hcontrols {c : Char} (h : Percent.specialQuerySet c = false) :
      Percent.controls c = false := by
    simp only [Percent.specialQuerySet, Percent.querySet, Bool.or_eq_false_iff] at h
    exact h.1.1
  constructor
  · intro h c hc
    rw [← h] at hc
    rcases Percent.mem_encode hc with hsign | ⟨-, hkept⟩
    · have hall : Percent.signs.all (fun c =>
          decide (Percent.specialQuerySet c = false ∧ c.toNat < 0x80)) = true := by decide
      exact of_decide_eq_true (List.all_eq_true.mp hall c hsign)
    · exact hkept
  · intro h
    rw [counted_of_kept fun c hc => isDropped_of_controls (hcontrols (h c hc).1)]
    exact Percent.encode_eq_self_iff.mpr h

/-! ## Headline -/

/-- Scheme, credentials, host and port stay, whatever path and query are set. -/
theorem urlFor_eq (d : Destination) (target : Uri) :
    d.urlFor target =
      { d.base with
        path := (d.urlFor target).path
        query := target.query.map fun q =>
          Percent.encode (queryEncoding d.base.scheme) (counted q.toList) } := by
  unfold urlFor setQuery
  rw [Option.map_map]
  unfold setPath
  split
  · rfl
  · rfl

/-- **Headline.**  For every destination over HTTP, every lead without dot segments and every
request:

* scheme, credentials, host and port of the URL are those of the base;
* its query is that of the request, encoded where it has to be, and so the same exactly if nothing
  in it has to be encoded;
* its path is what is left of the front, and after that what the client's segments come to.  Of the
  front one name is dropped for each `..` that the client has at its own root, up to a name that is
  a drive;
* so the path is below the base path and the lead exactly if the client's names begin with those
  that were dropped, as they do where nothing was.  The lead is shown as it is, unless something in
  it has to be encoded. -/
theorem urlFor_of_http {name url : String} {strip : Nat} {d₀ : Destination} {lead : String}
    (hcreate : create name url strip = .ok d₀) (hhttp : isHttp d₀.base.scheme = true)
    (hlead : IsLead lead.toList) (target : Uri) :
    let d := d₀.withLead lead
    let u := d.urlFor target
    (u.scheme = d.base.scheme ∧ u.credentials = d.base.credentials ∧ u.host = d.base.host ∧
      u.port = d.base.port) ∧
    u.query = target.query.map
      (fun q => Percent.encode Percent.specialQuerySet (counted q.toList)) ∧
    (u.query = target.query.map (·.toList) ↔ ∀ q ∈ target.query, ∀ c ∈ q.toList,
      Percent.specialQuerySet c = false ∧ c.toNat < 0x80) ∧
    ((∀ c ∈ d.lead, Percent.pathSet c = false ∧ c.toNat < 0x80 ∧ c ≠ '\\') →
      d.shownLead = d.lead) ∧
    ∃ kept dropped, d.front = kept ++ dropped ∧
      kept = (goBack^[rises [] (d.own target)] d.front.reverse).reverse ∧
      u.path = .segments (kept ++ resolve false [] (d.own target)) ∧
      (Below (d.basePath ++ d.shownLead) (pathText u.path) ↔
        dropped <+: resolve false [] (d.own target)) := by
  intro d u
  have hd : d.OverHttp := overHttp_of_create hcreate hhttp hlead
  obtain ⟨hspecial, -⟩ := isHttp_cases hd.scheme
  obtain ⟨dropped, hfront⟩ := d.exists_front_eq (rises [] (d.own target))
  have hpath := hd.path_urlFor target
  have hu := d.urlFor_eq target
  have hencoding : queryEncoding d.base.scheme = Percent.specialQuerySet := if_pos hspecial
  rw [hencoding] at hu
  have hquery : u.query = target.query.map fun q =>
      Percent.encode Percent.specialQuerySet (counted q.toList) := congrArg Url.query hu
  refine ⟨?_, hquery, ?_, shownLead_eq hd.lead.slash, _, dropped, hfront, rfl, hpath,
    hd.below_urlFor_iff hfront hpath⟩
  · show (d.urlFor target).scheme = _ ∧ (d.urlFor target).credentials = _ ∧
      (d.urlFor target).host = _ ∧ (d.urlFor target).port = _
    rw [hu]
    exact ⟨rfl, rfl, rfl, rfl⟩
  · rw [hquery]
    cases target.query with
    | none => simp
    | some q => simpa using encode_counted_eq_iff q.toList

/-- A client goes back over the lead, and finds it again. -/
theorem urlFor_of_http_of_return :
    let base : Url := ⟨"http".toList, [], [], some "localhost".toList, false, some 8081,
      .segments ["base".toList, []], none, none⟩
    let d : Destination := (⟨"api", base, 1, []⟩ : Destination).withLead "/v1"
    let target : Uri := ⟨none, none, "/api/../v1/x", some "q=it's"⟩
    create "api" "http://localhost:8081/base/" 1 = .ok ⟨"api", base, 1, []⟩ ∧
    rises [] (d.own target) = 1 ∧
    Below (d.basePath ++ d.lead) (pathText (d.urlFor target).path) ∧
    (d.urlFor target).query = some "q=it%27s".toList := by
  intro base d target
  have hcreate : create "api" "http://localhost:8081/base/" 1 = .ok ⟨"api", base, 1, []⟩ := by
    decide +kernel
  have hlead : IsLead "/v1".toList :=
    ⟨fun _ hc => (Option.some.inj hc).symm, by decide +kernel⟩
  obtain ⟨-, hquery, -, hshown, kept, dropped, hfront, hkept, -, hbelow⟩ :=
    urlFor_of_http hcreate (by decide) hlead target
  have hrises : rises [] (d.own target) = 1 := by decide +kernel
  have hfirst : kept = ["base".toList] := hkept.trans (by decide +kernel)
  have hnames : d.front = ["base".toList] ++ ["v1".toList] := by decide +kernel
  have hdropped : dropped = ["v1".toList] := by
    rw [hfirst] at hfront
    exact (List.append_cancel_left (hnames.symm.trans hfront)).symm
  have hplain : d.lead.all (fun c =>
      decide (Percent.pathSet c = false ∧ c.toNat < 0x80 ∧ c ≠ '\\')) = true := by decide +kernel
  have hsame : d.shownLead = d.lead :=
    hshown fun c hc => of_decide_eq_true (List.all_eq_true.mp hplain c hc)
  refine ⟨hcreate, hrises, ?_, hquery.trans (by decide +kernel)⟩
  rw [← hsame]
  refine hbelow.mpr ?_
  rw [hdropped]
  decide +kernel

/-- A client that goes back once gets out of the base path. -/
theorem urlFor_outside :
    let base : Url := ⟨"http".toList, [], [], some "localhost".toList, false, some 8081,
      .segments ["base".toList], none, none⟩
    let d : Destination := ⟨"api", base, 1, []⟩
    let target : Uri := ⟨none, none, "/api/../secret", none⟩
    create "api" "http://localhost:8081/base" 1 = .ok d ∧ isHttp d.base.scheme = true ∧
    d.basePath = "/base".toList ∧
    pathText (d.urlFor target).path = "/secret".toList ∧
    ¬ Below d.basePath (pathText (d.urlFor target).path) := by
  intro base d target
  have hpath : pathText (d.urlFor target).path = "/secret".toList := by decide +kernel
  have hbase : d.basePath = "/base".toList := by decide +kernel
  refine ⟨by decide +kernel, by decide, hbase, hpath, ?_⟩
  rintro ⟨rest, hrest, -⟩
  rw [hpath, hbase] at hrest
  exact absurd hrest (by simp)

end Destination

end Turnstile
