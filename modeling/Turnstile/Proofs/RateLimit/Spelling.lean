import Mathlib.Data.List.Basic
import Turnstile.Gateway.Route
import Turnstile.Proofs.Url.Below
import Turnstile.RateLimit.Key
/-!
  Spellings of one path, and the smart keys of them.

  1. **The question** — the smart rule reads its segment off the path of a request as it stands,
     after `/gateway/rate/`.  The route forwards another path: without its first two segments and
     without the empty ones, below the path of the destination, with dot segments resolved and
     characters encoded.  Can a client that spells one destination path differently get another key?

  2. **The limited paths** (`segment_eq`, `stripSegments_eq`) — of a path of the route both see what
     stands below `/gateway/rate/`: the rule its first piece, the destination the pieces of it.

  3. **Headline** (`smart_key_eq_of_same_path`) — paths that lead to one destination path give one
     key, if their segment is spelled in the way a URL writes it, no empty segments stand in front
     of it, and no `..` goes back (`Plain`).  Of the paths that are not plain, one slash more is
     enough for another key (`smart_keys_of_double_slash`).
-/

namespace Turnstile

open Text Proxy

namespace KeyRule

/-! ## The limited paths -/

/-- The paths of the route whose requests the rule counts. -/
def limited : PathPattern := .under "/gateway/rate"

/-- What stands in a limited path below the root of the segments. -/
def below (path : List Char) : List Char := path.drop segmentRoot.toList.length

/-- A limited path is the root without its slash, or goes on after it. -/
theorem limited_cases {path : List Char} (h : limited.accepts path = true) :
    (path = "/gateway/rate".toList ∧ below path = []) ∨
      path = segmentRoot.toList ++ below path := by
  unfold limited PathPattern.accepts at h
  dsimp only at h
  split at h
  · rename_i hcut
    have hpath := List.isPrefixOf?_eq_some_iff_append_eq.mp hcut
    subst hpath
    exact .inl ⟨rfl, rfl⟩
  · rename_i c rest hcut
    have hc : c = '/' := of_decide_eq_true h
    have hpath := List.isPrefixOf?_eq_some_iff_append_eq.mp hcut
    subst hc hpath
    exact .inr rfl
  · exact absurd h Bool.false_ne_true

/-- **What the rule sees**: the first piece below the root. -/
theorem segment_eq {path : List Char} (h : limited.accepts path = true) :
    segment path = if (before '/' (below path)).isEmpty then defaultSegment.toList
      else before '/' (below path) := by
  rcases limited_cases h with ⟨hpath, hbelow⟩ | hpath
  · rw [hbelow, hpath]
    decide
  · have hcut : segmentRoot.toList.isPrefixOf? path = some (below path) :=
      List.isPrefixOf?_eq_some_iff_append_eq.mpr hpath.symm
    unfold segment
    rw [hcut]

/-- **What the destination sees**: the pieces below the root. -/
theorem stripSegments_eq {path : List Char} (h : limited.accepts path = true) :
    stripSegments 2 path = joinSegments (segments (below path)) (path.getLast? = some '/') := by
  have hdrop : (segments path).drop 2 = segments (below path) := by
    rcases limited_cases h with ⟨hpath, hbelow⟩ | hpath
    · rw [hbelow, hpath]
      decide
    · have hroot : segmentRoot.toList ++ below path = "/gateway/rate".toList ++ '/' :: below path :=
        rfl
      have hfront : segments "/gateway/rate".toList = ["gateway".toList, "rate".toList] := by decide
      rw [hpath, hroot, segments_append, hfront, ← hroot, ← hpath]
      rfl
  unfold stripSegments
  rw [hdrop]

/-! ## Plain spellings -/

/-- **Plain**: below the root, a text starts with a segment that a URL like `u` writes as it is
spelled, and that stays there. -/
structure Plain (u : Url) (t : List Char) : Prop where
  /-- An empty segment in front is nothing but a slash at the end. -/
  direct : before '/' t = [] → segments t = []
  first : Url.Spelled (Url.isFile u.scheme) (before '/' t)
  whole : Url.isSpecial u.scheme = true → '\\' ∉ before '/' t
  forward : ∀ s ∈ Url.rawSegments (Url.isSpecial u.scheme) t, Url.isDotDot (Url.counted s) = false

/-- The first segment of a plain text is its first piece, if it has any. -/
theorem Plain.head?_segments {u : Url} {t : List Char} (h : Plain u t) :
    (segments t).head? = if before '/' t = [] then none else some (before '/' t) := by
  obtain ⟨more, hsplit⟩ := split_eq_before_cons '/' t
  by_cases hfirst : before '/' t = []
  · rw [if_pos hfirst, h.direct hfirst]
    rfl
  · rw [if_neg hfirst]
    unfold segments
    rw [hsplit, List.filter_cons_of_pos (by simpa using hfirst)]
    rfl

/-- What is passed on of a plain text starts with the same segment. -/
theorem Plain.startsAsSpelled {u : Url} {t : List Char} (h : Plain u t) (slash : Bool) :
    ∃ j, joinSegments (segments t) slash = '/' :: j ∧ before '/' j = before '/' t ∧
      Url.StartsAsSpelled u j := by
  obtain ⟨pieces, hjoin, hhead, hpieces⟩ := Proxy.joinSegments_segments t slash
  rw [h.head?_segments] at hhead
  have hstart : before '/' (['/'].intercalate pieces) = before '/' t ∧
      (['/'].intercalate pieces).head? ≠ some '/' := by
    by_cases hfirst : before '/' t = []
    · rw [if_pos hfirst, List.head?_eq_none_iff] at hhead
      rw [hhead]
      exact ⟨hfirst.symm, by simp [List.intercalate_nil]⟩
    · rw [if_neg hfirst] at hhead
      obtain ⟨rest, rfl⟩ := List.head?_eq_some_iff.mp hhead
      have hbefore := before_intercalate rest (not_mem_before '/' t)
      refine ⟨hbefore, fun hslash => hfirst ?_⟩
      -- nothing stands before a slash at the front
      obtain ⟨r, hr⟩ := List.head?_eq_some_iff.mp hslash
      rw [hr] at hbefore
      exact hbefore.symm.trans (by simp [before])
  -- what is passed on has no segment that the text has not, so nothing in it goes back
  refine ⟨_, hjoin, hstart.1, hstart.2, hstart.1.symm ▸ h.first, hstart.1.symm ▸ h.whole,
    fun s hs => ?_⟩
  rcases Url.mem_rawSegments_of_mem_intercalate hpieces hs with rfl | hs
  · decide
  · exact h.forward s hs

/-! ## Headline -/

/-- The segment that the rule reads is the one after the base in the destination's path. -/
theorem before_below_eq_of_same_path {name url : String} {d : Destination}
    (hd : Destination.create name url 2 = .ok d) {t t' : Uri}
    (ht : limited.accepts t.path.toList = true) (ht' : limited.accepts t'.path.toList = true)
    (plain : Plain d.base (below t.path.toList)) (plain' : Plain d.base (below t'.path.toList))
    (same : Url.pathText (d.urlFor t).path = Url.pathText (d.urlFor t').path) :
    before '/' (below t.path.toList) = before '/' (below t'.path.toList) := by
  obtain ⟨hstrip, hlead⟩ := Destination.create_cases hd
  obtain ⟨j, hjoin, hfirst, hj⟩ := plain.startsAsSpelled (t.path.toList.getLast? = some '/')
  obtain ⟨j', hjoin', hfirst', hj'⟩ := plain'.startsAsSpelled (t'.path.toList.getLast? = some '/')
  have hpath : ∀ u : Uri, (d.urlFor u).path =
      (d.base.setPath (d.basePath ++ stripSegments 2 u.path.toList)).path := by
    intro u
    show (d.base.setPath (d.basePath ++ d.lead ++ stripSegments d.strip u.path.toList)).path = _
    rw [hstrip, hlead, List.append_nil]
  rw [hpath, hpath, stripSegments_eq ht, stripSegments_eq ht', hjoin, hjoin'] at same
  rw [← hfirst, ← hfirst']
  exact Url.before_eq_of_pathText_eq (fun _ => Destination.head?_basePath) hj hj' same

/-- **Headline.**  Requests of one client to one destination path have one smart key, if both paths
are plain. -/
theorem smart_key_eq_of_same_path {name url : String} {d : Destination} {proxies : TrustedProxies}
    {r r' : Request} (hd : Destination.create name url 2 = .ok d)
    (hr : limited.accepts r.uri.path.toList = true)
    (hr' : limited.accepts r'.uri.path.toList = true)
    (plain : Plain d.base (below r.uri.path.toList))
    (plain' : Plain d.base (below r'.uri.path.toList))
    (client : r.client proxies = r'.client proxies)
    (same : Url.pathText (d.urlFor r.uri).path = Url.pathText (d.urlFor r'.uri).path) :
    smart.key proxies r = smart.key proxies r' := by
  have hfirst := before_below_eq_of_same_path hd hr hr' plain plain' same
  have hsegment : segment r.uri.path.toList = segment r'.uri.path.toList := by
    rw [segment_eq hr, segment_eq hr', hfirst]
  show String.ofList ((r.client proxies).text ++ ':' :: segment r.uri.path.toList) = _
  rw [client, hsegment]
  rfl

/-- Slashes and dots after the segment do not count. -/
theorem smart_key_eq_of_same_path_of_dots :
    let d : Destination := ⟨"rate", ⟨"http".toList, [], [], some "localhost".toList, false,
      some 8081, .segments [[]], none, none⟩, 2, []⟩
    let r : Request := ⟨"GET", ⟨none, none, "/gateway/rate/users/7", none⟩, [], [], none⟩
    let r' : Request := ⟨"GET", ⟨none, none, "/gateway/rate/users//./7", none⟩, [], [], none⟩
    Destination.create "rate" "http://localhost:8081" 2 = .ok d ∧
    limited.accepts r.uri.path.toList = true ∧ limited.accepts r'.uri.path.toList = true ∧
    Plain d.base (below r.uri.path.toList) ∧ Plain d.base (below r'.uri.path.toList) ∧
    r.client ⟨[]⟩ = r'.client ⟨[]⟩ ∧
    Url.pathText (d.urlFor r.uri).path = Url.pathText (d.urlFor r'.uri).path ∧
    smart.key ⟨[]⟩ r = smart.key ⟨[]⟩ r' := by
  intro d r r'
  have hd : Destination.create "rate" "http://localhost:8081" 2 = .ok d := by rfl
  have hr : limited.accepts r.uri.path.toList = true := by decide
  have hr' : limited.accepts r'.uri.path.toList = true := by decide
  have plain : Plain d.base (below r.uri.path.toList) :=
    ⟨by decide, ⟨by decide, by decide⟩, by decide, by decide⟩
  have plain' : Plain d.base (below r'.uri.path.toList) :=
    ⟨by decide, ⟨by decide, by decide⟩, by decide, by decide⟩
  have client : r.client ⟨[]⟩ = r'.client ⟨[]⟩ := rfl
  have same : Url.pathText (d.urlFor r.uri).path = Url.pathText (d.urlFor r'.uri).path := by
    decide +kernel
  exact ⟨hd, hr, hr', plain, plain', client, same,
    smart_key_eq_of_same_path hd hr hr' plain plain' client same⟩

/-! ## Other spellings -/

/-- A second slash in front of the segment changes nothing for the destination. -/
theorem stripSegments_double_slash (t : List Char) :
    stripSegments 2 (segmentRoot.toList ++ '/' :: t) =
      stripSegments 2 (segmentRoot.toList ++ t) := by
  have hroot : segmentRoot.toList ++ t = "/gateway/rate".toList ++ '/' :: t := rfl
  have hfront : segments segmentRoot.toList = segments "/gateway/rate".toList := by decide
  have hsegments : segments (segmentRoot.toList ++ '/' :: t) =
      segments (segmentRoot.toList ++ t) := by
    rw [hroot, segments_append, segments_append, hfront]
  have hlast : (segmentRoot.toList ++ '/' :: t).getLast? = (segmentRoot.toList ++ t).getLast? := by
    cases t with
    | nil => rfl
    | cons c r => rw [List.getLast?_append_cons, List.getLast?_append_cons, List.getLast?_cons_cons]
  unfold stripSegments
  rw [hsegments, hlast]

/-- **One slash more**: the segment is hidden from the rule. -/
theorem segment_double_slash (t : List Char) :
    segment (segmentRoot.toList ++ '/' :: t) = defaultSegment.toList := by
  have hcut : segmentRoot.toList.isPrefixOf? (segmentRoot.toList ++ '/' :: t) = some ('/' :: t) :=
    List.isPrefixOf?_eq_some_iff_append_eq.mpr rfl
  unfold segment
  rw [hcut]
  rfl

/-- **A second slash opens another bucket**: one client asks for one destination path under two
keys. -/
theorem smart_keys_of_double_slash :
    let d : Destination := ⟨"rate", ⟨"http".toList, [], [], some "localhost".toList, false,
      some 8081, .segments [[]], none, none⟩, 2, []⟩
    let r : Request := ⟨"GET", ⟨none, none, "/gateway/rate/users", none⟩, [], [], none⟩
    let r' : Request := ⟨"GET", ⟨none, none, "/gateway/rate//users", none⟩, [], [], none⟩
    Destination.create "rate" "http://localhost:8081" 2 = .ok d ∧
    limited.accepts r.uri.path.toList = true ∧ limited.accepts r'.uri.path.toList = true ∧
    r.client ⟨[]⟩ = r'.client ⟨[]⟩ ∧
    Url.pathText (d.urlFor r.uri).path = Url.pathText (d.urlFor r'.uri).path ∧
    smart.key ⟨[]⟩ r ≠ smart.key ⟨[]⟩ r' := by
  intro d r r'
  have hr : r.uri.path.toList = segmentRoot.toList ++ "users".toList := by decide
  have hr' : r'.uri.path.toList = segmentRoot.toList ++ '/' :: "users".toList := by decide
  have hstrip : stripSegments 2 r'.uri.path.toList = stripSegments 2 r.uri.path.toList := by
    rw [hr, hr', stripSegments_double_slash]
  have same : Url.pathText (d.urlFor r.uri).path = Url.pathText (d.urlFor r'.uri).path := by
    unfold Destination.urlFor
    rw [hstrip]
  have hsegment : segment r'.uri.path.toList = defaultSegment.toList := by
    rw [hr', segment_double_slash]
  refine ⟨by rfl, by decide, by decide, rfl, same, fun heq => ?_⟩
  have htext := String.ofList_inj.mp heq
  rw [hsegment] at htext
  exact absurd htext (by decide +kernel)

end KeyRule

end Turnstile
