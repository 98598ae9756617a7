import Turnstile.Url.Basic
/-!
  Paths that are set below a base.

  1. **Segments** (`rawSegments_append`) — a slash ends a segment, so the segments of a path are
     those of its base and then those of what is put below it.

  2. **Dots** (`resolve_append`, `resolve_forward`) — the segments of the base are resolved first
     and leave some names behind, whatever follows.  A name after them is kept unless it is a dot
     segment, and stays unless a later segment goes back over it.

  3. **Headline** (`pathText_setPath_below`) — the paths that are set below one base have a common
     front, and after it each has its own first segment, if that segment is written as it is
     spelled and stays (`StartsAsSpelled`).  This holds for every kind of URL, also for those
     without segments.
-/

namespace Turnstile.Url

open Text

/-! ## Characters -/

/-- What a path does not encode is no control, so it counts and is not encoded elsewhere. -/
theorem controls_of_pathSet {c : Char} (h : Percent.pathSet c = false) :
    Percent.controls c = false := by
  simp only [Percent.pathSet, Percent.fragmentSet, Bool.or_eq_false_iff] at h
  exact h.1.1

/-- Letters are written as they are. -/
theorem kept_of_isAlpha {c : Char} (h : c.isAlpha = true) :
    Percent.pathSet c = false ∧ c.toNat < 0x80 := by
  have hrange : 65 ≤ c.toNat ∧ c.toNat ≤ 122 ∧ (c.toNat ≤ 90 ∨ 97 ≤ c.toNat) := by
    rcases Bool.or_eq_true_iff.mp h with hupper | hlower
    · obtain ⟨hA, hZ⟩ : 'A'.val ≤ c.val ∧ c.val ≤ 'Z'.val := of_decide_eq_true hupper
      have hlow : 65 ≤ c.toNat := UInt32.le_iff_toNat_le.mp hA
      have hhigh : c.toNat ≤ 90 := UInt32.le_iff_toNat_le.mp hZ
      omega
    · obtain ⟨ha, hz⟩ := Bool.and_eq_true_iff.mp hlower
      have hlow : 97 ≤ c.toNat := UInt32.le_iff_toNat_le.mp (of_decide_eq_true ha)
      have hhigh : c.toNat ≤ 122 := UInt32.le_iff_toNat_le.mp (of_decide_eq_true hz)
      omega
  refine ⟨Bool.eq_false_iff.mpr fun hset => ?_, by omega⟩
  simp only [Percent.pathSet, Percent.fragmentSet, Percent.controls, Bool.or_eq_true,
    decide_eq_true_eq, beq_iff_eq, List.mem_cons, List.not_mem_nil, or_false] at hset
  rcases hset with (hset | hset) | hset
  · omega
  · rcases hset with rfl | rfl | rfl | rfl | rfl <;> exact absurd hrange (by decide)
  · rcases hset with rfl | rfl | rfl | rfl <;> exact absurd hrange (by decide)

theorem isDropped_of_controls {c : Char} (h : Percent.controls c = false) :
    isDropped c = false := by
  refine Bool.eq_false_iff.mpr fun hdropped => ?_
  have hc : c = '\t' ∨ c = '\n' ∨ c = '\r' := by simpa [isDropped] using hdropped
  rcases hc with rfl | rfl | rfl <;> exact absurd h (by decide)

theorem counted_of_kept {t : List Char} (h : ∀ c ∈ t, isDropped c = false) : counted t = t := by
  refine List.filter_eq_self.mpr fun c hc => ?_
  rw [h c hc]
  rfl

theorem counted_append (a b : List Char) : counted (a ++ b) = counted a ++ counted b :=
  List.filter_append ..

/-- A drive is kept apart by something that does not count. -/
theorem cutDrive?_of_kept {s : List Char} (h : ∀ c ∈ s, isDropped c = false) :
    cutDrive? s = none := by
  have hfirst : ∀ {t : List Char}, (∀ c ∈ t, isDropped c = false) → t.dropWhile isDropped = t := by
    intro t ht
    cases t with
    | nil => rfl
    | cons c r => rw [List.dropWhile_cons, ht c List.mem_cons_self, if_neg Bool.false_ne_true]
  unfold cutDrive?
  rw [hfirst h]
  cases s with
  | nil => rfl
  | cons letter r =>
    have hr : ∀ c ∈ r, isDropped c = false := fun c hc => h c (List.mem_cons_of_mem _ hc)
    dsimp only
    rw [hfirst hr]
    split
    · rename_i c rest
      rw [hr c (by simp), Bool.and_false, Bool.false_and, if_neg Bool.false_ne_true]
    · rfl

/-! ## Segments -/

theorem rawSegments_append (special : Bool) (a b : List Char) :
    rawSegments special (a ++ '/' :: b) = rawSegments special a ++ rawSegments special b := by
  cases special with
  | false => exact split_append_sep '/' a b
  | true =>
    show split '/' ((a ++ '/' :: b).map _) = _
    rw [List.map_append, List.map_cons, if_neg (by decide)]
    exact split_append_sep '/' _ _

theorem rawSegments_nil (special : Bool) : rawSegments special [] = [[]] := by
  cases special <;> rfl

theorem rawSegments_ne_nil (special : Bool) (t : List Char) : rawSegments special t ≠ [] :=
  split_ne_nil '/' _

/-- **Slashes cut first**: joined pieces have the segments of each of them. -/
theorem rawSegments_intercalate (special : Bool) {pieces : List (List Char)}
    (hne : pieces ≠ []) :
    rawSegments special (['/'].intercalate pieces) =
      pieces.flatMap (rawSegments special) := by
  induction pieces with
  | nil => exact absurd rfl hne
  | cons p rest ih =>
    cases rest with
    | nil => simp [List.intercalate]
    | cons q rest =>
      rw [List.intercalate_cons_cons, List.append_assoc, List.singleton_append,
        rawSegments_append, ih (List.cons_ne_nil q rest), ← List.flatMap_cons]

theorem rawSegments_eq_flatMap (special : Bool) (t : List Char) :
    rawSegments special t = (split '/' t).flatMap (rawSegments special) := by
  rw [← rawSegments_intercalate special (split_ne_nil '/' t), intercalate_split]

/-- Joining pieces of a text, and empty ones, makes no new segment. -/
theorem mem_rawSegments_of_mem_intercalate {special : Bool} {t s : List Char}
    {pieces : List (List Char)} (hpieces : ∀ p ∈ pieces, p = [] ∨ p ∈ split '/' t)
    (hs : s ∈ rawSegments special (['/'].intercalate pieces)) :
    s = [] ∨ s ∈ rawSegments special t := by
  cases pieces with
  | nil =>
    rw [List.intercalate_nil, rawSegments_nil] at hs
    exact .inl (List.mem_singleton.mp hs)
  | cons q rest =>
    rw [rawSegments_intercalate _ (List.cons_ne_nil q rest)] at hs
    obtain ⟨p, hp, hs⟩ := List.mem_flatMap.mp hs
    rcases hpieces p hp with rfl | hp
    · rw [rawSegments_nil] at hs
      exact .inl (List.mem_singleton.mp hs)
    · rw [rawSegments_eq_flatMap]
      exact .inr (List.mem_flatMap.mpr ⟨p, hp, hs⟩)

/-- A first segment that no backslash cuts is the first one in the URL too. -/
theorem rawSegments_eq_cons {special : Bool} {t : List Char}
    (whole : special = true → '\\' ∉ before '/' t) :
    ∃ more, rawSegments special t = before '/' t :: more := by
  cases special with
  | false => exact split_eq_before_cons '/' t
  | true =>
    let slashed : Char → Char := fun c => if c = '\\' then '/' else c
    obtain ⟨rest, ht, hrest⟩ := exists_eq_before_append '/' t
    have hfirst : (before '/' t).map slashed = before '/' t := by
      have hkept : ∀ c ∈ before '/' t, slashed c = id c := by
        intro c hc
        exact if_neg fun (heq : c = '\\') => whole rfl (heq ▸ hc)
      rw [List.map_congr_left hkept, List.map_id]
    have hhead : ∀ c ∈ (rest.map slashed).head?, c = '/' := by
      intro c hc
      rw [List.head?_map] at hc
      obtain ⟨d, hd, rfl⟩ := Option.map_eq_some_iff.mp hc
      rw [hrest d hd]
      rfl
    have hbefore : before '/' (t.map slashed) = before '/' t := by
      have hmap : (before '/' t ++ rest).map slashed =
          (before '/' t).map slashed ++ rest.map slashed := List.map_append
      rw [← ht, hfirst] at hmap
      rw [hmap, before_append (not_mem_before '/' t) hhead]
    obtain ⟨more, hsplit⟩ := split_eq_before_cons '/' (t.map slashed)
    exact ⟨more, hsplit.trans (by rw [hbefore])⟩

/-! ## Dot segments -/

/-- **The base first**: what the segments of a base leave behind does not depend on what follows. -/
theorem resolve_append (file : Bool) (front : List (List Char)) (done : List (List Char)) :
    ∃ left, ∀ tail ≠ [], resolve file done (front ++ tail) = resolve file left tail := by
  induction front generalizing done with
  | nil => exact ⟨done, fun _ _ => rfl⟩
  | cons s rest ih =>
    cases hcut : (if file && done.isEmpty then cutDrive? s else none) with
    | some cut =>
      -- a drive that is kept apart leaves itself and the name after it behind
      obtain ⟨left, hleft⟩ := ih [Percent.encode Percent.pathSet cut.2, cut.1]
      refine ⟨left, fun tail htail => ?_⟩
      rw [List.cons_append, resolve, hcut]
      exact hleft tail htail
    | none =>
      obtain ⟨left, hleft⟩ := ih (if isDotDot (counted s) then goBack done
        else if isDot (counted s) then done else writeSegment file done (counted s) :: done)
      refine ⟨left, fun tail htail => ?_⟩
      -- only a dot segment at the very end leaves an empty name, and something follows here
      have hmore : (rest ++ tail).isEmpty = false := by simp [htail]
      rw [List.cons_append, resolve, hcut]
      dsimp only
      rw [hmore, Bool.false_and, if_neg Bool.false_ne_true]
      exact hleft tail htail

/-- **What stays**: where no segment goes back, the names that are there stay in front. -/
theorem resolve_forward (file : Bool) {done tail : List (List Char)} (hdone : done ≠ [])
    (forward : ∀ s ∈ tail, isDotDot (counted s) = false) :
    ∃ back, resolve file done tail = done.reverse ++ back ∧ (tail = [] → back = []) := by
  induction tail generalizing done with
  | nil => exact ⟨[], by simp [resolve], fun _ => rfl⟩
  | cons s rest ih =>
    have hnoCut : (if file && done.isEmpty then cutDrive? s else none) = none := by simp [hdone]
    have hs := forward s List.mem_cons_self
    have hrest := fun t ht => forward t (List.mem_cons_of_mem _ ht)
    rw [resolve, hnoCut]
    dsimp only
    rw [hs, Bool.false_or, if_neg Bool.false_ne_true]
    by_cases hdot : isDot (counted s) = true
    · -- a dot stands for nothing, or for an empty name at the end
      rw [if_pos hdot]
      split
      · exact ⟨[[]], by simp, by simp⟩
      · obtain ⟨back, hback, -⟩ := ih hdone hrest
        exact ⟨back, hback, by simp⟩
    · rw [if_neg hdot, if_neg (by simp [hdot])]
      obtain ⟨back, hback, -⟩ := ih (List.cons_ne_nil _ done) hrest
      exact ⟨writeSegment file done (counted s) :: back, by rw [hback]; simp, by simp⟩

/-! ## Segments that are written as they are spelled -/

/-- A segment that the path of a URL shows as it is spelled, wherever it stands. -/
structure Spelled (file : Bool) (s : List Char) : Prop where
  written : writeSegment file [] s = s
  notDot : isDot s = false

namespace Spelled

variable {file : Bool} {s : List Char}

/-- None of the characters is encoded. -/
theorem encode_eq (h : Spelled file s) : Percent.encode Percent.pathSet s = s := by
  have hwritten := h.written
  unfold writeSegment at hwritten
  split at hwritten
  · -- a drive at the front: its letter and the colon are never encoded
    rename_i hdrive
    rw [List.isEmpty_nil, Bool.and_true, Bool.and_eq_true] at hdrive
    obtain ⟨-, hdrive⟩ := hdrive
    unfold isDrive at hdrive
    split at hdrive
    · rename_i letter c
      obtain ⟨hletter, -⟩ := Bool.and_eq_true_iff.mp hdrive
      have hcolon : c = ':' := by simpa using hwritten.symm
      subst hcolon
      refine Percent.encode_eq_self_iff.mpr fun d hd => ?_
      rw [List.mem_cons, List.mem_singleton] at hd
      rcases hd with rfl | rfl
      · exact kept_of_isAlpha hletter
      · decide
    · exact absurd hdrive Bool.false_ne_true
  · exact hwritten

theorem isDropped_eq (h : Spelled file s) : ∀ c ∈ s, isDropped c = false := fun c hc =>
  isDropped_of_controls (controls_of_pathSet (Percent.encode_eq_self_iff.mp h.encode_eq c hc).1)

theorem writeSegment_eq (h : Spelled file s) (done : List (List Char)) :
    writeSegment file done s = s := by
  cases done with
  | nil => exact h.written
  | cons d rest =>
    unfold writeSegment
    rw [List.isEmpty_cons, Bool.and_false, Bool.false_and, if_neg Bool.false_ne_true]
    exact h.encode_eq

/-- Outside of paths with segments it is not encoded either. -/
theorem encode_controls_counted (h : Spelled file s) :
    Percent.encode Percent.controls (counted s) = s := by
  rw [counted_of_kept h.isDropped_eq]
  refine Percent.encode_eq_self_iff.mpr fun c hc => ?_
  obtain ⟨hkept, hascii⟩ := Percent.encode_eq_self_iff.mp h.encode_eq c hc
  exact ⟨controls_of_pathSet hkept, hascii⟩

/-- Such a segment is put after the ones that are there. -/
theorem resolve_cons (h : Spelled file s) (hup : isDotDot (counted s) = false)
    (done tail : List (List Char)) :
    resolve file done (s :: tail) = resolve file (s :: done) tail := by
  have hcounted : counted s = s := counted_of_kept h.isDropped_eq
  have hnoCut : (if file && done.isEmpty then cutDrive? s else none) = none := by
    rw [cutDrive?_of_kept h.isDropped_eq, ite_self]
  rw [hcounted] at hup
  rw [resolve, hnoCut]
  dsimp only
  rw [hcounted, hup, h.notDot, h.writeSegment_eq, Bool.or_self, Bool.and_false]
  rfl

end Spelled

/-! ## Headline -/

/-- Trimming takes nothing from a name on, unless the name is empty and something follows. -/
theorem trimSegments_append (scheme : List Char) (front : List (List Char)) {s : List Char}
    {back : List (List Char)} (hs : s = [] → back = []) :
    trimSegments scheme (front ++ s :: back) =
      (if isFile scheme then front.dropWhile (·.isEmpty) else front) ++ s :: back := by
  unfold trimSegments
  by_cases hfile : isFile scheme = true
  · rw [if_pos hfile, if_pos hfile, List.dropWhile_append]
    cases hfront : front.dropWhile (·.isEmpty) with
    | cons d rest => rfl
    | nil =>
      cases s with
      | nil => simp [hs rfl]
      | cons c r => rfl
  · rw [if_neg hfile, if_neg hfile]

/-- **Below a base**: the text `j` starts with a segment that a URL like `u` shows as it is spelled,
and that stays there. -/
structure StartsAsSpelled (u : Url) (j : List Char) : Prop where
  head : j.head? ≠ some '/'
  first : Spelled (isFile u.scheme) (before '/' j)
  whole : isSpecial u.scheme = true → '\\' ∉ before '/' j
  forward : ∀ s ∈ rawSegments (isSpecial u.scheme) j, isDotDot (counted s) = false

theorem isSpecial_of_isFile {scheme : List Char} (h : isFile scheme = true) :
    isSpecial scheme = true := by
  unfold isSpecial
  rw [h, Bool.or_true]

/-- The path with segments that a text after a slash denotes. -/
theorem segmentsOf_slash (scheme x : List Char) :
    segmentsOf scheme ('/' :: x) =
      resolve (isFile scheme) [] (rawSegments (isSpecial scheme) x) := by
  have hraw : rawSegments (isSpecial scheme) ('/' :: x) =
      [] :: rawSegments (isSpecial scheme) x := by
    have happend := rawSegments_append (isSpecial scheme) [] x
    rw [rawSegments_nil] at happend
    exact happend
  have hmore : (rawSegments (isSpecial scheme) x).isEmpty = false := by
    simpa using rawSegments_ne_nil _ x
  have hfirst : (counted ('/' :: x)).head? = some '/' := rfl
  unfold segmentsOf
  rw [hraw, hfirst]
  simp [hmore, counted]

theorem localSegments_slash (x : List Char) :
    localSegments ('/' :: x) = resolve true [] (rawSegments true x) := by
  have hraw : rawSegments true ('/' :: x) = [] :: rawSegments true x := rawSegments_append _ [] x
  unfold localSegments
  rw [hraw]
  rfl

theorem setPath_slash {u : Url} {names : List (List Char)} (hu : u.path = .segments names)
    (x : List Char) : (u.setPath ('/' :: x)).path = .segments (trimSegments u.scheme
      (resolve (isFile u.scheme) [] (rawSegments (isSpecial u.scheme) x))) := by
  unfold setPath
  rw [hu]
  dsimp only
  split
  · rename_i hlocal
    obtain ⟨hfile, -⟩ := Bool.and_eq_true_iff.mp hlocal
    rw [localSegments_slash, isSpecial_of_isFile hfile, hfile]
  · rw [segmentsOf_slash]

/-- Nothing but the end stands before a slash that is not at the front. -/
theorem StartsAsSpelled.eq_nil {u : Url} {j : List Char} (h : StartsAsSpelled u j)
    (hfirst : before '/' j = []) : j = [] := by
  cases j with
  | nil => rfl
  | cons c r =>
    by_cases hc : c = '/'
    · exact absurd (congrArg some hc) h.head
    · simp [before, hc] at hfirst

/-- What the segments are that are set below a base. -/
theorem exists_setPath_append {u : Url} {names : List (List Char)} (hu : u.path = .segments names)
    {b : List Char} (hb : b = [] ∨ b.head? = some '/') :
    ∃ front, ∀ j, (u.setPath (b ++ '/' :: j)).path = .segments (trimSegments u.scheme
      (resolve (isFile u.scheme) [] (front ++ rawSegments (isSpecial u.scheme) j))) := by
  rcases hb with rfl | hb
  · exact ⟨[], setPath_slash hu⟩
  · obtain ⟨x, rfl⟩ := List.head?_eq_some_iff.mp hb
    refine ⟨rawSegments (isSpecial u.scheme) x, fun j => ?_⟩
    rw [← rawSegments_append]
    exact setPath_slash hu (x ++ '/' :: j)

theorem pathText_setPath_segments {u : Url} {names : List (List Char)}
    (hu : u.path = .segments names) {b : List Char} (hb : b = [] ∨ b.head? = some '/') :
    ∃ front, ∀ j, StartsAsSpelled u j → ∃ back, (∀ c ∈ back.head?, c = '/') ∧
      pathText (u.setPath (b ++ '/' :: j)).path = front ++ before '/' j ++ back := by
  obtain ⟨base, hbase⟩ := exists_setPath_append hu hb
  obtain ⟨left, hleft⟩ := resolve_append (isFile u.scheme) base []
  let kept := if isFile u.scheme then left.reverse.dropWhile (·.isEmpty) else left.reverse
  refine ⟨kept.flatMap ('/' :: ·) ++ ['/'], fun j hj => ?_⟩
  obtain ⟨more, hraw⟩ := rawSegments_eq_cons hj.whole
  have hup : isDotDot (counted (before '/' j)) = false :=
    hj.forward _ (hraw ▸ List.mem_cons_self)
  -- the segment is put after what the base has left, and nothing goes back over it
  obtain ⟨back, hback, hlast⟩ := resolve_forward (isFile u.scheme)
    (List.cons_ne_nil (before '/' j) left)
    fun s (hs : s ∈ more) => hj.forward s (hraw ▸ List.mem_cons_of_mem _ hs)
  have hnothing : before '/' j = [] → back = [] := by
    intro hfirst
    rw [hj.eq_nil hfirst, rawSegments_nil] at hraw
    exact hlast (List.cons.inj hraw).2.symm
  have hnames : resolve (isFile u.scheme) [] (base ++ rawSegments (isSpecial u.scheme) j) =
      left.reverse ++ before '/' j :: back := by
    rw [hleft _ (rawSegments_ne_nil _ _), hraw, hj.first.resolve_cons hup, hback,
      List.reverse_cons, List.append_assoc, List.singleton_append]
  refine ⟨back.flatMap ('/' :: ·), ?_, ?_⟩
  · cases back <;> simp
  · rw [hbase, hnames, trimSegments_append u.scheme _ hnothing]
    show (kept ++ before '/' j :: back).flatMap ('/' :: ·) = _
    simp

theorem encode_controls_slash {c : Char} {t : List Char} (h : ∀ d ∈ t.head?, d = '/')
    (hc : c ∈ (Percent.encode Percent.controls (counted t)).head?) : c = '/' := by
  cases t with
  | nil => cases hc
  | cons d r =>
    obtain rfl := h d rfl
    exact (Option.some.inj hc).symm

theorem pathText_setPath_rootless {u : Url} {text : List Char} (hu : u.path = .rootless text)
    (b : List Char) :
    ∃ front, ∀ j, StartsAsSpelled u j → ∃ back, (∀ c ∈ back.head?, c = '/') ∧
      pathText (u.setPath (b ++ '/' :: j)).path = front ++ before '/' j ++ back := by
  let encoded : List Char → List Char := fun t => Percent.encode Percent.controls (counted t)
  have hencoded : ∀ s t, encoded (s ++ t) = encoded s ++ encoded t := fun s t => by
    show Percent.encode Percent.controls (counted (s ++ t)) = _
    rw [counted_append, Percent.encode_append]
  -- only a slash in front of everything is escaped, and it stands in front of `j` or belongs to `b`
  obtain ⟨base, hbase⟩ : ∃ base, ∀ j, pathText (u.setPath (b ++ '/' :: j)).path =
      encoded (base ++ j) := by
    unfold setPath
    rw [hu]
    cases b with
    | nil => exact ⟨"%2F".toList, fun j => rfl⟩
    | cons c r =>
      by_cases hc : c = '/'
      · subst hc
        refine ⟨"%2F".toList ++ r ++ ['/'], fun j => ?_⟩
        simp [encoded, pathText]
      · refine ⟨c :: r ++ ['/'], fun j => ?_⟩
        simp [encoded, pathText, hc]
  refine ⟨encoded base, fun j hj => ?_⟩
  obtain ⟨rest, hj', hrest⟩ := exists_eq_before_append '/' j
  refine ⟨encoded rest, fun c hc => encode_controls_slash hrest hc, ?_⟩
  have hfirst : encoded (before '/' j) = before '/' j := hj.first.encode_controls_counted
  have hsplit : encoded j = encoded (before '/' j) ++ encoded rest := by
    rw [← hencoded, ← hj']
  rw [hbase, hencoded, hsplit, hfirst, List.append_assoc]

/-- **Headline.**  What is put below one base starts after one front, in every URL: the first
segment stands there as it is spelled, and a slash or the end comes after it. -/
theorem pathText_setPath_below (u : Url) {b : List Char}
    (hb : ∀ names, u.path = .segments names → b = [] ∨ b.head? = some '/') :
    ∃ front, ∀ j, StartsAsSpelled u j → ∃ back, (∀ c ∈ back.head?, c = '/') ∧
      pathText (u.setPath (b ++ '/' :: j)).path = front ++ before '/' j ++ back := by
  cases hu : u.path with
  | segments names => exact pathText_setPath_segments hu (hb names hu)
  | rootless text => exact pathText_setPath_rootless hu b

/-- Texts below one base that a URL shows in one way start with one segment. -/
theorem before_eq_of_pathText_eq {u : Url} {b j j' : List Char}
    (hb : ∀ names, u.path = .segments names → b = [] ∨ b.head? = some '/')
    (hj : StartsAsSpelled u j) (hj' : StartsAsSpelled u j')
    (h : pathText (u.setPath (b ++ '/' :: j)).path = pathText (u.setPath (b ++ '/' :: j')).path) :
    before '/' j = before '/' j' := by
  obtain ⟨front, hfront⟩ := pathText_setPath_below u hb
  obtain ⟨back, hback, htext⟩ := hfront j hj
  obtain ⟨back', hback', htext'⟩ := hfront j' hj'
  rw [htext, htext', List.append_assoc, List.append_assoc] at h
  have hrest := List.append_cancel_left h
  rw [← before_append (not_mem_before '/' j) hback, hrest,
    before_append (not_mem_before '/' j') hback']

end Turnstile.Url
