import Mathlib.Data.List.Basic
import Turnstile.Proofs.Settings.Check
import Turnstile.Proofs.Text.Bytes
import Turnstile.Proofs.Url.Walk
import Turnstile.Url.Parse
/-!
  How the names in the path of a URL are written.

  1. **Encoding** (`mem_encode`) — what is written for a text are characters of it that need not be
     encoded, and the signs that stand for bytes, which need not be encoded either.

  2. **Dots** (`isDotSegment_encode`) — no segment becomes a dot segment by being encoded.  In every
     spelling of one, a percent sign stands before the number of the dot, and the dot itself is
     never encoded.

  3. **Names** (`Written`) — a name in a path is written as it stays: it is not encoded again, is
     not cut by a slash of either kind, and is no dot segment.

  4. **Headline** (`written_of_parse`) — all names in the path of a URL that is read are such, if it
     is spoken to over HTTP.
-/

namespace Turnstile

open Text

namespace Text.Percent

/-! ## Encoding -/

/-- The signs that stand for bytes. -/
def signs : List Char := "%0123456789ABCDEF".toList

theorem hexDigit_mem_signs : ∀ n < 16, hexDigit n ∈ signs := by decide

/-- Signs need not be encoded, and are no slashes. -/
theorem kept_of_mem_signs {c : Char} (h : c ∈ signs) :
    (pathSet c = false ∧ c.toNat < 0x80) ∧ c ≠ '/' ∧ c ≠ '\\' := by
  have hall : signs.all (fun c =>
      decide ((pathSet c = false ∧ c.toNat < 0x80) ∧ c ≠ '/' ∧ c ≠ '\\')) = true := by decide
  exact of_decide_eq_true (List.all_eq_true.mp hall c h)

theorem mem_signs_of_mem_encodeByte {b : UInt8} {c : Char} (h : c ∈ encodeByte b) : c ∈ signs := by
  have hb : b.toNat < 256 := b.toNat_lt
  simp only [encodeByte, List.mem_cons, List.not_mem_nil, or_false] at h
  rcases h with rfl | rfl | rfl
  · decide
  · exact hexDigit_mem_signs _ (by omega)
  · exact hexDigit_mem_signs _ (by omega)

/-- What is written for a text is a sign, or was in the text and is kept. -/
theorem mem_encode {set : Char → Bool} {t : List Char} {c : Char} (h : c ∈ encode set t) :
    c ∈ signs ∨ c ∈ t ∧ set c = false ∧ c.toNat < 0x80 := by
  obtain ⟨d, hd, hc⟩ := List.mem_flatMap.mp h
  by_cases hkept : set d = false ∧ d.toNat < 0x80
  · rw [encodeChar_of_kept hkept, List.mem_singleton] at hc
    rw [hc]
    exact .inr ⟨hd, hkept⟩
  · unfold encodeChar at hc
    split at hc
    · obtain ⟨b, -, hb⟩ := List.mem_flatMap.mp hc
      exact .inl (mem_signs_of_mem_encodeByte hb)
    · rename_i hset
      simp only [Bool.or_eq_true, decide_eq_true_eq, not_or, Bool.not_eq_true, Nat.not_le] at hset
      exact absurd hset hkept

/-- Where a text is not encoded as itself, a byte is written of a character that is not kept. -/
theorem exists_encodeByte {set : Char → Bool} {t : List Char} (h : encode set t ≠ t) :
    ∃ x b y c, encode set t = x ++ encodeByte b ++ y ∧ b ∈ String.utf8EncodeChar c ∧
      ¬ (set c = false ∧ c.toNat < 0x80) := by
  rw [Ne, encode_eq_self_iff] at h
  simp only [not_forall] at h
  obtain ⟨c, hc, hkept⟩ := h
  obtain ⟨front, back, rfl⟩ := List.append_of_mem hc
  obtain ⟨b, bytes, hb⟩ := List.exists_cons_of_ne_nil (String.utf8EncodeChar_ne_nil (c := c))
  have hset : (set c || decide (0x80 ≤ c.toNat)) = true := by
    cases hc : set c with
    | true => rfl
    | false => simpa [hc] using hkept
  have hchar : encodeChar set c = encodeByte b ++ bytes.flatMap encodeByte := by
    unfold encodeChar
    rw [if_pos hset, hb, List.flatMap_cons]
  refine ⟨encode set front, b, bytes.flatMap encodeByte ++ encode set back, c, ?_, ?_, hkept⟩
  · rw [encode_append, encode_cons, hchar]
    simp
  · rw [hb]
    exact List.mem_cons_self

end Text.Percent

namespace Url

/-! ## Dots -/

/-- The spellings of dot segments, in lower case. -/
def dotSpellings : List (List Char) :=
  [".", "%2e", "..", ".%2e", "%2e.", "%2e%2e"].map (·.toList)

theorem isDotSegment_iff {s : List Char} : isDotSegment s = true ↔ lower s ∈ dotSpellings := by
  simp [isDotSegment, isDot, isDotDot, dotSpellings, or_assoc]

/-- In a spelling of a dot segment, only the number of the dot stands after a percent sign. -/
theorem lower_take_of_isDotSegment {x y : List Char} (h : isDotSegment (x ++ '%' :: y) = true) :
    lower (y.take 2) = ['2', 'e'] := by
  have hall : ∀ t ∈ dotSpellings, ∀ n < t.length, t[n]? = some '%' →
      (t.drop (n + 1)).take 2 = ['2', 'e'] := by decide
  rw [isDotSegment_iff] at h
  have hlower : lower (x ++ '%' :: y) = lower x ++ '%' :: lower y := by
    unfold lower
    rw [List.map_append, List.map_cons]
    rfl
  rw [hlower] at h
  have hrest : (lower x ++ '%' :: lower y).drop ((lower x).length + 1) = lower y := by
    rw [List.append_cons]
    exact List.drop_left' (by simp)
  have hsign := hall _ h (lower x).length (by simp) (by simp)
  rw [hrest] at hsign
  rw [← hsign]
  exact List.map_take

/-- A byte whose number is that of the dot is the dot. -/
theorem toNat_of_lower_hexDigit {b : UInt8}
    (h : lower [Percent.hexDigit (b.toNat / 16), Percent.hexDigit (b.toNat % 16)] = ['2', 'e']) :
    b.toNat = 0x2E := by
  have hhigh : ∀ n < 16, (Percent.hexDigit n).toLower = '2' → n = 2 := by decide
  have hlow : ∀ n < 16, (Percent.hexDigit n).toLower = 'e' → n = 14 := by decide
  have hb : b.toNat < 256 := b.toNat_lt
  simp only [lower, List.map_cons, List.map_nil, List.cons.injEq, and_true] at h
  have hdiv := hhigh _ (by omega) h.1
  have hmod := hlow _ (by omega) h.2
  omega

/-- **No dots from nothing**: what is no dot segment is not written as one. -/
theorem isDotSegment_encode {s : List Char} (h : isDotSegment s = false) :
    isDotSegment (Percent.encode Percent.pathSet s) = false := by
  by_contra hdot
  rw [Bool.not_eq_false] at hdot
  by_cases hsame : Percent.encode Percent.pathSet s = s
  · rw [hsame, h] at hdot
    cases hdot
  · obtain ⟨x, b, y, c, henc, hb, hkept⟩ := Percent.exists_encodeByte hsame
    rw [henc, List.append_assoc] at hdot
    have hdotByte : b.toNat = 0x2E := toNat_of_lower_hexDigit (lower_take_of_isDotSegment hdot)
    have hc : c = Char.ofUInt8 b := eq_of_mem_utf8EncodeChar (by omega) hb
    have hbyte : b = 0x2E := UInt8.toNat_inj.mp hdotByte
    rw [hc, hbyte] at hkept
    exact hkept (by decide)

/-! ## Names -/

/-- **Plain**: no slash of either kind. -/
def Plain (s : List Char) : Prop := '/' ∉ s ∧ '\\' ∉ s

/-- **Written**: a name that stays as it is, wherever it stands in a path. -/
structure Written (s : List Char) : Prop where
  kept : ∀ c ∈ s, Percent.pathSet c = false ∧ c.toNat < 0x80
  plain : Plain s
  notDot : isDotSegment s = false

theorem Written.nil : Written [] := ⟨by simp, by simp [Plain], by decide⟩

theorem Written.counted_eq {s : List Char} (h : Written s) : counted s = s :=
  counted_of_kept fun c hc => isDropped_of_controls (controls_of_pathSet (h.kept c hc).1)

theorem Written.shown_eq {s : List Char} (h : Written s) : shown s = s := by
  unfold shown
  rw [h.counted_eq]
  exact Percent.encode_eq_self_iff.mpr h.kept

theorem plain_shown {s : List Char} (h : Plain s) : Plain (shown s) := by
  have hmem : ∀ c ∈ shown s, c ∈ Percent.signs ∨ c ∈ s := by
    intro c hc
    rcases Percent.mem_encode hc with hsign | ⟨hc, -⟩
    · exact .inl hsign
    · exact .inr (List.mem_of_mem_filter hc)
  constructor
  · intro hc
    rcases hmem _ hc with hsign | hc
    · exact (Percent.kept_of_mem_signs hsign).2.1 rfl
    · exact h.1 hc
  · intro hc
    rcases hmem _ hc with hsign | hc
    · exact (Percent.kept_of_mem_signs hsign).2.2 rfl
    · exact h.2 hc

/-- A segment that is no dot segment is shown as it stays. -/
theorem written_shown {s : List Char} (hs : Plain s) (hdot : isDotSegment (counted s) = false) :
    Written (shown s) := by
  refine ⟨fun c hc => ?_, plain_shown hs, isDotSegment_encode hdot⟩
  rcases Percent.mem_encode hc with hsign | ⟨-, hkept⟩
  · exact (Percent.kept_of_mem_signs hsign).1
  · exact hkept

theorem written_goBack {done : List (List Char)} (h : ∀ n ∈ done, Written n) :
    ∀ n ∈ goBack done, Written n := by
  cases done with
  | nil => exact h
  | cons name more =>
    rw [goBack_cons]
    split
    · exact h
    · exact fun n hn => h n (List.mem_cons_of_mem _ hn)

theorem written_walk {done : List (List Char)} {s : List Char} (hdone : ∀ n ∈ done, Written n)
    (hs : Plain s) : ∀ n ∈ walk done s, Written n := by
  unfold walk
  split
  · exact written_goBack hdone
  · rename_i hdotDot
    split
    · exact hdone
    · rename_i hdot
      have hname : isDotSegment (counted s) = false := by
        unfold isDotSegment
        rw [Bool.not_eq_true] at hdot hdotDot
        rw [hdot, hdotDot, Bool.or_false]
      intro n hn
      rcases List.mem_cons.mp hn with rfl | hn
      · exact written_shown hs hname
      · exact hdone n hn

/-- A path that is walked gives such names only, and where it ends with a dot segment an empty
one. -/
theorem written_resolve {path : List (List Char)} (hpath : ∀ s ∈ path, Plain s)
    {done : List (List Char)} (hdone : ∀ n ∈ done, Written n) :
    ∀ n ∈ resolve false done path, Written n := by
  induction path generalizing done with
  | nil => exact fun n hn => hdone n (List.mem_reverse.mp hn)
  | cons s rest ih =>
    have hwalk := written_walk hdone (hpath s List.mem_cons_self)
    rw [resolve_cons]
    split
    · intro n hn
      rcases List.mem_cons.mp (List.mem_reverse.mp hn) with rfl | hn
      · exact Written.nil
      · exact hwalk n hn
    · exact ih (fun t ht => hpath t (List.mem_cons_of_mem _ ht)) hwalk

/-! ## Segments -/

/-- Slashes of either kind cut. -/
theorem plain_of_mem_rawSegments {t s : List Char} (h : s ∈ rawSegments true t) : Plain s := by
  refine ⟨not_mem_of_mem_split h, fun hc => ?_⟩
  obtain ⟨d, -, hd⟩ := List.mem_map.mp (mem_of_mem_split h hc)
  split at hd
  · cases hd
  · rename_i hother
    exact hother hd

theorem rawSegments_of_not_mem {t : List Char} (h : '\\' ∉ t) :
    rawSegments true t = split '/' t := by
  have hkept : ∀ c ∈ t, (if c = '\\' then '/' else c) = id c := by
    intro c hc
    exact if_neg fun (heq : c = '\\') => h (heq ▸ hc)
  show split '/' (t.map _) = _
  rw [List.map_congr_left hkept, List.map_id]

theorem rawSegments_of_plain {s : List Char} (h : Plain s) : rawSegments true s = [s] := by
  rw [rawSegments_of_not_mem h.2, split_of_not_mem h.1]

/-- The segments of a path after its first slash. -/
def cuts (t : List Char) : List (List Char) := (rawSegments true t).tail

theorem cuts_slash (t : List Char) : cuts ('/' :: t) = rawSegments true t := by
  have hraw : rawSegments true ('/' :: t) = [] :: rawSegments true t := rawSegments_append _ [] t
  unfold cuts
  rw [hraw, List.tail_cons]

theorem cuts_append (a b : List Char) : cuts (a ++ '/' :: b) = cuts a ++ cuts ('/' :: b) := by
  rw [cuts_slash]
  unfold cuts
  rw [rawSegments_append, List.tail_append_of_ne_nil (rawSegments_ne_nil _ _)]

theorem plain_of_mem_cuts {t s : List Char} (h : s ∈ cuts t) : Plain s :=
  plain_of_mem_rawSegments (List.mem_of_mem_tail h)

/-- The names of a path come back from its text. -/
theorem cuts_pathText {names : List (List Char)} (h : ∀ n ∈ names, Plain n) :
    cuts (pathText (.segments names)) = names := by
  induction names with
  | nil => rfl
  | cons s rest ih =>
    have hs : cuts ('/' :: s) = [s] := by
      rw [cuts_slash, rawSegments_of_plain (h s List.mem_cons_self)]
    have hrest := ih fun n hn => h n (List.mem_cons_of_mem _ hn)
    cases rest with
    | nil =>
      show cuts ('/' :: (s ++ [])) = _
      rw [List.append_nil, hs]
    | cons t more =>
      show cuts (('/' :: s) ++ '/' :: (t ++ pathText (.segments more))) = _
      rw [cuts_append, hs]
      exact congrArg (s :: ·) hrest

/-! ## Headline -/

/-- The path of a URL of the web, unless it is that of a local file. -/
theorem written_segmentsOf {scheme : List Char} (hspecial : isSpecial scheme = true)
    (hfile : isFile scheme = false) (t : List Char) : ∀ n ∈ segmentsOf scheme t, Written n := by
  have hplain : ∀ s ∈ rawSegments true t, Plain s := fun s => plain_of_mem_rawSegments
  unfold segmentsOf
  rw [hspecial, hfile]
  cases hraw : rawSegments true t with
  | nil => simp
  | cons s rest =>
    rw [hraw] at hplain
    dsimp only
    rw [Bool.not_true, Bool.false_and, if_neg Bool.false_ne_true]
    split
    · exact written_resolve hplain (by simp)
    · split
      · intro n hn
        rw [List.mem_singleton.mp hn]
        exact Written.nil
      · exact written_resolve (fun t ht => hplain t (List.mem_cons_of_mem _ ht)) (by simp)

theorem withAuthority_cases {scheme t : List Char} {u : Url} (h : withAuthority scheme t = .ok u) :
    u.scheme = scheme ∧ ∃ text, u.path = .segments (segmentsOf scheme text) := by
  unfold withAuthority at h
  obtain ⟨⟨username, password, rest⟩, -, h⟩ := bind_eq_ok_iff.mp h
  obtain ⟨⟨host, port, spill⟩, -, h⟩ := bind_eq_ok_iff.mp h
  dsimp only at h
  split at h
  · cases h
  · injection h with h
    rw [← h]
    exact ⟨rfl, _, rfl⟩

theorem localFile_cases {scheme t : List Char} {u : Url} (h : localFile scheme t = .ok u) :
    u.scheme = scheme := by
  unfold localFile at h
  obtain ⟨⟨host, text⟩, -, h⟩ := bind_eq_ok_iff.mp h
  injection h with h
  rw [← h]

theorem isHttp_cases {scheme : List Char} (h : isHttp scheme = true) :
    isSpecial scheme = true ∧ isFile scheme = false := by
  rcases of_decide_eq_true h with rfl | rfl
  · decide
  · decide

/-- **Headline.**  A URL that is spoken to over HTTP has a path of names that stay as they are. -/
theorem written_of_parse {s : String} {u : Url} (h : parse s = .ok u)
    (hhttp : isHttp u.scheme = true) :
    ∃ names, u.path = .segments names ∧ ∀ n ∈ names, Written n := by
  obtain ⟨hspecial, hfile⟩ := isHttp_cases hhttp
  -- of the four kinds of URL that are read, only one is of such a scheme
  unfold parse at h
  split at h
  · cases h
  · rename_i scheme t hsplit
    split at h
    · rename_i hlocal
      rw [localFile_cases h, hlocal] at hfile
      cases hfile
    · split at h
      · obtain ⟨hscheme, text, hpath⟩ := withAuthority_cases h
        rw [hscheme] at hspecial hfile
        exact ⟨_, hpath, written_segmentsOf hspecial hfile text⟩
      · rename_i hother
        split at h
        · rw [(withAuthority_cases h).1] at hspecial
          exact absurd hspecial hother
        · injection h with h
          rw [← h] at hspecial
          exact absurd hspecial hother

end Url

end Turnstile
