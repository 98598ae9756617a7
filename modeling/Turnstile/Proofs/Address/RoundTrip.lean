import Turnstile.Address.Ip
import Mathlib.Data.List.Basic
/-!
  The text of an address denotes the address.

  1. **Numbers** — octets and groups are written by `Nat.toDigits` and read digit by digit; a group
     has at most four digits, and no digit is a dot or a colon.

  2. **IPv4** (`dotted?_dottedText`) — four octets between dots.

  3. **The gap** — `longestZeroRun` cuts the groups into a front, zeros and a back
     (`longestZeroRun_spec`), and the text of the front holds no `::`, so the first `::` of a text
     is its gap (`cutGap_gap`).  As there are eight groups, the reader knows how many zeros to put
     in.

  4. **Headline** (`read?_text`) — reading the canonical text of an address gives the address, so
     different addresses have different texts (`text_injective`).

  5. **Characters** (`not_mem_text`) — a text is made of digits, dots and colons, all of them ASCII.
-/

namespace Turnstile.IpAddr

open Text

/-! ## Numbers -/

theorem octet?_toDigits : ∀ n < 256, octet? (Nat.toDigits 10 n) = some n := by decide +kernel

theorem hexValue?_digitChar : ∀ d < 16, hexValue? (Nat.digitChar d) = some d := by decide

/-- By induction on the digits, the last of which is read last. -/
theorem hexNumber?_toDigits (n : Nat) : hexNumber? (Nat.toDigits 16 n) = some n := by
  induction n using Nat.strongRecOn with
  | ind n ih =>
    rcases Nat.lt_or_ge n 16 with hn | hn
    · rw [Nat.toDigits_of_lt_base hn]
      simp [hexNumber?, hexValue?_digitChar n hn]
    · have hfront : hexNumber? (Nat.toDigits 16 (n / 16)) = some (n / 16) := ih _ (by omega)
      have hlast := hexValue?_digitChar (n % 16) (Nat.mod_lt _ (by omega))
      unfold hexNumber? at hfront ⊢
      rw [Nat.toDigits_of_base_le (by omega) hn, List.foldlM_append, hfront]
      simp only [Option.bind_eq_bind, Option.bind_some, List.foldlM_cons, List.foldlM_nil, hlast,
        Option.map_some, Option.pure_def, Option.some.injEq]
      omega

theorem group?_toDigits {g : Nat} (hg : g < 65536) : group? (Nat.toDigits 16 g) = some g := by
  have hpos : 0 < (Nat.toDigits 16 g).length := Nat.length_toDigits_pos
  have hle : (Nat.toDigits 16 g).length ≤ 4 :=
    (Nat.length_toDigits_le_iff (by omega) (by omega)).mpr hg
  unfold group?
  rw [if_neg (by omega), hexNumber?_toDigits]

/-- The digits of a number are digits, so what is no digit is not among them. -/
theorem not_mem_toDigits {b : Nat} (hb : 1 < b) {c : Char} (hc : ∀ d, Nat.digitChar d ≠ c)
    (n : Nat) :
    c ∉ Nat.toDigits b n := by
  induction n using Nat.strongRecOn with
  | ind n ih =>
    rcases Nat.lt_or_ge n b with hn | hn
    · rw [Nat.toDigits_of_lt_base hn]
      simpa using (hc n).symm
    · have hfront := ih (n / b) (Nat.div_lt_self (by omega) hb)
      rw [Nat.toDigits_of_base_le hb hn]
      simpa using ⟨hfront, (hc (n % b)).symm⟩

theorem digitChar_ne_dot (d : Nat) : Nat.digitChar d ≠ '.' := Nat.digitChar_ne _ (by decide)

theorem digitChar_ne_colon (d : Nat) : Nat.digitChar d ≠ ':' := Nat.digitChar_ne _ (by decide)

/-! ## IPv4 -/

theorem split_dottedText (bits : BitVec 32) :
    split '.' (dottedText bits) =
      [24, 16, 8, 0].map fun i => Nat.toDigits 10 ((bits.toNat >>> i) % 256) := by
  refine split_intercalate (by simp) fun p hp => ?_
  obtain ⟨i, -, rfl⟩ := List.mem_map.mp hp
  exact not_mem_toDigits (by omega) digitChar_ne_dot _

/-- Reading the text of an IPv4 address gives its bits. -/
theorem dotted?_dottedText (bits : BitVec 32) : dotted? (dottedText bits) = some bits := by
  have hoctet (i : Nat) : octet? (Nat.toDigits 10 ((bits.toNat >>> i) % 256)) =
      some ((bits.toNat >>> i) % 256) := octet?_toDigits _ (Nat.mod_lt _ (by omega))
  have hsum : ((((bits.toNat >>> 24) % 256 * 256 + (bits.toNat >>> 16) % 256) * 256 +
      (bits.toNat >>> 8) % 256) * 256 + (bits.toNat >>> 0) % 256) = bits.toNat := by
    have hlt := bits.isLt
    simp only [Nat.shiftRight_eq_div_pow]
    omega
  unfold dotted?
  rw [split_dottedText]
  simp only [List.map_cons, List.map_nil, List.mapM_cons, List.mapM_nil, hoctet,
    Option.bind_eq_bind, Option.bind_some, Option.pure_def, hsum, BitVec.ofNat_toNat, BitVec.setWidth_eq]

/-- A text whose first piece is no octet is no IPv4 text. -/
theorem dotted?_of_first {t : List Char} (h : octet? (before '.' t) = none) : dotted? t = none := by
  obtain ⟨more, hsplit⟩ := split_eq_before_cons '.' t
  unfold dotted?
  rw [hsplit]
  simp [h]

theorem octet?_of_long {t : List Char} (h : 3 < t.length) : octet? t = none := by
  unfold octet?
  split
  · rfl
  · rfl
  · rw [if_neg (by omega)]

/-- A text without dots is no IPv4 text. -/
theorem dotted?_of_not_mem {t : List Char} (h : '.' ∉ t) : dotted? t = none := by
  unfold dotted?
  rw [split_of_not_mem h]
  cases hoctet : octet? t <;> simp [hoctet]

/-- An IPv4 text holds nothing but digits and dots. -/
theorem not_mem_dottedText {c : Char} (hc : ∀ d, Nat.digitChar d ≠ c) (hdot : c ≠ '.')
    (bits : BitVec 32) : c ∉ dottedText bits := by
  intro h
  unfold dottedText List.intercalate at h
  simp only [List.map_cons, List.map_nil, List.intersperse, List.flatten_cons, List.flatten_nil,
    List.mem_append, List.not_mem_nil, List.mem_singleton, hdot, or_false,
    not_mem_toDigits (by omega : 1 < 10) hc] at h

theorem colon_not_mem_dottedText (bits : BitVec 32) : ':' ∉ dottedText bits :=
  not_mem_dottedText digitChar_ne_colon (by decide) bits

/-! ## Groups -/

/-- **Groups**: numbers that fit 16 bits. -/
def AreGroups (gs : List Nat) : Prop := ∀ g ∈ gs, g < 65536

theorem groupsText_cons (g : Nat) {gs : List Nat} (hgs : gs ≠ []) :
    groupsText (g :: gs) = Nat.toDigits 16 g ++ ':' :: groupsText gs := by
  obtain ⟨h, rest, rfl⟩ := List.exists_cons_of_ne_nil hgs
  simp [groupsText, List.intercalate_cons_cons]

theorem groupsText_singleton (g : Nat) : groupsText [g] = Nat.toDigits 16 g := by
  simp [groupsText, List.intercalate]

theorem groupsText_eq_nil_iff (gs : List Nat) : groupsText gs = [] ↔ gs = [] := by
  cases gs with
  | nil => simp [groupsText, List.intercalate]
  | cons g rest =>
    by_cases hrest : rest = []
    · simp [hrest, groupsText_singleton, Nat.toDigits_ne_nil]
    · simp [groupsText_cons g hrest]

/-- A text of groups holds nothing but digits and colons. -/
theorem not_mem_groupsText {c : Char} (hc : ∀ d, Nat.digitChar d ≠ c) (hcolon : c ≠ ':')
    (gs : List Nat) : c ∉ groupsText gs := by
  induction gs with
  | nil => simp [groupsText, List.intercalate]
  | cons g rest ih =>
    have hg := not_mem_toDigits (by omega : 1 < 16) hc g
    by_cases hrest : rest = []
    · rw [hrest, groupsText_singleton]
      exact hg
    · rw [groupsText_cons g hrest]
      simpa using ⟨hg, hcolon, ih⟩

theorem pieces_groupsText (gs : List Nat) :
    pieces (groupsText gs) = gs.map (Nat.toDigits 16) := by
  unfold pieces
  by_cases hgs : gs = []
  · subst hgs
    simp [groupsText, List.intercalate]
  · have hne : (groupsText gs).isEmpty = false := by simp [groupsText_eq_nil_iff, hgs]
    rw [hne]
    refine split_intercalate (by simpa using hgs) fun p hp => ?_
    obtain ⟨g, -, rfl⟩ := List.mem_map.mp hp
    exact not_mem_toDigits (by omega) digitChar_ne_colon g

theorem groups?_map {gs : List Nat} (hgs : AreGroups gs) :
    groups? (gs.map (Nat.toDigits 16)) = some gs := by
  induction gs with
  | nil => rfl
  | cons g rest ih =>
    have hg := group?_toDigits (hgs g List.mem_cons_self)
    have hrest := ih fun x hx => hgs x (List.mem_cons_of_mem _ hx)
    unfold groups? at hrest ⊢
    simp [hg, hrest]

/-- No group is an IPv4 text, so the reader that allows one at the end reads the same. -/
theorem groupsMixed?_map {gs : List Nat} (hgs : AreGroups gs) :
    groupsMixed? (gs.map (Nat.toDigits 16)) = some gs := by
  induction gs with
  | nil => rfl
  | cons g rest ih =>
    have hg := group?_toDigits (hgs g List.mem_cons_self)
    have hrest := ih fun x hx => hgs x (List.mem_cons_of_mem _ hx)
    cases rest with
    | nil =>
      have hdot := dotted?_of_not_mem (not_mem_toDigits (by omega : 1 < 16) digitChar_ne_dot g)
      simp [groupsMixed?, hdot, hg]
    | cons h more =>
      rw [List.map_cons] at hrest ⊢
      simp [groupsMixed?, hg, hrest]

/-! ## The gap -/

theorem cutGap_append {a : List Char} (ha : ':' ∉ a) (b : List Char) :
    cutGap (a ++ b) = (cutGap b).map fun (x, y) => (a ++ x, y) := by
  induction a with
  | nil => cases h : cutGap b <;> simp [h]
  | cons c r ih =>
    rw [List.mem_cons, not_or] at ha
    rw [List.cons_append, cutGap, if_neg (fun h => ha.1 h.1.symm), ih ha.2]
    cases cutGap b <;> rfl

theorem cutGap_colon {b : List Char} (hb : b.head? ≠ some ':') :
    cutGap (':' :: b) = (cutGap b).map fun (x, y) => (':' :: x, y) := by
  rw [cutGap, if_neg fun h => hb h.2]

/-- A text of groups begins with a digit, also where something follows it. -/
theorem head?_groupsText_append {gs : List Nat} (hgs : gs ≠ []) (b : List Char) :
    (groupsText gs ++ b).head? ≠ some ':' := by
  obtain ⟨g, rest, rfl⟩ := List.exists_cons_of_ne_nil hgs
  obtain ⟨c, digits, hg⟩ := List.exists_cons_of_ne_nil (Nat.toDigits_ne_nil (n := g) (b := 16))
  have hc : ':' ≠ c := fun h =>
    not_mem_toDigits (by omega : 1 < 16) digitChar_ne_colon g (hg ▸ h ▸ List.mem_cons_self)
  by_cases hrest : rest = []
  · rw [hrest, groupsText_singleton, hg]
    simpa using hc.symm
  · rw [groupsText_cons g hrest, hg]
    simpa using hc.symm

/-- The groups hold no gap, so that of a text is where it is in what follows them. -/
theorem cutGap_groupsText_append (gs : List Nat) (b : List Char) :
    cutGap (groupsText gs ++ b) = (cutGap b).map fun (x, y) => (groupsText gs ++ x, y) := by
  induction gs with
  | nil => cases h : cutGap b <;> simp [groupsText, h]
  | cons g rest ih =>
    have hg := not_mem_toDigits (by omega : 1 < 16) digitChar_ne_colon g
    by_cases hrest : rest = []
    · rw [hrest, groupsText_singleton, cutGap_append hg]
    · have hhead := head?_groupsText_append hrest b
      rw [groupsText_cons g hrest, List.append_assoc, List.cons_append, cutGap_append hg,
        cutGap_colon hhead, ih]
      cases cutGap b <;> simp

theorem cutGap_groupsText (gs : List Nat) : cutGap (groupsText gs) = none := by
  have h := cutGap_groupsText_append gs []
  rw [List.append_nil] at h
  exact h

theorem cutGap_gap (gs : List Nat) (back : List Char) :
    cutGap (groupsText gs ++ [':', ':'] ++ back) = some (groupsText gs, back) := by
  rw [List.append_assoc, cutGap_groupsText_append]
  simp [cutGap]

/-- The groups before a run of zeros, the zeros and the groups after it. -/
theorem zeroRun_spec (gs : List Nat) :
    List.replicate (zeroRun gs) 0 ++ gs.drop (zeroRun gs) = gs := by
  induction gs with
  | nil => rfl
  | cons g rest ih =>
    by_cases hg : g = 0
    · subst hg
      simpa [zeroRun, List.replicate_succ] using ih
    · simp [zeroRun, hg]

/-- **The longest run is a run**: there are zeros, as many as its length, where it starts. -/
theorem longestZeroRun_spec (gs : List Nat) :
    gs.take (longestZeroRun gs).1 ++ (List.replicate (longestZeroRun gs).2 0 ++
      gs.drop ((longestZeroRun gs).1 + (longestZeroRun gs).2)) = gs := by
  induction gs with
  | nil => rfl
  | cons g rest ih =>
    rw [longestZeroRun]
    generalize longestZeroRun rest = run at ih ⊢
    obtain ⟨start, length⟩ := run
    dsimp only at ih ⊢
    split
    · simpa using zeroRun_spec (g :: rest)
    · simpa [Nat.add_right_comm] using ih

/-! ## IPv6 -/

/-- The text of an IPv6 address that stands for an IPv4 address. -/
abbrev mappedText (bits : BitVec 128) : List Char :=
  "::ffff:".toList ++ dottedText (BitVec.ofNat 32 bits.toNat)

theorem text_v6 (bits : BitVec 128) : (v6 bits).text =
    if bits.toNat >>> 32 = 0xFFFF then mappedText bits else colonText (toGroups bits) := rfl

theorem not_mem_colonText {c : Char} (hc : ∀ d, Nat.digitChar d ≠ c) (hcolon : c ≠ ':')
    (gs : List Nat) : c ∉ colonText gs := by
  have hgroups := not_mem_groupsText hc hcolon
  unfold colonText
  dsimp only
  split
  · simp [hgroups, hcolon]
  · exact hgroups gs

theorem dot_not_mem_colonText (gs : List Nat) : '.' ∉ colonText gs :=
  not_mem_colonText digitChar_ne_dot (by decide) gs

/-- Where there is a gap, zeros fill it up to eight groups. -/
theorem colons?_of_gap {t front back : List Char} {hs ts : List Nat}
    (hcut : cutGap t = some (front, back)) (hfront : groups? (pieces front) = some hs)
    (hback : groupsMixed? (pieces back) = some ts) (hroom : hs.length + ts.length ≤ 7) :
    colons? t = some (BitVec.ofNat 128
      (ofGroups (hs ++ List.replicate (8 - hs.length - ts.length) 0 ++ ts))) := by
  unfold colons?
  rw [hcut]
  simp only [hfront, hback, Option.bind_eq_bind, Option.bind_some]
  rw [if_pos hroom]
  rfl

theorem colons?_colonText {gs : List Nat} (hlen : gs.length = 8) (hgs : AreGroups gs) :
    colons? (colonText gs) = some (BitVec.ofNat 128 (ofGroups gs)) := by
  have hspec := longestZeroRun_spec gs
  unfold colonText
  generalize longestZeroRun gs = run at hspec ⊢
  obtain ⟨start, length⟩ := run
  dsimp only at hspec ⊢
  split
  · -- the reader counts the zeros that the writer left out
    rename_i hlong
    have hcount : (gs.take start).length + length + (gs.drop (start + length)).length = 8 := by
      have h := congrArg List.length hspec
      simp only [List.length_append, List.length_replicate] at h
      omega
    have hfront : groups? (pieces (groupsText (gs.take start))) = some (gs.take start) := by
      rw [pieces_groupsText]
      exact groups?_map fun g hg => hgs g (List.mem_of_mem_take hg)
    have hback : groupsMixed? (pieces (groupsText (gs.drop (start + length)))) =
        some (gs.drop (start + length)) := by
      rw [pieces_groupsText]
      exact groupsMixed?_map fun g hg => hgs g (List.mem_of_mem_drop hg)
    have hzeros : 8 - (gs.take start).length - (gs.drop (start + length)).length = length := by
      omega
    rw [colons?_of_gap (cutGap_gap _ _) hfront hback (by omega), hzeros, List.append_assoc, hspec]
  · have hne : gs ≠ [] := List.ne_nil_of_length_pos (by omega)
    have hsplit : split ':' (groupsText gs) = gs.map (Nat.toDigits 16) := by
      rw [← pieces_groupsText, pieces, if_neg (by simp [groupsText_eq_nil_iff, hne])]
    unfold colons?
    rw [cutGap_groupsText]
    simp only [hsplit, groupsMixed?_map hgs, Option.bind_eq_bind, Option.bind_some]
    rw [if_pos hlen]
    rfl

theorem toGroups_areGroups (bits : BitVec 128) : AreGroups (toGroups bits) := by
  intro g hg
  obtain ⟨i, -, rfl⟩ := List.mem_map.mp hg
  exact Nat.mod_lt _ (by omega)

/-- Eight groups make up the number that they were cut from: each takes up the one before it. -/
theorem ofGroups_toGroups (bits : BitVec 128) : ofGroups (toGroups bits) = bits.toNat := by
  have hstep (i : Nat) :
      (bits.toNat >>> (i + 16)) * 65536 + (bits.toNat >>> i) % 65536 = bits.toNat >>> i := by
    rw [Nat.shiftRight_add, Nat.shiftRight_eq_div_pow _ 16]
    omega
  have hfirst : (bits.toNat >>> 112) % 65536 = bits.toNat >>> 112 := by
    refine Nat.mod_eq_of_lt ?_
    rw [Nat.shiftRight_eq_div_pow]
    have hlt := bits.isLt
    omega
  have h96 := hstep 96
  have h80 := hstep 80
  have h64 := hstep 64
  have h48 := hstep 48
  have h32 := hstep 32
  have h16 := hstep 16
  have h0 := hstep 0
  simp only [ofGroups, toGroups, List.map_cons, List.map_nil, List.foldl_cons, List.foldl_nil,
    Nat.zero_mul, Nat.zero_add, hfirst]
  rw [h96, h80, h64, h48, h32, h16, h0]
  rfl

/-- The text that shows the IPv4 address in an IPv6 address denotes it. -/
theorem colons?_mapped {bits : BitVec 128} (h : bits.toNat >>> 32 = 0xFFFF) :
    colons? (mappedText bits) = some bits := by
  have hpieces : pieces ("ffff:".toList ++ dottedText (BitVec.ofNat 32 bits.toNat)) =
      ["ffff".toList, dottedText (BitVec.ofNat 32 bits.toNat)] := by
    have hsplit := split_append_sep ':' "ffff".toList (dottedText (BitVec.ofNat 32 bits.toNat))
    rw [split_of_not_mem (colon_not_mem_dottedText _)] at hsplit
    exact hsplit
  have hback : groupsMixed? (pieces ("ffff:".toList ++ dottedText (BitVec.ofNat 32 bits.toNat))) =
      some [0xFFFF, bits.toNat % 2 ^ 32 / 65536, bits.toNat % 2 ^ 32 % 65536] := by
    have hgroup : group? "ffff".toList = some 0xFFFF := by decide
    rw [hpieces]
    simp only [groupsMixed?, dotted?_dottedText, hgroup, BitVec.toNat_ofNat]
    rfl
  have hsum : ofGroups ([] ++ List.replicate 5 0 ++ [0xFFFF, bits.toNat % 2 ^ 32 / 65536,
      bits.toNat % 2 ^ 32 % 65536]) = bits.toNat := by
    rw [Nat.shiftRight_eq_div_pow] at h
    simp only [ofGroups, List.replicate, List.cons_append, List.nil_append, List.foldl_cons,
      List.foldl_nil]
    omega
  calc colons? (mappedText bits)
      = some (BitVec.ofNat 128 (ofGroups ([] ++ List.replicate 5 0 ++ [0xFFFF,
          bits.toNat % 2 ^ 32 / 65536, bits.toNat % 2 ^ 32 % 65536]))) :=
        colons?_of_gap rfl rfl hback (Nat.le_of_ble_eq_true rfl)
    _ = some bits := by rw [hsum, BitVec.ofNat_toNat, BitVec.setWidth_eq]

/-! ## Headline -/

/-- **Headline.**  Reading the canonical text of an address gives the address. -/
theorem read?_text (a : IpAddr) : read? a.text = some a := by
  cases a with
  | v4 bits =>
    unfold read? text
    rw [dotted?_dottedText]
  | v6 bits =>
    rw [text_v6]
    by_cases hmapped : bits.toNat >>> 32 = 0xFFFF
    · have hlong : octet? (before '.' (mappedText bits)) = none :=
        octet?_of_long (by simp [mappedText, before])
      rw [if_pos hmapped, read?, dotted?_of_first hlong, colons?_mapped hmapped]
      rfl
    · rw [if_neg hmapped, read?, dotted?_of_not_mem (dot_not_mem_colonText _),
        colons?_colonText rfl (toGroups_areGroups bits), ofGroups_toGroups, BitVec.ofNat_toNat,
        BitVec.setWidth_eq]
      rfl

/-- Different addresses have different texts. -/
theorem text_injective {a b : IpAddr} (h : a.text = b.text) : a = b := by
  have hread : some a = some b := by rw [← read?_text a, h, read?_text b]
  exact Option.some.inj hread

/-! ## Characters -/

/-- A text holds nothing but digits, dots and colons. -/
theorem not_mem_text {c : Char} (hc : ∀ d, Nat.digitChar d ≠ c) (hdot : c ≠ '.')
    (hcolon : c ≠ ':') (a : IpAddr) : c ∉ a.text := by
  cases a with
  | v4 bits => exact not_mem_dottedText hc hdot bits
  | v6 bits =>
    -- the digit `f` stands in front of an IPv4 address
    have hf : c ≠ 'f' := (hc 15).symm
    rw [text_v6]
    split
    · simp [mappedText, not_mem_dottedText hc hdot, hcolon, hf]
    · exact not_mem_colonText hc hcolon _

theorem ascii_of_mem_text {c : Char} {a : IpAddr} (h : c ∈ a.text) : c.toNat < 128 := by
  by_contra hlarge
  have hother {d : Char} (hd : d.toNat < 128) : c ≠ d := fun heq => hlarge (heq ▸ hd)
  have hdigit (d : Nat) : Nat.digitChar d ≠ c := Nat.digitChar_ne c (by simp [hother])
  exact not_mem_text hdigit (hother (by decide)) (hother (by decide)) a h

/-- No address has an empty text, for that denotes none. -/
theorem text_ne_nil (a : IpAddr) : a.text ≠ [] := by
  intro h
  have hread : read? [] = some a := h ▸ read?_text a
  cases hread

end Turnstile.IpAddr
