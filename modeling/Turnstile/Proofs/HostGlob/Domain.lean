import Turnstile.Proofs.HostGlob.Blocks
import Turnstile.Proofs.HostGlob.Name
/-!
  Patterns for a domain and everything below it.

  1. **The question** — such a pattern is `**.` and the name of the domain.  Does it admit hosts of that
     domain only, that is hosts whose name is the domain or ends with a dot and the domain
     (`Within`)?

  2. **Labels and text** (`split_suffix_iff`) — the pattern asks for a list of labels at the end of
     another one (`matchLabels_many_exactly`), the question for a text at the end of another one.
     They are the same, since a label holds no dot.

  3. **Names** (`plainName`, `bracketedName`) — the name of a host is what is left without white space,
     port, dots at the end and case.  Of a host that begins with a bracket, what is compared is the
     text in the brackets alone, whatever follows them.

  4. **Headline** (`accepts_domain`) — so the answer is yes for hosts that do not begin with a bracket.
     For those that do, it is yes for what they have in brackets and no for themselves
     (`domain_in_brackets`).
-/

namespace Turnstile

/-! ## Labels and text -/

/-- Pieces end with the pieces of a text exactly if the text ends with it, behind a separator. -/
theorem Text.split_suffix_iff {sep : Char} {s t : List Char} :
    split sep s <:+ split sep t ↔ t = s ∨ (sep :: s) <:+ t := by
  constructor
  · rintro ⟨front, hfront⟩
    by_cases hnil : front = []
    · left
      rw [hnil, List.nil_append] at hfront
      exact eq_of_split_eq hfront.symm
    · right
      have hsep : ∀ p ∈ front, sep ∉ p := by
        intro p hp
        have hpiece : p ∈ split sep t := by
          rw [← hfront]
          exact List.mem_append_left _ hp
        exact not_mem_of_mem_split hpiece
      have hsplit : split sep ([sep].intercalate front ++ sep :: s) = split sep t := by
        rw [split_append_sep, split_intercalate hnil hsep, hfront]
      exact ⟨[sep].intercalate front, eq_of_split_eq hsplit⟩
  · rintro (rfl | ⟨front, rfl⟩)
    · exact List.suffix_rfl
    · rw [split_append_sep]
      exact List.suffix_append _ _

namespace HostGlob

open Text

theorem covers_exactly {texts host : List (List Char)} :
    Covers (texts.map HostLabel.exactly) host ↔ host = texts := by
  induction texts generalizing host with
  | nil => exact covers_nil
  | cons text texts ih =>
    rw [List.map_cons, covers_cons]
    constructor
    · rintro ⟨block, rest, rfl, hrest, rfl⟩
      rw [ih.mp hrest]
      rfl
    · rintro rfl
      exact ⟨[text], texts, rfl, ih.mpr rfl, rfl⟩

/-- A `**` in front asks for a list of labels at the end. -/
theorem matchLabels_many_exactly {texts host : List (List Char)} :
    matchLabels (.many :: texts.map HostLabel.exactly) host = true ↔ texts <:+ host := by
  rw [matchLabels_iff_covers, covers_cons]
  constructor
  · rintro ⟨block, rest, -, hrest, rfl⟩
    rw [covers_exactly.mp hrest]
    exact List.suffix_append _ _
  · rintro ⟨block, rfl⟩
    exact ⟨block, texts, trivial, covers_exactly.mpr rfl, rfl⟩

/-! ## Specification -/

/-- **The domain that a text names**: without white space and dots at its end, in lower case. -/
def domainOf (s : String) : List Char :=
  lower (dropEndWhile (· = '.') (dropEndWhile isBlank s.toList))

/-- **Literal**: no label of a domain stands for other labels. -/
structure Literal (domain : List Char) : Prop where
  notOne : ['*'] ∉ split '.' domain
  notMany : ['*', '*'] ∉ split '.' domain

/-- **Within**: a name is a domain, or ends with a dot and the domain. -/
def Within (domain name : List Char) : Prop := name = domain ∨ ('.' :: domain) <:+ name

instance (domain name : List Char) : Decidable (Within domain name) :=
  inferInstanceAs (Decidable (name = domain ∨ ('.' :: domain) <:+ name))

/-- **Admitted**: the names within a domain; where no domain is named, all of them. -/
def Admitted (domain name : List Char) : Prop := name ≠ [] ∧ (domain = [] ∨ Within domain name)

/-- **The name of a host**: without white space, a port, dots at its end and case. -/
def plainName (host : List Char) : List Char :=
  lower (dropEndWhile (· = '.') (portless (trim host)))

/-- **The name in brackets**: what stands after an opening bracket up to the closing one. -/
def bracketedName (t : List Char) : List Char := lower (dropEndWhile (· = '.') (before ']' t))

/-! ## The pattern -/

theorem label_of_literal {text : List Char} (hone : text ≠ ['*']) (hmany : text ≠ ['*', '*']) :
    label text = .exactly text := by
  unfold label
  rw [if_neg hmany, if_neg hone]

theorem Literal.map_label {domain : List Char} (h : Literal domain) :
    (split '.' domain).map label = (split '.' domain).map HostLabel.exactly := by
  refine List.map_congr_left fun text htext => label_of_literal ?_ ?_
  · rintro rfl
    exact h.notOne htext
  · rintro rfl
    exact h.notMany htext

/-- The labels of the pattern: a `**` and those of the domain, if one is named. -/
theorem labels_parse_domain (s : String) :
    (parse ("**." ++ s)).labels =
      .many :: if domainOf s = [] then [] else (split '.' (domainOf s)).map label := by
  have hs : ("**." ++ s).toList = ['*', '*', '.'] ++ s.toList := String.toList_append
  have htrim : trim (['*', '*', '.'] ++ s.toList) =
      ['*', '*', '.'] ++ dropEndWhile isBlank s.toList := by
    have hfront : (['*', '*', '.'] ++ s.toList).dropWhile isBlank = ['*', '*', '.'] ++ s.toList := rfl
    unfold trim
    rw [hfront]
    refine dropEndWhile_append_of_last ?_ _
    rintro c ⟨⟩
    rfl
  unfold parse labelsOf
  rw [hs, htrim, dropEndWhile_append]
  by_cases hnone : domainOf s = []
  · rw [if_pos hnone, if_pos (lower_eq_nil_iff.mp hnone)]
    rfl
  · have hlower : lower (['*', '*', '.'] ++ dropEndWhile (· = '.') (dropEndWhile isBlank s.toList)) =
        ['*', '*'] ++ '.' :: domainOf s := rfl
    rw [if_neg hnone, if_neg fun h => hnone (lower_eq_nil_iff.mpr h), hlower, split_append_sep]
    rfl

/-- The pattern admits exactly the compared names within the domain. -/
theorem accepts_iff_admitted {s : String} (literal : Literal (domainOf s)) (host : List Char) :
    (parse ("**." ++ s)).accepts host = true ↔ Admitted (domainOf s) (comparedName host) := by
  rw [accepts_iff, labels_parse_domain]
  refine and_congr_right fun _ => ?_
  by_cases hnone : domainOf s = []
  · rw [if_pos hnone]
    have hall : matchLabels (.many :: ([] : List (List Char)).map HostLabel.exactly)
        (split '.' (comparedName host)) = true := matchLabels_many_exactly.mpr List.nil_suffix
    exact iff_of_true hall (.inl hnone)
  · rw [if_neg hnone, literal.map_label, matchLabels_many_exactly, split_suffix_iff,
      or_iff_right hnone]
    rfl

/-! ## Headline -/

/-- **Headline.**  Let `s` name a domain without wildcards.  The pattern of `**.` and `s` accepts a host
exactly if the name of the host is the domain or ends with a dot and the domain, as long as the host
does not begin with a bracket.  If it does, the same holds for the name in brackets instead: what
follows the brackets is not looked at. -/
theorem accepts_domain {s : String} (literal : Literal (domainOf s)) (host : List Char) :
    ((trim host).head? ≠ some '[' →
      ((parse ("**." ++ s)).accepts host = true ↔ Admitted (domainOf s) (plainName host))) ∧
    (∀ t, trim host = '[' :: t →
      ((parse ("**." ++ s)).accepts host = true ↔
        Admitted (domainOf s) (bracketedName t))) := by
  constructor
  · intro hhead
    have hname : comparedName host = plainName host := by
      unfold comparedName
      rw [withoutPort_eq_portless hhead]
      rfl
    rw [accepts_iff_admitted literal, hname]
  · intro t ht
    have hname : comparedName host = bracketedName t := by
      unfold comparedName
      rw [ht]
      rfl
    rw [accepts_iff_admitted literal, hname]

/-- A host of the domain with a port, and one that has the domain in brackets. -/
theorem accepts_domain_of_abc :
    let s := "abc.org"
    Literal (domainOf s) ∧
    (trim "WWW.abc.org.:80".toList).head? ≠ some '[' ∧
    ((parse ("**." ++ s)).accepts "WWW.abc.org.:80".toList = true ↔
      Admitted (domainOf s) (plainName "WWW.abc.org.:80".toList)) ∧
    plainName "WWW.abc.org.:80".toList = "www.abc.org".toList ∧
    trim "[abc.org]:80".toList = '[' :: "abc.org]:80".toList ∧
    ((parse ("**." ++ s)).accepts "[abc.org]:80".toList = true ↔
      Admitted (domainOf s) (bracketedName "abc.org]:80".toList)) ∧
    bracketedName "abc.org]:80".toList = "abc.org".toList := by
  intro s
  have literal : Literal (domainOf s) := ⟨by decide, by decide⟩
  have hhead : (trim "WWW.abc.org.:80".toList).head? ≠ some '[' := by decide
  have hopen : trim "[abc.org]:80".toList = '[' :: "abc.org]:80".toList := by decide
  exact ⟨literal, hhead, (accepts_domain literal _).1 hhead, by decide, hopen,
    (accepts_domain literal _).2 _ hopen, by decide⟩

/-- **A domain in brackets lets any other one in**: the host is no host of the domain, but it is
accepted, since what follows the brackets is dropped like a port. -/
theorem domain_in_brackets :
    let host := "[abc.org].evil.com".toList
    (parse "**.abc.org").accepts host = true ∧ plainName host = host ∧
    ¬ Within "abc.org".toList (plainName host) := by
  decide

end HostGlob

end Turnstile
