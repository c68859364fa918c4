import Koupang.ForStd.Words
import Koupang.Model.CatalogValues
import Koupang.Spec.Text

/-!
# Slugs and labels from names

A slug is derived from a name in several steps: the name is trimmed and
lowercased, whatever is not alphanumeric becomes a hyphen, empty words are left
out, and the result is validated like a slug that was sent. Labels are derived
alike, with underscores, and lose whatever stands before their first letter.

Key results:
- `slug_fromName_iff`, `label_fromName_iff`: which names have a slug and a label
- `derived_normal_form`: what is derived from a name is derived from itself
- `names_derive_iff`: the names of the catalog that have a slug and a label
-/

namespace Koupang.Store

open Text (isWhitespace isAlphanumeric charToLowercase)

/-! ## Characters of slugs and labels -/

theorem slugChar_lt {c : Char} (h : isSlugChar c = true) : c.toNat < 0x80 := by
  simp only [isSlugChar, Bool.or_eq_true, Bool.and_eq_true, decide_eq_true_eq, Char.le_def,
    UInt32.le_iff_toNat_le] at h
  have hz : 'z'.val.toNat = 0x7A := rfl
  have h9 : '9'.val.toNat = 0x39 := rfl
  have hc : c.val.toNat = c.toNat := rfl
  omega

theorem slugChar_facts {c : Char} (h : isSlugChar c = true) : isWhitespace c = false ∧
    charToLowercase c = [c] ∧ isAlphanumeric c = true :=
  Text.forall_ascii (P := fun c => isSlugChar c = true →
    isWhitespace c = false ∧ charToLowercase c = [c] ∧ isAlphanumeric c = true) (by decide)
    (slugChar_lt h) h

/-- What the derivation makes of a character of a slug. -/
structure Settled (sep c : Char) : Prop where
  notBlank : isWhitespace c = false
  lowercase : charToLowercase c = [c]
  kept : c = sep ∨ isAlphanumeric c = true

theorem settled_slugChar {sep c : Char} (h : isSlugChar c = true) : Settled sep c := by
  obtain ⟨hblank, hlower, halnum⟩ := slugChar_facts h
  exact ⟨hblank, hlower, .inr halnum⟩

theorem settled_labelChar {c : Char} (h : isLabelChar c = true) : Settled '_' c := by
  simp only [isLabelChar, Bool.or_eq_true, decide_eq_true_eq] at h
  rcases h with h | rfl
  · exact settled_slugChar h
  · exact ⟨by decide, by decide, .inl rfl⟩

/-! ## The words of a name -/

/-- The characters of a name, with `sep` in the place of whatever is not alphanumeric. -/
def mask (sep : Char) (cs : List Char) : List Char :=
  cs.map fun c => if isAlphanumeric c then c else sep

theorem joinWords_eq (sep : Char) (name : String) : joinWords sep name =
    String.ofList ((mask sep ((Text.trim name).toList.flatMap charToLowercase)).joined sep) := by
  simp only [joinWords, Text.toLowercase, String.toList_ofList]
  rfl

theorem mask_cons {sep c : Char} {cs : List Char} (h : isAlphanumeric c = true) :
    mask sep (c :: cs) = c :: mask sep cs := by
  rw [mask, List.map_cons, if_pos h, mask]

theorem ne_of_isAlphanumeric {sep c : Char} (hsep : isAlphanumeric sep = false)
    (h : isAlphanumeric c = true) : c ≠ sep := by
  intro heq
  rw [heq, hsep] at h
  cases h

/-- The words are written with the alphanumeric characters. -/
theorem mem_mask_iff {sep c : Char} {cs : List Char} (hsep : isAlphanumeric sep = false) :
    c ∈ mask sep cs ∧ c ≠ sep ↔ c ∈ cs ∧ isAlphanumeric c = true := by
  simp only [mask, List.mem_map]
  constructor
  · intro h
    obtain ⟨⟨d, hd, rfl⟩, hne⟩ := h
    split at hne
    · rename_i halnum
      rw [if_pos halnum]
      exact ⟨hd, halnum⟩
    · exact absurd rfl hne
  · intro h
    exact ⟨⟨c, h.1, if_pos h.2⟩, ne_of_isAlphanumeric hsep h.2⟩

/-- Words have no blanks, and a separator is none. -/
theorem trim_joined {sep : Char} {cs : List Char} (hsep : isAlphanumeric sep = false)
    (hblank : isWhitespace sep = false) :
    Text.trim (String.ofList ((mask sep cs).joined sep)) =
      String.ofList ((mask sep cs).joined sep) := by
  refine Text.trim_eq_self ?_
  intro c hc
  rw [String.toList_ofList] at hc
  by_cases heq : c = sep
  · rw [heq, hblank]
  · have hmem := (mem_mask_iff hsep).mp ⟨List.joined_sublist.subset hc, heq⟩
    by_contra hwhite
    have hnone := Text.not_isAlphanumeric_of_isWhitespace (Bool.not_eq_false _ ▸ hwhite)
    rw [hnone] at hmem
    exact absurd hmem.2 (by simp)

/-- A text of settled words is the text of its words. -/
theorem joinWords_eq_self {sep : Char} {s : String} (hsettled : ∀ c ∈ s.toList, Settled sep c)
    (hjoined : s.toList.joined sep = s.toList) : joinWords sep s = s := by
  have hlower : s.toList.flatMap charToLowercase = s.toList := by
    rw [List.flatMap_congr fun c hc => (hsettled c hc).lowercase, List.flatMap_singleton']
  have hmask : mask sep s.toList = s.toList := by
    have hsame : ∀ c ∈ s.toList, (if isAlphanumeric c then c else sep) = c := by
      intro c hc
      rcases (hsettled c hc).kept with rfl | halnum
      · exact ite_self _
      · rw [if_pos halnum]
    rw [mask, List.map_congr_left hsame, List.map_id']
  rw [joinWords_eq, Text.trim_eq_self fun c hc => (hsettled c hc).notBlank, hlower, hmask,
    hjoined, String.ofList_toList]

/-- What the trimmed text is parsed to, with a bound on its length and an expression that it has
    to match. -/
theorem matched_eq_ok {β : Type} {re : String → Bool} (hempty : re "" = false)
    (mk : (value : String) → re value = true → β) {input : String} {max : Nat}
    {empty long unmatched : AppError} {b : β} :
    (if (Text.trim input).isEmpty then .error empty
      else if Text.len (Text.trim input) > max then .error long
      else if hvalid : re (Text.trim input) = true then .ok (mk (Text.trim input) hvalid)
      else .error unmatched : Except AppError β) = .ok b ↔
    ∃ hvalid : re (Text.trim input) = true,
      b = mk (Text.trim input) hvalid ∧ Text.len (Text.trim input) ≤ max := by
  by_cases hre : re (Text.trim input) = true
  · have hne : ¬ (Text.trim input).isEmpty = true := by
      intro hnil
      rw [String.isEmpty_iff.mp hnil, hempty] at hre
      cases hre
    rw [if_neg hne, dif_pos hre]
    by_cases hlen : Text.len (Text.trim input) > max
    · simp [hlen]
    · simp [hlen, hre, Nat.not_lt.mp hlen, eq_comm]
  · rw [dif_neg hre]
    constructor
    · intro h
      split at h
      · cases h
      split at h
      · cases h
      · cases h
    · intro h
      obtain ⟨hvalid, -⟩ := h
      exact absurd hvalid hre

/-! ## Slugs -/

theorem slug_new_iff {s : String} {slug : Slug} :
    Slug.new s = .ok slug ↔ slug.value = Text.trim s ∧ Text.len (Text.trim s) ≤ 500 := by
  obtain ⟨value, hvalid⟩ := slug
  have hempty : slugRe "" = false := by decide
  refine (matched_eq_ok hempty Slug.mk).trans ?_
  constructor
  · rintro ⟨hre, h, hlen⟩
    exact ⟨congrArg Slug.value h, hlen⟩
  · rintro ⟨rfl, hlen⟩
    exact ⟨hvalid, rfl, hlen⟩

theorem slugRe_iff {s : String} : slugRe s = true ↔
    ∀ part ∈ s.toList.splitOn '-', part ≠ [] ∧ ∀ c ∈ part, isSlugChar c = true := by
  simp only [slugRe, List.all_eq_true, Bool.and_eq_true, Bool.not_eq_true',
    List.isEmpty_eq_false_iff]

/-- Every character that is kept is one of the slug alphabet. -/
def SlugCharsOnly (cs : List Char) : Prop :=
  ∀ c ∈ cs, isAlphanumeric c = true → isSlugChar c = true

/-- The text of the words is a slug if and only if there are words, in the slug alphabet. -/
theorem slugRe_joined {cs : List Char} :
    slugRe (String.ofList ((mask '-' cs).joined '-')) = true ↔
      (∃ c ∈ cs, isAlphanumeric c = true) ∧ SlugCharsOnly cs := by
  have hsep : isAlphanumeric '-' = false := by decide
  have hwords : (mask '-' cs).words '-' ≠ [] ↔ ∃ c ∈ cs, isAlphanumeric c = true := by
    rw [List.words_ne_nil_iff]
    exact exists_congr fun c => mem_mask_iff hsep
  rw [slugRe_iff, String.toList_ofList, ← hwords]
  by_cases h : (mask '-' cs).words '-' = []
  · have hnil : (mask '-' cs).joined '-' = [] := by rw [List.joined, h, List.intercalate_nil]
    simp [hnil, h]
  · rw [List.splitOn_joined h, and_iff_right h]
    constructor
    · intro hparts c hc halnum
      obtain ⟨part, hpart, hmem⟩ :=
        List.exists_mem_words_iff.mpr ((mem_mask_iff hsep).mpr ⟨hc, halnum⟩)
      exact (hparts part hpart).2 c hmem
    · intro honly part hpart
      refine ⟨(List.mem_words_iff.mp hpart).2, ?_⟩
      intro c hc
      have hmem := (mem_mask_iff hsep).mp (List.exists_mem_words_iff.mp ⟨part, hpart, hc⟩)
      exact honly c hmem.1 hmem.2

/-- A derived text is not longer than the characters it is derived from. -/
theorem length_joined_mask_le (sep : Char) (cs : List Char) :
    ((mask sep cs).joined sep).length ≤ cs.length := by
  have hle : ((mask sep cs).joined sep).length ≤ (mask sep cs).length :=
    List.joined_sublist.length_le
  rwa [mask, List.length_map] at hle

/-- A derived text in the slug alphabet has as many bytes as characters. -/
theorem len_joined_mask {sep : Char} {cs : List Char} (hsep : isAlphanumeric sep = false)
    (hascii : sep.toNat < 0x80) (honly : SlugCharsOnly cs) :
    Text.len (String.ofList ((mask sep cs).joined sep)) = ((mask sep cs).joined sep).length := by
  rw [Text.len_eq_length, String.length_ofList]
  intro c hc
  rw [String.toList_ofList] at hc
  by_cases heq : c = sep
  · rw [heq]
    exact hascii
  · have hmem := (mem_mask_iff hsep).mp ⟨List.joined_sublist.subset hc, heq⟩
    exact slugChar_lt (honly c hmem.1 hmem.2)

/-- The characters of a name in lowercase. -/
def lowercase (name : String) : List Char := name.toList.flatMap charToLowercase

theorem length_lowercase_le (name : String) : (lowercase name).length ≤ Text.len name := by
  have hle := Text.length_toLowercase_le name
  rwa [Text.toLowercase, String.length_ofList] at hle

/-- A name of 500 bytes at most has a slug if and only if it keeps something, and everything
    it keeps is in the slug alphabet. -/
theorem slug_fromName_iff {name : String} (htrim : Text.trim name = name)
    (hlen : Text.len name ≤ 500) : (∃ slug, Slug.fromName name = .ok slug) ↔
      (∃ c ∈ lowercase name, isAlphanumeric c = true) ∧ SlugCharsOnly (lowercase name) := by
  have hsep : isAlphanumeric '-' = false := by decide
  have hjoin : joinWords '-' name =
      String.ofList ((mask '-' (lowercase name)).joined '-') := by
    rw [joinWords_eq, htrim]
    rfl
  rw [← slugRe_joined, Slug.fromName, hjoin]
  constructor
  · intro h
    obtain ⟨slug, hslug⟩ := h
    have hvalue := (slug_new_iff.mp hslug).1
    rw [trim_joined hsep (by decide)] at hvalue
    rw [← hvalue]
    exact slug.valid
  · intro hre
    refine ⟨⟨_, hre⟩, slug_new_iff.mpr ?_⟩
    rw [trim_joined hsep (by decide), len_joined_mask hsep (by decide) (slugRe_joined.mp hre).2]
    have hshort := length_joined_mask_le '-' (lowercase name)
    have hlower := length_lowercase_le name
    exact ⟨rfl, by omega⟩

/-! ## Labels -/

theorem label_new_iff {s : String} {label : LtreeLabel} :
    LtreeLabel.new s = .ok label ↔
      label.value = Text.trim s ∧ Text.len (Text.trim s) ≤ 255 := by
  obtain ⟨value, hvalid⟩ := label
  have hempty : ltreeLabelRe "" = false := by decide
  refine (matched_eq_ok hempty LtreeLabel.mk).trans ?_
  constructor
  · rintro ⟨hre, h, hlen⟩
    exact ⟨congrArg LtreeLabel.value h, hlen⟩
  · rintro ⟨rfl, hlen⟩
    exact ⟨hvalid, rfl, hlen⟩

/-- What is left of a name for its label: everything from the first letter on. -/
def fromLetter (cs : List Char) : List Char := cs.dropWhile (!isAsciiLowercase ·)

theorem isSlugChar_of_isAsciiLowercase {c : Char} (h : isAsciiLowercase c = true) :
    isSlugChar c = true := by
  rw [isSlugChar, Bool.or_eq_true]
  exact .inl h

theorem isLabelChar_of_isSlugChar {c : Char} (h : isSlugChar c = true) : isLabelChar c = true := by
  rw [isLabelChar, h, Bool.true_or]

/-- The leading characters are left out of the words as of the name. -/
theorem dropWhile_joined_mask (cs : List Char) :
    ((mask '_' cs).joined '_').dropWhile (!isAsciiLowercase ·) =
      (mask '_' (fromLetter cs)).joined '_' := by
  rw [List.dropWhile_joined (by decide), mask, List.dropWhile_map]
  have hsame : ((!isAsciiLowercase ·) ∘ fun c => if isAlphanumeric c then c else '_') =
      (!isAsciiLowercase ·) := by
    funext c
    dsimp only [Function.comp]
    by_cases halnum : isAlphanumeric c = true
    · rw [if_pos halnum]
    · have hnot : isAsciiLowercase c = false := by
        by_contra hlower
        have hslug := isSlugChar_of_isAsciiLowercase (Bool.not_eq_false _ ▸ hlower)
        exact halnum (slugChar_facts hslug).2.2
      rw [if_neg halnum, hnot]
      decide
  rw [hsame]
  rfl

theorem ltreeLabelRe_iff {s : String} : ltreeLabelRe s = true ↔
    (∃ c ∈ s.toList.head?, isAsciiLowercase c = true) ∧ ∀ c ∈ s.toList, isLabelChar c = true := by
  rw [ltreeLabelRe]
  split
  · rename_i hnil
    simp [hnil]
  · rename_i c rest hcons
    rw [hcons, Bool.and_eq_true, List.all_eq_true]
    simp only [List.head?_cons, Option.mem_some_iff, exists_eq_left', List.forall_mem_cons]
    constructor
    · intro h
      have hslug := isSlugChar_of_isAsciiLowercase h.1
      exact ⟨h.1, isLabelChar_of_isSlugChar hslug, h.2⟩
    · intro h
      exact ⟨h.1, h.2.2⟩

/-- The text of the words from a letter on is a label if and only if they are in the slug
    alphabet. -/
theorem ltreeLabelRe_joined {c : Char} {cs : List Char} (hc : isAsciiLowercase c = true) :
    ltreeLabelRe (String.ofList ((mask '_' (c :: cs)).joined '_')) = true ↔
      SlugCharsOnly (c :: cs) := by
  have hsep : isAlphanumeric '_' = false := by decide
  have halnum := (slugChar_facts (isSlugChar_of_isAsciiLowercase hc)).2.2
  have hhead : ∃ rest, (mask '_' (c :: cs)).joined '_' = c :: rest := by
    rw [mask_cons halnum, List.joined_cons_of_ne (ne_of_isAlphanumeric hsep halnum)]
    exact ⟨_, rfl⟩
  obtain ⟨rest, hrest⟩ := hhead
  have hfirst : ∃ d ∈ ((mask '_' (c :: cs)).joined '_').head?, isAsciiLowercase d = true := by
    rw [hrest]
    exact ⟨c, rfl, hc⟩
  rw [ltreeLabelRe_iff, String.toList_ofList, and_iff_right hfirst]
  constructor
  · intro hlabel d hd hdalnum
    have hmem := (mem_mask_iff hsep).mpr ⟨hd, hdalnum⟩
    have hchar := hlabel d ((List.mem_joined_iff hmem.2).mpr hmem.1)
    rw [isLabelChar, Bool.or_eq_true, decide_eq_true_eq] at hchar
    exact hchar.resolve_right hmem.2
  · intro honly d hd
    by_cases heq : d = '_'
    · rw [heq]
      decide
    · have hmem := (mem_mask_iff hsep).mp ⟨(List.mem_joined_iff heq).mp hd, heq⟩
      exact isLabelChar_of_isSlugChar (honly d hmem.1 hmem.2)

/-- The letters and digits that are kept, and one separator for every gap between them. -/
def labelLength (cs : List Char) : Nat := cs.countP isAlphanumeric + cs.gaps isAlphanumeric

theorem length_joined_mask {c : Char} {cs : List Char} (hc : isAsciiLowercase c = true) :
    ((mask '_' (c :: cs)).joined '_').length = labelLength (c :: cs) := by
  have hsep : isAlphanumeric '_' = false := by decide
  have halnum := (slugChar_facts (isSlugChar_of_isAsciiLowercase hc)).2.2
  have hkept : ((fun d : Char => decide (d ≠ '_')) ∘ fun d =>
      if isAlphanumeric d then d else '_') = isAlphanumeric := by
    funext d
    dsimp only [Function.comp]
    by_cases hd : isAlphanumeric d = true
    · simp [hd, ne_of_isAlphanumeric hsep hd]
    · simp [hd]
  rw [mask_cons halnum, List.length_joined (ne_of_isAlphanumeric hsep halnum),
    ← mask_cons halnum, mask, List.countP_map, List.gaps_map, hkept, labelLength]

theorem exists_cons_fromLetter {cs : List Char} (h : fromLetter cs ≠ []) :
    ∃ c rest, fromLetter cs = c :: rest ∧ isAsciiLowercase c = true := by
  cases hcons : fromLetter cs with
  | nil => exact absurd hcons h
  | cons c rest =>
    have hhead := List.head?_dropWhile_not (!isAsciiLowercase ·) cs
    rw [← fromLetter, hcons] at hhead
    exact ⟨c, rest, rfl, by simpa using hhead⟩

/-- A name has a label if and only if it has a letter from `a` to `z`, keeps only characters of the
    slug alphabet from there on, and not too many of them. -/
theorem label_fromName_iff {name : String} (htrim : Text.trim name = name) :
    (∃ label, LtreeLabel.fromName name = .ok label) ↔
      fromLetter (lowercase name) ≠ [] ∧ SlugCharsOnly (fromLetter (lowercase name)) ∧
        labelLength (fromLetter (lowercase name)) ≤ 255 := by
  have hsep : isAlphanumeric '_' = false := by decide
  have hjoin : joinWords '_' name =
      String.ofList ((mask '_' (lowercase name)).joined '_') := by
    rw [joinWords_eq, htrim]
    rfl
  have hdrop := dropWhile_joined_mask (lowercase name)
  simp only [LtreeLabel.fromName, hjoin, String.toList_ofList, hdrop]
  by_cases hletter : fromLetter (lowercase name) = []
  · -- nothing is left, whether or not there are digits
    have hempty : ¬ ∃ label, LtreeLabel.new "" = .ok label := by
      intro h
      obtain ⟨label, hlabel⟩ := h
      have hvalid := label.valid
      rw [(label_new_iff.mp hlabel).1] at hvalid
      exact absurd hvalid (by decide)
    rw [hletter]
    simp only [ne_eq, not_true_eq_false, false_and, iff_false]
    split
    · simp
    · exact hempty
  · obtain ⟨c, rest, hcons, hc⟩ := exists_cons_fromLetter hletter
    rw [hcons] at hdrop ⊢
    have hnonempty :
        ¬ (String.ofList ((mask '_' (lowercase name)).joined '_')).isEmpty = true := by
      intro hempty
      have hnil := String.ofList_eq_empty_iff.mp (String.isEmpty_iff.mp hempty)
      have hmem : c ∈ (mask '_' (c :: rest)).joined '_' := by
        have halnum := (slugChar_facts (isSlugChar_of_isAsciiLowercase hc)).2.2
        rw [List.mem_joined_iff (ne_of_isAlphanumeric hsep halnum), mask_cons halnum]
        exact List.mem_cons_self
      rw [hnil, List.dropWhile_nil] at hdrop
      simp [← hdrop] at hmem
    rw [if_neg hnonempty, ← ltreeLabelRe_joined hc, and_iff_right (List.cons_ne_nil c rest)]
    constructor
    · intro h
      obtain ⟨label, hlabel⟩ := h
      obtain ⟨hvalue, hlen⟩ := label_new_iff.mp hlabel
      rw [trim_joined hsep (by decide)] at hvalue hlen
      have hre := hvalue ▸ label.valid
      rw [len_joined_mask hsep (by decide) ((ltreeLabelRe_joined hc).mp hre),
        length_joined_mask hc] at hlen
      exact ⟨hre, hlen⟩
    · intro h
      obtain ⟨hre, hlen⟩ := h
      refine ⟨⟨_, hre⟩, label_new_iff.mpr ?_⟩
      rw [trim_joined hsep (by decide),
        len_joined_mask hsep (by decide) ((ltreeLabelRe_joined hc).mp hre), length_joined_mask hc]
      exact ⟨rfl, hlen⟩

/-! ## What is derived is its own name -/

theorem settled_of_slug (slug : Slug) : ∀ c ∈ slug.value.toList, Settled '-' c := by
  intro c hc
  by_cases heq : c = '-'
  · rw [heq]
    exact ⟨by decide, by decide, .inl rfl⟩
  · obtain ⟨part, hpart, hmem⟩ := List.mem_splitOn_iff.mpr ⟨hc, heq⟩
    exact settled_slugChar ((slugRe_iff.mp slug.valid part hpart).2 c hmem)

theorem settled_of_label (label : LtreeLabel) : ∀ c ∈ label.value.toList, Settled '_' c := by
  intro c hc
  exact settled_labelChar ((ltreeLabelRe_iff.mp label.valid).2 c hc)

theorem dot_notMem_label (label : LtreeLabel) : '.' ∉ label.value.toList := by
  intro hdot
  exact absurd ((ltreeLabelRe_iff.mp label.valid).2 '.' hdot) (by decide)

/-- A slug that was accepted is accepted again, as it is. -/
theorem slug_new_new {s : String} {slug : Slug} (h : Slug.new s = .ok slug) :
    Slug.new slug.value = .ok slug := by
  obtain ⟨hvalue, hlen⟩ := slug_new_iff.mp h
  have htrim := Text.trim_eq_self fun c hc => (settled_of_slug slug c hc).notBlank
  rw [slug_new_iff, htrim, hvalue]
  exact ⟨rfl, hlen⟩

theorem slug_fromName_fromName {name : String} {slug : Slug} (h : Slug.fromName name = .ok slug) :
    Slug.fromName slug.value = .ok slug := by
  have hjoined : slug.value.toList.joined '-' = slug.value.toList := by
    refine List.joined_eq_self ?_
    intro part hpart
    exact (slugRe_iff.mp slug.valid part hpart).1
  rw [Slug.fromName, joinWords_eq_self (settled_of_slug slug) hjoined]
  exact slug_new_new h

theorem label_fromName_fromName {name : String} {label : LtreeLabel}
    (h : LtreeLabel.fromName name = .ok label) :
    LtreeLabel.fromName label.value = .ok label := by
  have hsettled := settled_of_label label
  obtain ⟨hvalue, hlen⟩ : label.value = String.ofList ((mask '_' (fromLetter
      ((Text.trim name).toList.flatMap charToLowercase))).joined '_') ∧
      Text.len label.value ≤ 255 := by
    rw [LtreeLabel.fromName, joinWords_eq] at h
    split at h
    · cases h
    · rw [String.toList_ofList, dropWhile_joined_mask, label_new_iff,
        trim_joined (by decide) (by decide)] at h
      exact ⟨h.1, h.1 ▸ h.2⟩
  have hjoined : label.value.toList.joined '_' = label.value.toList := by
    rw [hvalue, String.toList_ofList, List.joined_joined]
  obtain ⟨⟨c, hc, hlower⟩, -⟩ := ltreeLabelRe_iff.mp label.valid
  obtain ⟨rest, hrest⟩ := List.head?_eq_some_iff.mp hc
  have hnonempty : ¬ label.value.isEmpty = true := by
    intro hempty
    rw [String.isEmpty_iff.mp hempty] at hrest
    cases hrest
  have hdrop : label.value.toList.dropWhile (!isAsciiLowercase ·) = label.value.toList := by
    rw [hrest, List.dropWhile_cons_of_neg (by simp [hlower])]
  have htrim := Text.trim_eq_self fun c hc => (hsettled c hc).notBlank
  rw [LtreeLabel.fromName, joinWords_eq_self hsettled hjoined, if_neg hnonempty, hdrop,
    String.ofList_toList, label_new_iff, htrim]
  exact ⟨rfl, hlen⟩

/-- Slugs and labels that were derived are valid, and are derived from themselves. -/
theorem derived_normal_form (name : String) :
    (∀ slug, Slug.fromName name = .ok slug →
      slugRe slug.value = true ∧ Slug.new slug.value = .ok slug ∧
        Slug.fromName slug.value = .ok slug) ∧
      ∀ label, LtreeLabel.fromName name = .ok label →
        ltreeLabelRe label.value = true ∧ '.' ∉ label.value.toList ∧
          LtreeLabel.fromName label.value = .ok label := by
  constructor
  · intro slug h
    exact ⟨slug.valid, slug_new_new h, slug_fromName_fromName h⟩
  · intro label h
    exact ⟨label.valid, dot_notMem_label label, label_fromName_fromName h⟩

/-! ## Names of the catalog -/

/-- A product, category or brand name that passed its validation. -/
def IsName (name : String) : Prop :=
  ∃ input, ProductName.new input = .ok name ∨ CategoryName.new input = .ok name ∨
    BrandName.new input = .ok name

/-- A name with a letter or a digit of ASCII has a slug. -/
def SlugDerived (name : String) : Prop :=
  (∃ c ∈ name.toList, c.isAlphanum = true) → ∃ slug, Slug.fromName name = .ok slug

/-- A name with a letter of ASCII has a label. -/
def LabelDerived (name : String) : Prop :=
  (∃ c ∈ name.toList, c.isAlpha = true) → ∃ label, LtreeLabel.fromName name = .ok label

theorem validatedName_ok {display input name : String} {maxLen : Nat}
    (h : validatedName display maxLen input = .ok name) :
    Text.trim name = name ∧ Text.len name ≤ maxLen := by
  rw [validatedName] at h
  split at h
  · cases h
  split at h
  · cases h
  · cases h
    exact ⟨Text.trim_trim input, by omega⟩

theorem IsName.bounds {name : String} (h : IsName name) :
    Text.trim name = name ∧ Text.len name ≤ 500 := by
  obtain ⟨input, h | h | h⟩ := h
  · exact validatedName_ok h
  · exact (validatedName_ok h).imp_right fun hlen => hlen.trans (by decide)
  · exact (validatedName_ok h).imp_right fun hlen => hlen.trans (by decide)

/-- The two characters outside ASCII whose lowercase form is in ASCII: the capital dotted I, and the
    sign of the kelvin. -/
def isForeignLetter (c : Char) : Bool := c.toNat = 0x130 || c.toNat = 0x212A

/-- Every letter and digit has a lowercase form in ASCII. -/
def LatinOnly (cs : List Char) : Prop :=
  ∀ c ∈ cs, isAlphanumeric c = true → c.toNat < 0x80 ∨ isForeignLetter c = true

instance (cs : List Char) : Decidable (LatinOnly cs) := List.decidableBAll _ cs

/-- What is left of a name for its label, before it is lowercased. -/
def fromFirstLetter (name : String) : List Char :=
  name.toList.dropWhile fun c => !(c.isAlpha || isForeignLetter c)

/-- The lowercase form of a character, by its kind. -/
theorem charToLowercase_cases (c : Char) :
    c.toNat < 0x80 ∧ charToLowercase c = [c.toLower] ∨
      c.toNat = 0x130 ∧ charToLowercase c = ['i', '\u0307'] ∨
      c.toNat = 0x212A ∧ charToLowercase c = ['k'] ∨
      0x80 ≤ c.toNat ∧ isForeignLetter c = false ∧ charToLowercase c = [c] := by
  unfold charToLowercase isForeignLetter
  split
  · rename_i h
    exact .inr (.inl ⟨h, rfl⟩)
  · rename_i h
    exact .inr (.inr (.inl ⟨h, rfl⟩))
  · rename_i hdotted hkelvin
    by_cases h : c.toNat < 0x80
    · exact .inl ⟨h, rfl⟩
    · rw [Text.toLower_of_le (by omega)]
      have hforeign : (c.toNat = 0x130 || c.toNat = 0x212A : Bool) = false := by
        rw [decide_eq_false hdotted, decide_eq_false hkelvin, Bool.or_false]
      exact .inr (.inr (.inr ⟨by omega, hforeign, rfl⟩))

theorem slugCharsOnly_lowercase_iff {cs : List Char} :
    SlugCharsOnly (cs.flatMap charToLowercase) ↔ LatinOnly cs := by
  have hchar : ∀ c, (∀ d ∈ charToLowercase c, isAlphanumeric d = true → isSlugChar d = true) ↔
      (isAlphanumeric c = true → c.toNat < 0x80 ∨ isForeignLetter c = true) := by
    intro c
    rcases charToLowercase_cases c with ⟨hascii, heq⟩ | ⟨hc, heq⟩ | ⟨hc, heq⟩ | ⟨hc, hother, heq⟩
    · have hslug := Text.forall_ascii (P := fun c => isAlphanumeric c.toLower = true →
        isSlugChar c.toLower = true) (by decide) hascii
      simp only [heq, List.mem_singleton, forall_eq, hascii, true_or, implies_true, iff_true]
      exact hslug
    · have hforeign : isForeignLetter c = true := by simp [isForeignLetter, hc]
      have hmark : isAlphanumeric '\u0307' = false := by decide +kernel
      simp only [heq, hforeign, or_true, implies_true, iff_true, List.forall_mem_cons, hmark,
        List.not_mem_nil, false_implies, Bool.false_eq_true, and_true]
      decide
    · have hforeign : isForeignLetter c = true := by simp [isForeignLetter, hc]
      simp only [heq, hforeign, or_true, implies_true, iff_true, List.mem_singleton, forall_eq]
      decide
    · have hslug : ¬ isSlugChar c = true := by
        intro hslug
        have hlt := slugChar_lt hslug
        omega
      simp [heq, hother, hslug, Nat.not_lt.mpr hc]
  simp only [SlugCharsOnly, LatinOnly, List.mem_flatMap, forall_exists_index, and_imp]
  constructor
  · intro h c hc
    exact (hchar c).mp fun d hd => h d c hc hd
  · intro h d c hc hd
    exact (hchar c).mpr (h c hc) d hd

theorem exists_isAlphanumeric_lowercase {c : Char} (h : isAlphanumeric c = true) :
    ∃ d ∈ charToLowercase c, isAlphanumeric d = true := by
  rcases charToLowercase_cases c with ⟨_, heq⟩ | ⟨_, heq⟩ | ⟨_, heq⟩ | ⟨_, _, heq⟩ <;> rw [heq]
  · exact ⟨c.toLower, List.mem_singleton_self _, (Text.isAlphanumeric_toLower c).trans h⟩
  · exact ⟨'i', List.mem_cons_self, by decide⟩
  · exact ⟨'k', List.mem_cons_self, by decide⟩
  · exact ⟨c, List.mem_singleton_self _, h⟩

theorem isAlphanum_lt {c : Char} (h : c.isAlphanum = true) : c.toNat < 0x80 := by
  change (((decide ('A'.val ≤ c.val ∧ c.val ≤ 'Z'.val)) ||
    (decide ('a'.val ≤ c.val) && decide (c.val ≤ 'z'.val))) ||
    (decide ('0'.val ≤ c.val) && decide (c.val ≤ '9'.val))) = true at h
  simp only [Bool.or_eq_true, Bool.and_eq_true, decide_eq_true_eq, UInt32.le_iff_toNat_le] at h
  have hc : c.val.toNat = c.toNat := rfl
  have hupper : 'Z'.val.toNat = 0x5A := rfl
  have hlower : 'z'.val.toNat = 0x7A := rfl
  have hdigit : '9'.val.toNat = 0x39 := rfl
  omega

theorem isAlpha_lt {c : Char} (h : c.isAlpha = true) : c.toNat < 0x80 :=
  isAlphanum_lt (by rw [Char.isAlphanum, h, Bool.true_or])

theorem toLower_isAsciiLowercase {c : Char} (h : c.isAlpha = true) :
    isAsciiLowercase c.toLower = true :=
  Text.forall_ascii (P := fun c => c.isAlpha = true → isAsciiLowercase c.toLower = true)
    (by decide) (isAlpha_lt h) h

/-- The first letter of the lowercase form comes from the first letter of the name. -/
theorem fromLetter_lowercase (name : String) :
    fromLetter (lowercase name) = (fromFirstLetter name).flatMap charToLowercase := by
  refine List.dropWhile_flatMap ?_ ?_ _
  · intro c hskip
    simp only [Bool.not_eq_true', Bool.or_eq_false_iff] at hskip
    obtain ⟨halpha, hforeign⟩ := hskip
    rcases charToLowercase_cases c with ⟨hc, heq⟩ | ⟨hc, -⟩ | ⟨hc, -⟩ | ⟨hc, -, heq⟩
    · have hlower := Text.forall_ascii (P := fun c => c.isAlpha = false →
        (!isAsciiLowercase c.toLower) = true) (by decide) hc halpha
      simpa [heq] using hlower
    · simp [isForeignLetter, hc] at hforeign
    · simp [isForeignLetter, hc] at hforeign
    · rw [heq]
      intro d hd
      rw [List.mem_singleton.mp hd, Bool.not_eq_true']
      by_contra hlower
      have hslug := isSlugChar_of_isAsciiLowercase (Bool.not_eq_false _ ▸ hlower)
      have hlt := slugChar_lt hslug
      omega
  · intro c hstop
    simp only [Bool.not_eq_false', Bool.or_eq_true] at hstop
    rcases charToLowercase_cases c with ⟨hc, heq⟩ | ⟨-, heq⟩ | ⟨-, heq⟩ | ⟨hc, hother, -⟩
    · have halpha : c.isAlpha = true := by
        refine hstop.resolve_right ?_
        intro hforeign
        simp only [isForeignLetter, Bool.or_eq_true, decide_eq_true_eq] at hforeign
        omega
      exact ⟨c.toLower, [], heq, by simp [toLower_isAsciiLowercase halpha]⟩
    · exact ⟨'i', _, heq, by decide⟩
    · exact ⟨'k', _, heq, by decide⟩
    · rw [hother] at hstop
      have hlt := isAlpha_lt (hstop.resolve_right (by simp))
      omega

/-- A label has no more characters than its name has bytes. -/
theorem labelLength_le (name : String) :
    labelLength ((fromFirstLetter name).flatMap charToLowercase) ≤ Text.len name := by
  rw [← fromLetter_lowercase]
  have hkept : (fromLetter (lowercase name)).length ≤ (lowercase name).length :=
    (List.dropWhile_suffix _).length_le
  exact (List.countP_add_gaps_le.trans hkept).trans (length_lowercase_le name)

/-- The label of a category name is never too long. -/
theorem labelLength_categoryName {input name : String} (h : CategoryName.new input = .ok name) :
    labelLength ((fromFirstLetter name).flatMap charToLowercase) ≤ 255 :=
  (labelLength_le name).trans (validatedName_ok h).2

theorem slugDerived_iff {name : String} (hname : IsName name) : SlugDerived name ↔
    ((∃ c ∈ name.toList, c.isAlphanum = true) → LatinOnly name.toList) := by
  obtain ⟨htrim, hlen⟩ := hname.bounds
  refine forall_congr' fun hascii => ?_
  obtain ⟨c, hc, halnum⟩ := hascii
  have hkept : ∃ d ∈ lowercase name, isAlphanumeric d = true := by
    have hletter : isAlphanumeric c = true := by
      rw [isAlphanumeric, if_pos (isAlphanum_lt halnum), halnum]
    obtain ⟨d, hd, hdalnum⟩ := exists_isAlphanumeric_lowercase hletter
    exact ⟨d, List.mem_flatMap.mpr ⟨c, hc, hd⟩, hdalnum⟩
  rw [slug_fromName_iff htrim hlen, and_iff_right hkept]
  exact slugCharsOnly_lowercase_iff

theorem labelDerived_iff {name : String} (hname : IsName name) : LabelDerived name ↔
    ((∃ c ∈ name.toList, c.isAlpha = true) → LatinOnly (fromFirstLetter name) ∧
      labelLength ((fromFirstLetter name).flatMap charToLowercase) ≤ 255) := by
  refine forall_congr' fun hascii => ?_
  obtain ⟨c, hc, halpha⟩ := hascii
  have hletter : fromLetter (lowercase name) ≠ [] := by
    intro hnil
    have hmem : c.toLower ∈ lowercase name := by
      have hlower : c.toLower ∈ charToLowercase c := by
        rcases charToLowercase_cases c with ⟨-, heq⟩ | ⟨hn, -⟩ | ⟨hn, -⟩ | ⟨hn, -, -⟩
        · rw [heq]
          exact List.mem_singleton_self _
        all_goals
          have hlt := isAlpha_lt halpha
          omega
      exact List.mem_flatMap.mpr ⟨c, hc, hlower⟩
    have hnone := List.dropWhile_eq_nil_iff.mp hnil _ hmem
    simp [toLower_isAsciiLowercase halpha] at hnone
  rw [label_fromName_iff hname.bounds.1, and_iff_right hletter, fromLetter_lowercase,
    slugCharsOnly_lowercase_iff]

/-- The names of the catalog that slugs and labels can be derived from. -/
theorem names_derive_iff {name : String} (hname : IsName name) :
    (SlugDerived name ↔
      ((∃ c ∈ name.toList, c.isAlphanum = true) → LatinOnly name.toList)) ∧
    (LabelDerived name ↔
      ((∃ c ∈ name.toList, c.isAlpha = true) → LatinOnly (fromFirstLetter name) ∧
        labelLength ((fromFirstLetter name).flatMap charToLowercase) ≤ 255)) :=
  ⟨slugDerived_iff hname, labelDerived_iff hname⟩

theorem names_derive_phones :
    (∃ slug, Slug.fromName "Smart Phones" = .ok slug) ∧
      ∃ label, LtreeLabel.fromName "Smart Phones" = .ok label := by
  have hname : IsName "Smart Phones" := ⟨"Smart Phones", .inr (.inl rfl)⟩
  have hiff := names_derive_iff hname
  exact ⟨hiff.1.mpr (fun _ => by decide) ⟨'S', by decide⟩,
    hiff.2.mpr (fun _ => by decide) ⟨'S', by decide⟩⟩

/-- An accented letter is alphanumeric, and is kept for a slug that must not have it. -/
theorem cafe_not_derived :
    IsName "Café" ∧ ¬ SlugDerived "Café" ∧ ¬ LabelDerived "Café" := by
  have hname : IsName "Café" := ⟨"Café", .inr (.inl rfl)⟩
  rw [slugDerived_iff hname, labelDerived_iff hname]
  refine ⟨hname, ?_, ?_⟩
  · intro h
    exact absurd (h ⟨'C', by decide⟩) (by decide)
  · intro h
    exact absurd (h ⟨'C', by decide⟩).1 (by decide)

end Koupang.Store
