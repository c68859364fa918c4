import Mathlib.Data.String.Basic
import Koupang.Model.Unicode

/-!
# Trimming, lowercase forms and lengths of texts

Value objects trim, lowercase and bound what they are made from. These are the
facts about the text functions that say when a text is left as it is.
-/

namespace Koupang.Text

/-! ## Trimming -/

theorem trim_eq_self {s : String} (h : ∀ c ∈ s.toList, isWhitespace c = false) :
    trim s = s := by
  have hleft : s.toList.dropWhile isWhitespace = s.toList := by
    rw [List.dropWhile_eq_self_iff]
    intro hlen
    simp [h _ (List.getElem_mem hlen)]
  have hright : s.toList.rdropWhile isWhitespace = s.toList := by
    rw [List.rdropWhile_eq_self_iff]
    intro hne
    simp [h _ (List.getLast_mem hne)]
  rw [trim, hleft, hright, String.ofList_toList]

/-- What is trimmed has no blanks at its ends. -/
theorem trim_trim (s : String) : trim (trim s) = trim s := by
  have hdrop : ∀ l : List Char, l.dropWhile isWhitespace = l →
      (l.rdropWhile isWhitespace).dropWhile isWhitespace = l.rdropWhile isWhitespace := by
    intro l hl
    rw [List.dropWhile_eq_self_iff] at hl ⊢
    intro hlen
    have hfront := List.rdropWhile_prefix isWhitespace (l := l)
    rw [hfront.getElem hlen]
    exact hl (hlen.trans_le hfront.length_le)
  simp only [trim, String.toList_ofList]
  rw [hdrop _ (List.dropWhile_idempotent _ _), List.rdropWhile_idempotent]

/-! ## Lengths -/

/-- A string has at most as many characters as bytes. -/
theorem length_le_len (s : String) : s.length ≤ len s := by
  rw [len, ← String.utf8Len_toList, ← String.length_toList]
  induction s.toList with
  | nil => simp
  | cons c cs ih =>
    have hc : 0 < c.utf8Size := c.utf8Size_pos
    simp only [List.length_cons, String.utf8Len_cons]
    omega

/-- As many, if they are ASCII. -/
theorem len_eq_length {s : String} (h : ∀ c ∈ s.toList, c.toNat < 0x80) : len s = s.length := by
  rw [len, ← String.utf8Len_toList, ← String.length_toList]
  revert h
  induction s.toList with
  | nil => exact fun _ => rfl
  | cons c cs ih =>
    intro h
    have hc : c.utf8Size = 1 := by
      rw [Char.utf8Size_eq_one_iff, UInt32.le_iff_toNat_le]
      have hlt : c.toNat < 0x80 := h c List.mem_cons_self
      exact Nat.le_of_lt_succ hlt
    rw [String.utf8Len_cons, List.length_cons, hc, ih fun d hd => h d (List.mem_cons_of_mem _ hd)]

theorem length_charToLowercase_le (c : Char) : (charToLowercase c).length ≤ c.utf8Size := by
  unfold charToLowercase
  split
  · -- two characters in the place of one that has two bytes
    rename_i h
    have hsize : c.utf8Size = 2 := by
      rw [← Char.ofNat_toNat c, h]
      rfl
    simp [hsize]
  · exact c.utf8Size_pos
  · exact c.utf8Size_pos

theorem length_toLowercase_le (s : String) : (toLowercase s).length ≤ len s := by
  rw [toLowercase, String.length_ofList, len, ← String.utf8Len_toList]
  induction s.toList with
  | nil => simp
  | cons c cs ih =>
    have hc := length_charToLowercase_le c
    simp only [List.flatMap_cons, List.length_append, String.utf8Len_cons]
    omega

/-! ## Letters and digits -/

/-- What can be checked of every ASCII character. -/
theorem forall_ascii {P : Char → Prop} (h : ∀ n < 0x80, P (Char.ofNat n)) {c : Char}
    (hc : c.toNat < 0x80) : P c := by
  rw [← Char.ofNat_toNat c]
  exact h _ hc

/-- No blank is a letter or a digit. -/
theorem not_isAlphanumeric_of_isWhitespace {c : Char} (h : isWhitespace c = true) :
    isAlphanumeric c = false := by
  have hother : ∀ n ∈ [0x85, 0xA0, 0x1680, 0x2000, 0x2001, 0x2002, 0x2003, 0x2004, 0x2005, 0x2006,
      0x2007, 0x2008, 0x2009, 0x200A, 0x2028, 0x2029, 0x202F, 0x205F, 0x3000],
      isAlphanumeric (Char.ofNat n) = false := by
    decide +kernel
  by_cases hn : c.toNat < 0x80
  · exact forall_ascii (P := fun c => isWhitespace c = true → isAlphanumeric c = false)
      (by decide) hn h
  · have hmem : c.toNat ∈ [0x85, 0xA0, 0x1680, 0x2000, 0x2001, 0x2002, 0x2003, 0x2004, 0x2005,
        0x2006, 0x2007, 0x2008, 0x2009, 0x200A, 0x2028, 0x2029, 0x202F, 0x205F, 0x3000] := by
      simp only [isWhitespace, Bool.or_eq_true, Bool.and_eq_true, decide_eq_true_eq] at h
      simp only [List.mem_cons, List.not_mem_nil, or_false]
      omega
    rw [← Char.ofNat_toNat c]
    exact hother _ hmem

theorem toLower_of_le {c : Char} (h : 0x80 ≤ c.toNat) : c.toLower = c := by
  have hupper : ¬ (c.val ≥ 'A'.val ∧ c.val ≤ 'Z'.val) := by
    intro hle
    have hle' : c.toNat ≤ 0x5A := UInt32.le_iff_toNat_le.mp hle.2
    omega
  exact dif_neg hupper

theorem isAlphanumeric_toLower (c : Char) : isAlphanumeric c.toLower = isAlphanumeric c := by
  by_cases h : c.toNat < 0x80
  · exact forall_ascii (P := fun c => isAlphanumeric c.toLower = isAlphanumeric c) (by decide) h
  · rw [toLower_of_le (by omega)]

end Koupang.Text
