import Mathlib.Data.List.Basic
import Std.Data.String.ToNat

/-!
This module contains the cutting of texts at the characters that stand between their parts. Parts in
which these characters do not occur are determined by the text that they are put together to.
-/

namespace Mediation.Text

/--
Whether a text is at an end: nothing is left of it, or what is left begins with a character that no
part contains.
-/
def AtEnd (stop : Char → Prop) (cs : List Char) : Prop :=
  ∀ c ∈ cs.head?, stop c

variable {stop : Char → Prop} {left right leftRest rightRest : List Char}

theorem atEnd_nil : AtEnd stop [] := by
  simp [AtEnd]

@[simp]
theorem atEnd_cons_iff {c : Char} {cs : List Char} : AtEnd stop (c :: cs) ↔ stop c := by
  simp [AtEnd]

theorem AtEnd.mono {weaker : Char → Prop} {cs : List Char} (h : AtEnd stop cs)
    (hweaker : ∀ c, stop c → weaker c) : AtEnd weaker cs := by
  intro c hmem
  exact hweaker c (h c hmem)

theorem AtEnd.stop_of_eq_cons {c : Char} {cs rest : List Char} (h : AtEnd stop cs)
    (heq : cs = c :: rest) : stop c := by
  rw [heq, atEnd_cons_iff] at h
  exact h

/--
The part up to the first character that no part contains is determined, and so is what is left.
-/
theorem eq_of_append_eq (stop : Char → Prop) (hleft : ∀ c ∈ left, ¬stop c)
    (hright : ∀ c ∈ right, ¬stop c) (hleftEnd : AtEnd stop leftRest)
    (hrightEnd : AtEnd stop rightRest) (h : left ++ leftRest = right ++ rightRest) :
    left = right ∧ leftRest = rightRest := by
  induction left generalizing right with
  | nil =>
    cases right with
    | nil => exact ⟨rfl, h⟩
    | cons c right =>
      rw [List.nil_append, List.cons_append] at h
      exact absurd (hleftEnd.stop_of_eq_cons h) (hright c List.mem_cons_self)
  | cons c left ih =>
    cases right with
    | nil =>
      rw [List.nil_append, List.cons_append] at h
      exact absurd (hrightEnd.stop_of_eq_cons h.symm) (hleft c List.mem_cons_self)
    | cons d right =>
      rw [List.forall_mem_cons] at hleft hright
      obtain ⟨rfl, hrest⟩ := List.cons.inj h
      obtain ⟨rfl, heq⟩ := ih hleft.2 hright.2 hrest
      exact ⟨rfl, heq⟩

theorem eq_of_notMem_left {c : Char} (hleft : c ∉ left) (hright : c ∉ right)
    (h : left ++ c :: leftRest = right ++ c :: rightRest) :
    left = right ∧ leftRest = rightRest := by
  have hcut := eq_of_append_eq (· = c) ?_ ?_ (atEnd_cons_iff.mpr rfl) (atEnd_cons_iff.mpr rfl) h
  · exact ⟨hcut.1, (List.cons.inj hcut.2).2⟩
  · rintro d hmem rfl
    exact hleft hmem
  · rintro d hmem rfl
    exact hright hmem

theorem eq_of_notMem_right {c : Char} (hleft : c ∉ leftRest) (hright : c ∉ rightRest)
    (h : left ++ c :: leftRest = right ++ c :: rightRest) :
    left = right ∧ leftRest = rightRest := by
  have hreverse :
      leftRest.reverse ++ c :: left.reverse = rightRest.reverse ++ c :: right.reverse := by
    simpa using congrArg List.reverse h
  rw [← List.mem_reverse] at hleft hright
  obtain ⟨hrest, hfront⟩ := eq_of_notMem_left hleft hright hreverse
  exact ⟨List.reverse_inj.mp hfront, List.reverse_inj.mp hrest⟩

section Joined

variable {separator : String} {c : Char} {texts others : List String}

theorem splitOn_intercalate (hseparator : separator.toList = [c])
    (h : ∀ text ∈ texts, c ∉ text.toList) (hne : texts ≠ []) :
    (separator.intercalate texts).toList.splitOn c = texts.map String.toList := by
  rw [String.toList_intercalate, hseparator, List.splitOn_intercalate]
  · rw [List.forall_mem_map]
    exact h
  · simpa using hne

theorem eq_of_intercalate_eq (hseparator : separator.toList = [c])
    (htexts : ∀ text ∈ texts, c ∉ text.toList) (hothers : ∀ text ∈ others, c ∉ text.toList)
    (htextsNe : texts ≠ []) (hothersNe : others ≠ [])
    (h : separator.intercalate texts = separator.intercalate others) : texts = others := by
  have hsplit := splitOn_intercalate hseparator htexts htextsNe
  rw [h, splitOn_intercalate hseparator hothers hothersNe] at hsplit
  exact (List.map_inj_right fun _ _ => String.toList_inj.mp).mp hsplit.symm

end Joined

/--
A literal is its characters by definition, so that none of them has to be decoded.
-/
theorem notMem_of_eq_ofList {text : String} {c : Char} {cs : List Char}
    (h : text = String.ofList cs) (hc : c ∉ cs) : c ∉ text.toList := by
  rw [h, String.toList_ofList]
  exact hc

theorem notMem_toString {c : Char} (h : c.isDigit = false) (n : Nat) :
    c ∉ (toString n).toList := by
  intro hmem
  have hdigit : c ∈ Nat.toDigits 10 n := by simpa using hmem
  rw [Nat.isDigit_of_mem_toDigits (by decide) (by decide) hdigit] at h
  cases h

end Mediation.Text
