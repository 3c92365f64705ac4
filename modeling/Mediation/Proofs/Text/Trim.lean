import Mathlib.Data.List.DropRight
import Mediation.Text.Blank

/-!
This module contains what trimming leaves of a text: the part between blanks that neither begins nor
ends with a blank.
-/

namespace Mediation.Text

/--
The code points of all characters that are blank.
-/
def blanks : List Nat :=
  [0x0009, 0x000A, 0x000B, 0x000C, 0x000D, 0x0020, 0x00A0, 0x1680, 0x2000, 0x2001, 0x2002, 0x2003,
    0x2004, 0x2005, 0x2006, 0x2007, 0x2008, 0x2009, 0x200A, 0x2028, 0x2029, 0x202F, 0x205F, 0x3000,
    0xFEFF]

theorem isBlank_iff_mem_blanks (c : Char) : isBlank c ↔ c.toNat ∈ blanks := by
  simp only [isBlank, blankRanges, blanks, List.any_cons, List.any_nil, Bool.or_eq_true,
    Bool.and_eq_true, decide_eq_true_eq, List.mem_cons, List.not_mem_nil, Bool.false_eq_true,
    or_false]
  omega

example : ['\u0085', '\u180E', '\u200B', '\u2060'].any isBlank = false := by decide

/--
A text consists of a core and the blanks around it.
-/
structure TrimsTo (text core : String) : Prop where
  surrounded :
    ∃ front back,
      text.toList = front ++ core.toList ++ back ∧
        (∀ c ∈ front, isBlank c) ∧ (∀ c ∈ back, isBlank c)
  head : ∀ h : core.toList ≠ [], isBlank (core.toList.head h) = false
  getLast : ∀ h : core.toList ≠ [], isBlank (core.toList.getLast h) = false

theorem trimChars_eq_rdropWhile (cs : List Char) :
    trimChars cs = (cs.dropWhile isBlank).rdropWhile isBlank := by
  rfl

/--
Nothing is left of a text exactly if all of it is blank.
-/
theorem trimChars_eq_nil_iff (cs : List Char) : trimChars cs = [] ↔ ∀ c ∈ cs, isBlank c := by
  rw [trimChars_eq_rdropWhile, List.rdropWhile_eq_nil_iff]
  constructor
  · intro h c hmem
    rw [← List.takeWhile_append_dropWhile (p := isBlank) (l := cs), List.mem_append] at hmem
    rcases hmem with hmem | hmem
    · exact List.mem_takeWhile_imp hmem
    · exact h c hmem
  · intro h c hmem
    exact h c ((List.dropWhile_sublist isBlank).subset hmem)

theorem isBlankText_iff (s : String) : isBlankText s ↔ ∀ c ∈ s.toList, isBlank c := by
  rw [← trimChars_eq_nil_iff]
  simp [isBlankText, trim]

theorem isBlankText_eq_false_iff (s : String) :
    isBlankText s = false ↔ ∃ c ∈ s.toList, isBlank c = false := by
  rw [← Bool.not_eq_true, isBlankText_iff]
  simp

theorem trimChars_isPrefix (cs : List Char) : trimChars cs <+: cs.dropWhile isBlank := by
  rw [trimChars_eq_rdropWhile]
  apply List.rdropWhile_prefix

theorem takeWhile_append_trimChars_append (cs : List Char) :
    cs.takeWhile isBlank ++ trimChars cs ++ (cs.dropWhile isBlank).rtakeWhile isBlank = cs := by
  rw [trimChars_eq_rdropWhile, List.append_assoc, List.rdropWhile_append_rtakeWhile,
    List.takeWhile_append_dropWhile]

theorem head_trimChars (cs : List Char) (h : trimChars cs ≠ []) :
    isBlank ((trimChars cs).head h) = false := by
  rw [(trimChars_isPrefix cs).head h]
  apply List.head_dropWhile_not

theorem getLast_trimChars (cs : List Char) (h : trimChars cs ≠ []) :
    isBlank ((trimChars cs).getLast h) = false := by
  rw [← Bool.not_eq_true]
  exact List.rdropWhile_last_not _ _ h

theorem trimsTo_trim (text : String) : TrimsTo text (trim text) := by
  constructor
  · rw [toList_trim]
    refine ⟨_, _, (takeWhile_append_trimChars_append text.toList).symm, ?_, ?_⟩
    · intro c hmem
      exact List.mem_takeWhile_imp hmem
    · intro c hmem
      exact List.mem_rtakeWhile_imp hmem
  · rw [toList_trim]
    apply head_trimChars
  · rw [toList_trim]
    apply getLast_trimChars

theorem trimChars_of_core_ne_nil {front core back : List Char} (hcore : core ≠ [])
    (hfront : ∀ c ∈ front, isBlank c) (hback : ∀ c ∈ back, isBlank c)
    (hhead : isBlank (core.head hcore) = false) (hlast : isBlank (core.getLast hcore) = false) :
    trimChars (front ++ core ++ back) = core := by
  have hdrop : (front ++ core ++ back).dropWhile isBlank = core ++ back := by
    rw [List.append_assoc, List.dropWhile_append_of_pos hfront]
    cases core with
    | nil => exact absurd rfl hcore
    | cons c core => rw [List.cons_append, List.dropWhile_cons_of_neg (by simpa using hhead)]
  have hback : ∀ c ∈ back.reverse, isBlank c := by simpa using hback
  rw [trimChars_eq_rdropWhile, hdrop, List.rdropWhile, List.reverse_append,
    List.dropWhile_append_of_pos hback]
  apply List.rdropWhile_eq_self_iff.mpr
  intro _
  simp [hlast]

theorem TrimsTo.eq_trim {text core : String} (h : TrimsTo text core) : core = trim text := by
  obtain ⟨front, back, htext, hfront, hback⟩ := h.surrounded
  rw [← String.toList_inj, toList_trim, htext]
  by_cases hcore : core.toList = []
  · rw [hcore]
    symm
    rw [trimChars_eq_nil_iff]
    intro c hmem
    rcases List.mem_append.mp hmem with hmem | hmem
    · exact hfront c (by simpa using hmem)
    · exact hback c hmem
  · symm
    exact trimChars_of_core_ne_nil hcore hfront hback (h.head hcore) (h.getLast hcore)

/--
Trimming a text leaves the one core that the blanks of the text surround.
-/
theorem trim_eq_iff {text core : String} : trim text = core ↔ TrimsTo text core := by
  constructor
  · rintro rfl
    apply trimsTo_trim
  · intro h
    exact h.eq_trim.symm

/--
What trimming leaves is left by another trimming as well.
-/
theorem TrimsTo.trim_core {text core : String} (h : TrimsTo text core) : trim core = core := by
  rw [trim_eq_iff]
  constructor
  · refine ⟨[], [], ?_, ?_, ?_⟩
    · simp
    · apply List.forall_mem_nil
    · apply List.forall_mem_nil
  · exact h.head
  · exact h.getLast

theorem isBlankText_trim (text : String) : isBlankText (trim text) = isBlankText text := by
  unfold isBlankText
  rw [(trimsTo_trim text).trim_core]

theorem TrimsTo.ne_empty_iff {text core : String} (h : TrimsTo text core) :
    core ≠ "" ↔ isBlankText text = false := by
  rw [h.eq_trim]
  simp [isBlankText]

theorem TrimsTo.mem_of_isBlank_eq_false {text core : String} (h : TrimsTo text core) {c : Char}
    (hmem : c ∈ text.toList) (hblank : isBlank c = false) : c ∈ core.toList := by
  obtain ⟨front, back, htext, hfront, hback⟩ := h.surrounded
  rw [htext, List.mem_append, List.mem_append] at hmem
  rcases hmem with (hmem | hmem) | hmem
  · simp [hfront c hmem] at hblank
  · exact hmem
  · simp [hback c hmem] at hblank

end Mediation.Text
