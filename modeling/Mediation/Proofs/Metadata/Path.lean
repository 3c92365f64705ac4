import Mediation.Proofs.Metadata.Schema
import Mediation.Proofs.Text.Cut

/-!
This module contains the text form of positions. Along the fields of a schema and the elements of an
array no segment contains the separator, so that different positions are written differently.
-/

namespace Mediation.Metadata

/--
A segment whose text can be told apart from the text of a path around it.
-/
structure Segment.IsPlain (segment : Segment) : Prop where
  ne_empty : segment.format ≠ ""
  separator_notMem : '.' ∉ segment.format.toList

theorem Segment.isPlain_index (position : Nat) : (index position).IsPlain := by
  constructor
  · simp [format]
  · exact Text.notMem_toString (by decide) position

theorem Schema.isPlain_of_mem_fields {schema target : Schema} {presence : Presence}
    {key : String} (h : (key, presence, target) ∈ schema.fields) :
    (Segment.field key).IsPlain := by
  have hkeys :
      ∀ key ∈ schema.fields.map Prod.fst,
        Segment.format (.field key) ≠ "" ∧ '.' ∉ (Segment.format (.field key)).toList := by
    cases schema <;> simp [fields, Segment.format]
  obtain ⟨hne, hnotMem⟩ := hkeys key (List.mem_map_of_mem h)
  exact ⟨hne, hnotMem⟩

theorem ViolatedAt.isPlain {presence : Presence} {schema : Schema} {input : Option Json}
    {path : Path} {cause : Cause} (h : ViolatedAt presence schema input path cause) :
    ∀ segment ∈ path, segment.IsPlain := by
  induction h with
  | missing => simp
  | here => simp
  | field hmem _ ih =>
    rw [List.forall_mem_cons]
    exact ⟨Schema.isPlain_of_mem_fields hmem, ih⟩
  | element _ _ ih =>
    rw [List.forall_mem_cons]
    exact ⟨Segment.isPlain_index _, ih⟩

namespace Path

variable {path left right : Path}

theorem separator_notMem (hplain : ∀ segment ∈ path, segment.IsPlain) :
    ∀ text ∈ path.map Segment.format, '.' ∉ text.toList := by
  rw [List.forall_mem_map]
  intro segment hmem
  exact (hplain segment hmem).separator_notMem

theorem splitOn_format (hplain : ∀ segment ∈ path, segment.IsPlain) (hne : path ≠ []) :
    path.format.toList.splitOn '.' = (path.map Segment.format).map String.toList := by
  apply Text.splitOn_intercalate rfl
  · exact separator_notMem hplain
  · simpa using hne

theorem map_format_eq_of_format_eq (hleft : ∀ segment ∈ left, segment.IsPlain)
    (hright : ∀ segment ∈ right, segment.IsPlain) (hleftNe : left ≠ []) (hrightNe : right ≠ [])
    (h : left.format = right.format) : left.map Segment.format = right.map Segment.format := by
  refine Text.eq_of_intercalate_eq ?_ (separator_notMem hleft) (separator_notMem hright) ?_ ?_ h
  · rfl
  · simpa using hleftNe
  · simpa using hrightNe

theorem eq_nil_of_format_eq (hplain : ∀ segment ∈ path, segment.IsPlain) (h : path.format = "") :
    path = [] := by
  cases path with
  | nil => rfl
  | cons segment path =>
    have hsplit := splitOn_format hplain (List.cons_ne_nil _ _)
    rw [h] at hsplit
    have hempty : segment.format.toList = [] := by simpa using (List.cons.inj hsplit).1.symm
    exact absurd (by simpa using hempty) (hplain segment List.mem_cons_self).ne_empty

end Path

theorem Precedes.map_format_ne {schema : Schema} {left right : Path}
    (h : Precedes schema left right) : left.map Segment.format ≠ right.map Segment.format := by
  induction h with
  | fields hsublist => simp [Segment.format, Schema.key_ne_of_sublist hsublist]
  | elements hlt =>
    have hne := Nat.ne_of_lt hlt
    simp [Segment.format, hne]
  | insideField _ _ ih => simpa using ih
  | insideElement _ ih => simpa using ih

/--
Of two positions that are visited one after the other, the written forms differ.
-/
theorem Precedes.format_ne {schema : Schema} {left right : Path} (h : Precedes schema left right)
    (hleft : ∀ segment ∈ left, segment.IsPlain) (hright : ∀ segment ∈ right, segment.IsPlain) :
    left.format ≠ right.format := by
  intro heq
  obtain ⟨hleftNe, hrightNe⟩ := h.ne_nil
  exact h.map_format_ne (Path.map_format_eq_of_format_eq hleft hright hleftNe hrightNe heq)

end Mediation.Metadata
