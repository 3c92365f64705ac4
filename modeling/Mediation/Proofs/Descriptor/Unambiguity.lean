import Mathlib.Data.List.Forall2
import Mediation.Proofs.Text.Cut
import Mediation.Signature

/-!
This module contains what can be told from the text form of types and signatures: as long as no name
contains a bracket or a comma, the text determines the tree of names behind it.
-/

namespace Mediation

/--
All types inside a type, at whatever depth, have display names of a kind.
-/
inductive Descriptor.HasNames (isName : String → Prop) : Descriptor → Prop where
  | mk {kind : Kind} {name : String} {arguments : List Descriptor} :
    isName name → (∀ argument ∈ arguments, HasNames isName argument) →
      HasNames isName { kind, name, arguments }

/--
Two types with the same tree of names, whatever the kinds in it.
-/
inductive Descriptor.SameNames : Descriptor → Descriptor → Prop where
  | mk {kind other : Kind} {name : String} {arguments others : List Descriptor} :
    List.Forall₂ SameNames arguments others →
      SameNames { kind, name, arguments } { kind := other, name, arguments := others }

/--
A text that can be told apart from the brackets and commas around it.
-/
structure Text.IsPlain (text : String) : Prop where
  opening : '<' ∉ text.toList
  closing : '>' ∉ text.toList
  comma : ',' ∉ text.toList

/--
A text that ends at the first space behind it as well.
-/
structure Text.IsWord (text : String) : Prop extends Text.IsPlain text where
  ne_empty : text ≠ ""
  space : ' ' ∉ text.toList

instance (text : String) : Decidable (Text.IsPlain text) :=
  decidable_of_iff ('<' ∉ text.toList ∧ '>' ∉ text.toList ∧ ',' ∉ text.toList)
    ⟨fun ⟨hopening, hclosing, hcomma⟩ => ⟨hopening, hclosing, hcomma⟩,
      fun ⟨hopening, hclosing, hcomma⟩ => ⟨hopening, hclosing, hcomma⟩⟩

instance (text : String) : Decidable (Text.IsWord text) :=
  decidable_of_iff (Text.IsPlain text ∧ text ≠ "" ∧ ' ' ∉ text.toList)
    ⟨fun ⟨hplain, hne, hspace⟩ => ⟨hplain, hne, hspace⟩,
      fun ⟨hplain, hne, hspace⟩ => ⟨hplain, hne, hspace⟩⟩

/--
Signatures of which the parts can be told apart in a text.
-/
structure Signature.IsPlain (signature : Signature) : Prop where
  identity : '(' ∉ signature.identity.toList
  returns : signature.returns.HasNames Text.IsWord
  parameters : ∀ parameter ∈ signature.parameters, parameter.HasNames Text.IsWord

namespace Descriptor

open Text (AtEnd)

theorem HasNames.leaf {isName : String → Prop} {kind : Kind} {name : String} (h : isName name) :
    HasNames isName { kind, name, arguments := [] } :=
  .mk h (List.forall_mem_nil _)

theorem HasNames.name {isName : String → Prop} {type : Descriptor} (h : type.HasNames isName) :
    isName type.name := by
  cases h with
  | mk hname _ => exact hname

/--
The arguments of a type in brackets, unless there are none.
-/
def bracketed : List String → String
  | [] => ""
  | texts => "<" ++ ", ".intercalate texts ++ ">"

theorem format_eq (type : Descriptor) :
    type.format = type.name ++ bracketed (type.arguments.map format) := by
  obtain ⟨kind, name, _ | ⟨argument, arguments⟩⟩ := type
  · simp [format, bracketed]
  · simp [format, bracketed, formatEach_eq_map, String.append_assoc]

/--
The characters that types are written with one after the other.
-/
def listed (types : List Descriptor) : List Char :=
  [',', ' '].intercalate (types.map (·.format.toList))

theorem toList_intercalate_format (types : List Descriptor) :
    (", ".intercalate (types.map format)).toList = listed types := by
  rw [String.toList_intercalate, List.map_map]
  rfl

/--
What stands behind the name of a type: its arguments in brackets, if it has any, and what stands
behind the type.
-/
def behindName (arguments : List Descriptor) (rest : List Char) : List Char :=
  match arguments with
  | [] => rest
  | _ => '<' :: listed arguments ++ '>' :: rest

theorem toList_format_append (type : Descriptor) (rest : List Char) :
    type.format.toList ++ rest = type.name.toList ++ behindName type.arguments rest := by
  rw [format_eq, String.toList_append, List.append_assoc]
  cases type.arguments with
  | nil => simp [bracketed, behindName]
  | cons argument arguments =>
    simp [bracketed, behindName, ← toList_intercalate_format]

/--
What stands behind the first of several types: the others, and what stands behind all of them.
-/
def behindFirst (types : List Descriptor) (rest : List Char) : List Char :=
  match types with
  | [] => rest
  | _ => ',' :: ' ' :: listed types ++ rest

theorem listed_cons_append (type : Descriptor) (types : List Descriptor) (rest : List Char) :
    listed (type :: types) ++ rest = type.format.toList ++ behindFirst types rest := by
  cases types with
  | nil => simp [listed, behindFirst]
  | cons second types => simp [listed, behindFirst, List.intercalate_cons_cons]

theorem listed_ne_nil {types : List Descriptor} (hne : types ≠ [])
    (h : ∀ type ∈ types, type.name ≠ "") : listed types ≠ [] := by
  cases types with
  | nil => exact absurd rfl hne
  | cons type types =>
    rw [List.forall_mem_cons] at h
    rw [← List.append_nil (listed _), listed_cons_append, toList_format_append]
    simp [h.1]

/--
The characters that end a name wherever the name of a type is written, and those that end the type.
-/
structure Delimits (isName : String → Prop) (isEnd : Char → Prop) : Prop where
  comma : isEnd ','
  closing : isEnd '>'
  not_opening : ¬isEnd '<'
  name : ∀ name, isName name → ∀ c ∈ name.toList, ¬(c = '<' ∨ isEnd c)

/--
Whether the tree of names of a type can be told from its text form, and where the text form ends.
-/
def IsDetermined (isName : String → Prop) (isEnd : Char → Prop) (type : Descriptor) : Prop :=
  ∀ other rest otherRest,
    other.HasNames isName → AtEnd isEnd rest → AtEnd isEnd otherRest →
      type.format.toList ++ rest = other.format.toList ++ otherRest →
        type.SameNames other ∧ rest = otherRest

variable {isName : String → Prop} {isEnd : Char → Prop} {rest otherRest : List Char}

theorem Delimits.atEnd_behindFirst (hdelimits : Delimits isName isEnd) (types : List Descriptor)
    (h : AtEnd (· = '>') rest) : AtEnd isEnd (behindFirst types rest) := by
  cases types with
  | nil =>
    refine h.mono ?_
    rintro _ rfl
    exact hdelimits.closing
  | cons type types => exact Text.atEnd_cons_iff.mpr hdelimits.comma

theorem atEnd_behindName (arguments : List Descriptor) (h : AtEnd isEnd rest) :
    AtEnd (fun c => c = '<' ∨ isEnd c) (behindName arguments rest) := by
  cases arguments with
  | nil => exact h.mono fun _ => .inr
  | cons argument arguments => exact Text.atEnd_cons_iff.mpr (.inl rfl)

theorem Delimits.forall₂_of_listed_eq (hdelimits : Delimits isName isEnd)
    {types others : List Descriptor} (htypes : ∀ type ∈ types, type.IsDetermined isName isEnd)
    (hothers : ∀ other ∈ others, other.HasNames isName) (htypesNe : types ≠ [])
    (hothersNe : others ≠ []) (hrest : AtEnd (· = '>') rest)
    (hotherRest : AtEnd (· = '>') otherRest)
    (h : listed types ++ rest = listed others ++ otherRest) :
    List.Forall₂ SameNames types others ∧ rest = otherRest := by
  induction types generalizing others with
  | nil => exact absurd rfl htypesNe
  | cons type types ih =>
    cases others with
    | nil => exact absurd rfl hothersNe
    | cons other others =>
      rw [List.forall_mem_cons] at htypes hothers
      rw [listed_cons_append, listed_cons_append] at h
      have hend := hdelimits.atEnd_behindFirst types hrest
      have hotherEnd := hdelimits.atEnd_behindFirst others hotherRest
      obtain ⟨hsame, hbehind⟩ := htypes.1 other _ _ hothers.1 hend hotherEnd h
      cases types with
      | nil =>
        cases others with
        | nil => exact ⟨.cons hsame .nil, hbehind⟩
        | cons second others => cases hrest.stop_of_eq_cons hbehind
      | cons next types =>
        cases others with
        | nil => cases hotherRest.stop_of_eq_cons hbehind.symm
        | cons second others =>
          have hlisted := (List.cons.inj (List.cons.inj hbehind).2).2
          obtain ⟨hforall, heq⟩ := ih htypes.2 hothers.2 nofun nofun hlisted
          exact ⟨.cons hsame hforall, heq⟩

theorem Delimits.isDetermined (hdelimits : Delimits isName isEnd) {type : Descriptor}
    (h : type.HasNames isName) : type.IsDetermined isName isEnd := by
  induction h with
  | @mk kind name arguments hname _ ih =>
    rintro ⟨otherKind, otherName, others⟩ rest otherRest ⟨hotherName, hothers⟩ hend hotherEnd h
    rw [toList_format_append, toList_format_append] at h
    obtain ⟨hnames, hbehind⟩ :=
      Text.eq_of_append_eq _ (hdelimits.name _ hname) (hdelimits.name _ hotherName)
        (atEnd_behindName arguments hend) (atEnd_behindName others hotherEnd) h
    obtain rfl := String.toList_inj.mp hnames
    cases arguments with
    | nil =>
      cases others with
      | nil => exact ⟨.mk .nil, hbehind⟩
      | cons other others =>
        exact absurd (hend.stop_of_eq_cons hbehind) hdelimits.not_opening
    | cons argument arguments =>
      cases others with
      | nil =>
        exact absurd (hotherEnd.stop_of_eq_cons hbehind.symm) hdelimits.not_opening
      | cons other others =>
        have hlisted := (List.cons.inj hbehind).2
        obtain ⟨hforall, hrest⟩ :=
          hdelimits.forall₂_of_listed_eq ih hothers nofun nofun (Text.atEnd_cons_iff.mpr rfl)
            (Text.atEnd_cons_iff.mpr rfl) hlisted
        exact ⟨.mk hforall, (List.cons.inj hrest).2⟩

theorem map_format_eq_of_forall₂ {types others : List Descriptor}
    (htypes : ∀ type ∈ types, ∀ other, type.SameNames other → type.format = other.format)
    (h : List.Forall₂ SameNames types others) : types.map format = others.map format := by
  induction h with
  | nil => rfl
  | cons hsame _ ih =>
    rw [List.forall_mem_cons] at htypes
    rw [List.map_cons, List.map_cons, htypes.1 _ hsame, ih htypes.2]

theorem format_eq_of_sameNames {type : Descriptor} (h : type.HasNames isName) :
    ∀ other, type.SameNames other → type.format = other.format := by
  induction h with
  | mk _ _ ih =>
    rintro _ ⟨hforall⟩
    rw [format_eq, format_eq, map_format_eq_of_forall₂ ih hforall]

theorem delimits_isPlain : Delimits Text.IsPlain fun c => c = ',' ∨ c = '>' := by
  constructor
  · decide
  · decide
  · decide
  · rintro name hplain c hmem (rfl | rfl | rfl)
    · exact hplain.opening hmem
    · exact hplain.comma hmem
    · exact hplain.closing hmem

theorem delimits_isWord : Delimits Text.IsWord fun c => c = ' ' ∨ c = ',' ∨ c = '>' := by
  constructor
  · decide
  · decide
  · decide
  · rintro name hword c hmem (rfl | rfl | hend)
    · exact hword.opening hmem
    · exact hword.space hmem
    · exact delimits_isPlain.name name hword.toIsPlain c hmem (.inr hend)

theorem format_eq_iff {left right : Descriptor} (hleft : left.HasNames Text.IsPlain)
    (hright : right.HasNames Text.IsPlain) : left.format = right.format ↔ left.SameNames right := by
  constructor
  · intro h
    have hchars : left.format.toList ++ [] = right.format.toList ++ [] := by rw [h]
    exact (delimits_isPlain.isDetermined hleft right [] [] hright Text.atEnd_nil Text.atEnd_nil
      hchars).1
  · exact format_eq_of_sameNames hleft right

end Descriptor

namespace Signature

theorem format_eq (signature : Signature) :
    signature.format =
      signature.returns.format ++ " " ++ signature.identity ++
        "(" ++ ", ".intercalate (signature.parameters.map Descriptor.format) ++ ")" := by
  unfold format
  rw [Descriptor.formatEach_eq_map]

theorem toList_format (signature : Signature) :
    signature.format.toList =
      signature.returns.format.toList ++
        ' ' :: (signature.identity.toList ++
          '(' :: (Descriptor.listed signature.parameters ++ [')'])) := by
  rw [format_eq]
  simp [← Descriptor.toList_intercalate_format]

variable {left right : Signature}

theorem forall₂_of_listed_eq {types others : List Descriptor}
    (htypes : ∀ type ∈ types, type.HasNames Text.IsWord)
    (hothers : ∀ other ∈ others, other.HasNames Text.IsWord)
    (h : Descriptor.listed types = Descriptor.listed others) :
    List.Forall₂ Descriptor.SameNames types others := by
  have hname {type : Descriptor} (htype : type.HasNames Text.IsWord) : type.name ≠ "" :=
    htype.name.ne_empty
  by_cases hnil : types = []
  · subst hnil
    have hothersNil : others = [] := by
      by_contra hne
      exact Descriptor.listed_ne_nil hne (fun other hmem => hname (hothers other hmem)) h.symm
    rw [hothersNil]
    exact .nil
  · have hothersNe : others ≠ [] := by
      rintro rfl
      exact Descriptor.listed_ne_nil hnil (fun type hmem => hname (htypes type hmem)) h
    have happend := congrArg (· ++ []) h
    exact (Descriptor.delimits_isWord.forall₂_of_listed_eq
      (fun type hmem => Descriptor.delimits_isWord.isDetermined (htypes type hmem)) hothers hnil
      hothersNe Text.atEnd_nil Text.atEnd_nil happend).1

theorem format_eq_iff (hleft : left.IsPlain) (hright : right.IsPlain) :
    left.format = right.format ↔
      left.identity = right.identity ∧ left.returns.SameNames right.returns ∧
        List.Forall₂ Descriptor.SameNames left.parameters right.parameters := by
  constructor
  · intro h
    rw [← String.toList_inj, toList_format, toList_format] at h
    obtain ⟨hreturns, hrest⟩ :=
      Descriptor.delimits_isWord.isDetermined hleft.returns right.returns _ _ hright.returns
        (Text.atEnd_cons_iff.mpr (.inl rfl)) (Text.atEnd_cons_iff.mpr (.inl rfl)) h
    obtain ⟨hidentity, hparameters⟩ :=
      Text.eq_of_notMem_left hleft.identity hright.identity (List.cons.inj hrest).2
    refine ⟨String.toList_inj.mp hidentity, hreturns, ?_⟩
    apply forall₂_of_listed_eq hleft.parameters hright.parameters
    exact List.append_cancel_right hparameters
  · rintro ⟨hidentity, hreturns, hparameters⟩
    have hmap := Descriptor.map_format_eq_of_forall₂
      (fun type hmem => Descriptor.format_eq_of_sameNames (hleft.parameters type hmem)) hparameters
    rw [format_eq, format_eq, hidentity, hmap,
      Descriptor.format_eq_of_sameNames hleft.returns _ hreturns]

/--
The text form of a type tells the names of all types in it, and that of a signature tells the
identity and the names of all its types as well. The kinds are all that it leaves open.
-/
theorem format_determines_names :
    (∀ left right : Descriptor,
      left.HasNames Text.IsPlain → right.HasNames Text.IsPlain →
        (left.format = right.format ↔ left.SameNames right)) ∧
    (∀ left right : Signature,
      left.IsPlain → right.IsPlain →
        (left.format = right.format ↔
          left.identity = right.identity ∧ left.returns.SameNames right.returns ∧
            List.Forall₂ Descriptor.SameNames left.parameters right.parameters)) := by
  constructor
  · intro left right hleft hright
    exact Descriptor.format_eq_iff hleft hright
  · intro left right hleft hright
    exact format_eq_iff hleft hright

theorem format_determines_names_of_parentheses :
    let left : Descriptor := ⟨.payload, "", [⟨.void, "", []⟩, ⟨.stream, " Tick", []⟩]⟩
    let right : Descriptor := ⟨.async, "", [⟨.payload, "", []⟩, ⟨.payload, " Tick", []⟩]⟩
    let signature (kind : Kind) : Signature :=
      {
        identity := "Prices > all#emit)"
        returns := ⟨kind, "(Ticks", [⟨kind, "Tick", []⟩, ⟨.void, "void", []⟩]⟩
        parameters := [⟨kind, "Tick)", []⟩]
      }
    (left.HasNames Text.IsPlain ∧ right.HasNames Text.IsPlain ∧ left.SameNames right) ∧
      (signature .stream).IsPlain ∧ (signature .async).IsPlain ∧
        (signature .stream).returns.SameNames (signature .async).returns := by
  intro left right signature
  have hpair {isName : String → Prop} (kind : Kind) {name : String} {first second : Descriptor}
      (h : isName name) (hfirst : first.HasNames isName) (hsecond : second.HasNames isName) :
      Descriptor.HasNames isName ⟨kind, name, [first, second]⟩ := by
    refine .mk h ?_
    rw [List.forall_mem_cons, List.forall_mem_singleton]
    exact ⟨hfirst, hsecond⟩
  have hleft : left.HasNames Text.IsPlain :=
    hpair _ (by decide) (.leaf (by decide)) (.leaf (by decide))
  have hright : right.HasNames Text.IsPlain :=
    hpair _ (by decide) (.leaf (by decide)) (.leaf (by decide))
  have hidentity : '(' ∉ "Prices > all#emit)".toList := by decide
  have hsignature (kind : Kind) : (signature kind).IsPlain := by
    constructor
    · exact hidentity
    · exact hpair _ (by decide) (.leaf (by decide)) (.leaf (by decide))
    · rw [List.forall_mem_singleton]
      exact .leaf (by decide)
  obtain ⟨htypes, hsignatures⟩ := format_determines_names
  have hsame := (htypes left right hleft hright).mp rfl
  have hsameSignature := (hsignatures _ _ (hsignature .stream) (hsignature .async)).mp rfl
  exact ⟨⟨hleft, hright, hsame⟩, hsignature _, hsignature _, hsameSignature.2.1⟩

end Signature

end Mediation
