import Mathlib.Data.List.ReduceOption
import Mediation.Fault

/-!
This module contains what becomes of type arguments that are omitted when a type is constructed.
Those behind the last declared argument vanish, and the first one in front of a declared argument is
what the construction fails at.
-/

namespace Mediation.Descriptor

/--
An argument is omitted although another one behind it, at whatever distance, is declared.
-/
def LeavesGap (arguments : List (Option Descriptor)) : Prop :=
  ∃ omitted declared : Nat,
    omitted < declared ∧ arguments[omitted]? = some none ∧
      ∃ type, arguments[declared]? = some (some type)

structure IsFirstOmitted (arguments : List (Option Descriptor)) (position : Nat) : Prop where
  omitted : arguments[position]? = some none
  declared : ∀ earlier < position, ∃ type, arguments[earlier]? = some (some type)

/--
The two ways in which arguments can be laid out behind those that are declared from the start.
-/
inductive Layout : List (Option Descriptor) → Prop where
  | closed (types : List Descriptor) (omitted : Nat) :
    Layout (types.map some ++ List.replicate omitted none)
  | gap (types : List Descriptor) {behind : List (Option Descriptor)} {type : Descriptor} :
    some type ∈ behind → Layout (types.map some ++ none :: behind)

theorem layout (arguments : List (Option Descriptor)) : Layout arguments := by
  induction arguments with
  | nil => exact .closed [] 0
  | cons argument arguments ih =>
    cases argument with
    | none =>
      by_cases hdeclared : ∃ type, some type ∈ arguments
      · obtain ⟨type, hmem⟩ := hdeclared
        exact .gap [] hmem
      · have hnone : arguments = List.replicate arguments.length none := by
          apply List.eq_replicate_of_mem
          intro argument hmem
          rw [Option.eq_none_iff_forall_ne_some]
          rintro type rfl
          exact hdeclared ⟨type, hmem⟩
        rw [hnone]
        exact .closed [] (arguments.length + 1)
    | some type =>
      cases ih with
      | closed types omitted => exact .closed (type :: types) omitted
      | gap types hmem => exact .gap (type :: types) hmem

/--
Once an argument has been omitted, nothing more is collected, and a declared argument is a fault.
-/
theorem named.go_of_length_lt (name : String) {position : Nat} {declared : List Descriptor}
    (h : declared.length < position) (arguments : List (Option Descriptor)) :
    go name position declared arguments =
      if arguments.any Option.isSome then .error { name, index := declared.length }
      else .ok declared := by
  induction arguments generalizing position with
  | nil => rfl
  | cons argument arguments ih =>
    cases argument with
    | none =>
      rw [go, ih (by omega)]
      simp
    | some type =>
      rw [go, if_pos (by omega)]
      rfl

variable {kind : Kind} {name : String} {types : List Descriptor}
  {arguments behind : List (Option Descriptor)} {position : Nat}

theorem named_map_some_append_none_cons :
    named kind name (types.map some ++ none :: behind) =
      if behind.any Option.isSome then .error { name, index := types.length }
      else .ok { kind, name, arguments := types } := by
  have hgo := named.go_map_some_append name [] types (none :: behind)
  rw [List.length_nil, List.nil_append] at hgo
  unfold named
  rw [hgo, named.go, named.go_of_length_lt name (Nat.lt_succ_self _)]
  split <;> rfl

theorem named_closed (omitted : Nat) :
    named kind name (types.map some ++ List.replicate omitted none) =
      .ok { kind, name, arguments := types } := by
  cases omitted with
  | zero => simpa using named_map_some kind name types
  | succ omitted =>
    rw [List.replicate_succ, named_map_some_append_none_cons, if_neg (by simp)]

theorem named_gap {type : Descriptor} (h : some type ∈ behind) :
    named kind name (types.map some ++ none :: behind) =
      .error { name, index := types.length } := by
  have hany : behind.any Option.isSome := List.any_eq_true.mpr ⟨_, h, rfl⟩
  rw [named_map_some_append_none_cons, if_pos hany]

theorem getElem?_closed (omitted index : Nat) :
    (types.map some ++ List.replicate omitted none)[index]?.join = types[index]? := by
  rcases Nat.lt_or_ge index types.length with hlt | hge
  · rw [List.getElem?_append_left (by simpa using hlt), List.getElem?_map]
    cases types[index]? <;> rfl
  · rw [List.getElem?_append_right (by simpa using hge), List.getElem?_eq_none hge,
      List.getElem?_replicate]
    split <;> rfl

theorem not_leavesGap_closed (types : List Descriptor) (omitted : Nat) :
    ¬LeavesGap (types.map some ++ List.replicate omitted none) := by
  rintro ⟨first, second, hlt, hfirst, type, hsecond⟩
  have hnone : types[first]? = none := by
    rw [← getElem?_closed omitted first, hfirst]
    rfl
  have hsome : types[second]? = some type := by
    rw [← getElem?_closed omitted second, hsecond]
    rfl
  have hle := List.getElem?_eq_none_iff.mp hnone
  obtain ⟨hgt, _⟩ := List.getElem?_eq_some_iff.mp hsome
  omega

theorem leavesGap_gap (types : List Descriptor) {type : Descriptor} (h : some type ∈ behind) :
    LeavesGap (types.map some ++ none :: behind) := by
  obtain ⟨distance, hget⟩ := List.getElem?_of_mem h
  refine ⟨types.length, types.length + (distance + 1), by omega, ?_, type, ?_⟩
  · simp
  · rw [List.getElem?_append_right (by simp)]
    simpa using hget

theorem isFirstOmitted_iff :
    IsFirstOmitted (types.map some ++ none :: behind) position ↔ position = types.length := by
  have hfirst : IsFirstOmitted (types.map some ++ none :: behind) types.length := by
    constructor
    · simp
    · intro earlier hlt
      refine ⟨types[earlier], ?_⟩
      rw [List.getElem?_append_left (by simpa using hlt)]
      simp
  constructor
  · intro h
    -- Of two first omissions neither can come before the other.
    rcases Nat.lt_trichotomy position types.length with hlt | heq | hgt
    · obtain ⟨type, hdeclared⟩ := hfirst.declared position hlt
      rw [h.omitted] at hdeclared
      cases hdeclared
    · exact heq
    · obtain ⟨type, hdeclared⟩ := h.declared types.length hgt
      rw [hfirst.omitted] at hdeclared
      cases hdeclared
  · rintro rfl
    exact hfirst

theorem IsFirstOmitted.countP_take (h : IsFirstOmitted arguments position) :
    (arguments.take position).countP Option.isSome = position := by
  obtain ⟨hlength, _⟩ := List.getElem?_eq_some_iff.mp h.omitted
  have hall : ∀ argument ∈ arguments.take position, argument.isSome := by
    intro argument hmem
    obtain ⟨earlier, hget⟩ := List.getElem?_of_mem hmem
    rw [List.getElem?_take] at hget
    split at hget
    next hlt =>
      obtain ⟨type, hdeclared⟩ := h.declared earlier hlt
      rw [hdeclared] at hget
      cases hget
      rfl
    next => cases hget
  rw [List.countP_eq_length.mpr hall, List.length_take]
  omega

theorem reduceOption_closed (omitted : Nat) :
    (types.map some ++ List.replicate omitted none).reduceOption = types := by
  rw [List.reduceOption_append, List.reduceOption_replicate_none, List.append_nil]
  simp [List.reduceOption, List.filterMap_map]

/--
The fault of omitting arguments in front of a declared one. However many of them there are, only the
first is reported.
-/
structure ReportsFirst (name : String) (arguments : List (Option Descriptor)) (position : Nat)
    (fault : Fault) : Prop where
  first : IsFirstOmitted arguments position
  countP_eq : (arguments.take position).countP Option.isSome = position
  fault_eq :
    fault =
      .invalid ("type arguments of " ++ name)
        [⟨toString position, "omitted before a declared type argument"⟩]
  code_eq : fault.code = "INVALID_DESCRIPTOR"
  message_eq :
    fault.message =
      "Invalid type arguments of " ++ name ++ ": " ++ toString position ++
        ": omitted before a declared type argument"

/--
What a construction makes of its arguments.
-/
structure Constructs (kind : Kind) (name : String) (arguments : List (Option Descriptor))
    (result : Except Gap Descriptor) : Prop where
  ok_iff :
    ∀ type,
      result = .ok type ↔
        ¬LeavesGap arguments ∧ type = { kind, name, arguments := arguments.reduceOption }
  /-- An argument that is omitted, or lies behind all that are given, is not there in the type. -/
  argument?_eq :
    ∀ type, result = .ok type → ∀ index, type.argument? index = arguments[index]?.join
  error_iff :
    ∀ fault,
      result.mapError Fault.ofGap = .error fault ↔
        LeavesGap arguments ∧ ∃ position, ReportsFirst name arguments position fault

theorem reportsFirst_ofGap (h : IsFirstOmitted arguments position) :
    ReportsFirst name arguments position (.ofGap { name, index := position }) := by
  constructor
  · exact h
  · exact h.countP_take
  · rfl
  · rfl
  · have hsubject :
        "Invalid " ++ ("type arguments of " ++ name) = "Invalid type arguments of " ++ name := by
      rw [← String.append_assoc]
      rfl
    rw [Fault.ofGap, Fault.message_invalid_singleton (by simp), hsubject, String.append_assoc]
    rfl

theorem named_constructs (kind : Kind) (name : String) (arguments : List (Option Descriptor)) :
    Constructs kind name arguments (named kind name arguments) := by
  cases layout arguments with
  | closed types omitted =>
    have hclosed := not_leavesGap_closed types omitted
    rw [named_closed]
    constructor
    · intro type
      rw [reduceOption_closed, Except.ok.injEq]
      constructor
      · rintro rfl
        exact ⟨hclosed, rfl⟩
      · rintro ⟨_, rfl⟩
        rfl
    · rintro _ ⟨⟩ index
      exact (getElem?_closed omitted index).symm
    · intro fault
      constructor
      · rintro ⟨⟩
      · rintro ⟨hgap, _⟩
        exact absurd hgap hclosed
  | gap types hmem =>
    have hgap := leavesGap_gap types hmem
    rw [named_gap hmem]
    constructor
    · intro type
      constructor
      · rintro ⟨⟩
      · rintro ⟨hclosed, _⟩
        exact absurd hgap hclosed
    · rintro _ ⟨⟩
    · intro fault
      constructor
      · rintro ⟨⟩
        exact ⟨hgap, _, reportsFirst_ofGap (isFirstOmitted_iff.mpr rfl)⟩
      · rintro ⟨_, position, hreports⟩
        rw [isFirstOmitted_iff.mp hreports.first] at hreports
        rw [hreports.fault_eq]
        rfl

/--
A construction succeeds unless an argument is omitted in front of a declared one. Exactly the
trailing omissions vanish then, and the declared arguments keep their positions.
-/
theorem trailing_omissions_vanish :
    (∀ kind name arguments, Constructs kind name arguments (named kind name arguments)) ∧
    (∀ payload,
      Constructs .envelope "Message" [payload] (envelope payload) ∧
        ∃ type, envelope payload = .ok type) ∧
    (∀ value,
      Constructs .async "Promise" [value] (async value) ∧ ∃ type, async value = .ok type) ∧
    (∀ element,
      Constructs .stream "Publisher" [element] (stream element) ∧
        ∃ type, stream element = .ok type) ∧
    (∀ element,
      Constructs .streamBuilder "PublisherBuilder" [element] (streamBuilder element) ∧
        ∃ type, streamBuilder element = .ok type) ∧
    (∀ element,
      Constructs .subscriber "Subscriber" [element] (subscriber element) ∧
        ∃ type, subscriber element = .ok type) ∧
    (∀ input output,
      Constructs .processor "Processor" [input, output] (processor input output)) ∧
    (∀ input output,
      Constructs .processorBuilder "ProcessorBuilder" [input, output]
        (processorBuilder input output)) := by
  have hsingle (kind : Kind) (argument : Option Descriptor) :
      Constructs kind kind.defaultName [argument] (ofKind kind [argument]) ∧
        ∃ type, ofKind kind [argument] = .ok type :=
    ⟨named_constructs _ _ _, _, named_singleton _ _ _⟩
  refine ⟨named_constructs, ?_, ?_, ?_, ?_, ?_, ?_, ?_⟩
  · exact hsingle .envelope
  · exact hsingle .async
  · exact hsingle .stream
  · exact hsingle .streamBuilder
  · exact hsingle .subscriber
  · intro input output
    apply named_constructs
  · intro input output
    apply named_constructs

example :
    named .payload "Order" [some void, none, some payload, none, some void, none] =
      .error { name := "Order", index := 1 } := by
  rfl

end Mediation.Descriptor
