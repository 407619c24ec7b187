import CommandManual.Command.Definition
import CommandManual.Proofs.Outcome

/-!
# What the reading of an entry can fail with

Every step of reading an entry fails in few ways. What holds of these holds of whatever the step
fails with, and a command is read by such steps one after the other. So a statement about all faults
of a command is one about the reasons that concern its fields, its keys, and the items of its lists.

## Main definitions

* `Definition.Reason.IsAbout`: a reason that concerns the field of one of some keys.

## Main results

* `Definition.failsOnly_text` and its like for the other kinds of fields.
* `Definition.failsOnly_readAll`: the faults of the items of a list.
* `Definition.failsOnly_definedHead`, `Definition.failsOnly_definedTail`: the faults of a command.
-/

namespace CommandManual

namespace Definition

open Except

/-- The reason is that a field of one of some keys has a value of another kind. -/
inductive Reason.IsAbout (keys : List String) : Reason → Prop
  | text {key : String} (h : key ∈ keys) : IsAbout keys (.notText key.toList)
  | texts {key : String} (h : key ∈ keys) : IsAbout keys (.notTexts key.toList)
  | truth {key : String} (h : key ∈ keys) : IsAbout keys (.notTruth key.toList)
  | list {key : String} (h : key ∈ keys) : IsAbout keys (.notList key.toList)

variable {α : Type} {P : Fault → Prop} {es : Entries} {v : Value}

theorem failsOnly_refuse {r : Reason} (h : P (.entry [] r)) :
    FailsOnly P (refuse r : Except Fault α) := failsOnly_error_iff.2 h

theorem failsOnly_entries (h : ∀ kind, P (.entry [] (.notMapping kind))) :
    FailsOnly P (entries v) := by
  rw [entries]
  split
  · exact failsOnly_ok _
  · exact failsOnly_refuse (h _)

/-! ### Fields -/

section Fields

variable {key : String} {keys : List String} (hkey : key ∈ keys)
  (h : ∀ r, r.IsAbout keys → P (.entry [] r))

include hkey h

theorem failsOnly_text : FailsOnly P (text es key) := by
  rw [text]
  split
  · exact failsOnly_ok _
  · exact failsOnly_ok _
  · exact failsOnly_ok _
  · exact failsOnly_refuse (h _ (.text hkey))

theorem failsOnly_texts : FailsOnly P (texts es key) := by
  rw [texts]
  split
  · exact failsOnly_ok _
  · exact failsOnly_ok _
  · split
    · exact failsOnly_ok _
    · exact failsOnly_refuse (h _ (.texts hkey))
  · exact failsOnly_refuse (h _ (.texts hkey))

theorem failsOnly_truth : FailsOnly P (truth es key) := by
  rw [truth]
  split
  · exact failsOnly_ok _
  · exact failsOnly_ok _
  · exact failsOnly_refuse (h _ (.truth hkey))

theorem failsOnly_list : FailsOnly P (list es key) := by
  rw [list]
  split
  · exact failsOnly_ok _
  · exact failsOnly_ok _
  · exact failsOnly_refuse (h _ (.list hkey))

end Fields

theorem failsOnly_authorList {keys : List String} (hkey : "authors" ∈ keys)
    (h : ∀ r, r.IsAbout keys → P (.entry [] r)) : FailsOnly P (authorList es) := by
  rw [authorList]
  split
  · exact failsOnly_ok _
  · exact failsOnly_ok _
  · exact failsOnly_list hkey h

/-! ### Keys -/

/-- Unknown keys are listed, unless one of them is no text. -/
theorem failsOnly_onlyKeys {known : List String} (h : ∀ ks, P (.entry [] (.unknownKeys ks)))
    (hkind : (∃ e ∈ es, e.1.text? = none) → P .keyKind) : FailsOnly P (onlyKeys known es) := by
  rw [onlyKeys]
  split
  · exact failsOnly_ok _
  · split
    · exact failsOnly_refuse (h _)
    · next hnone =>
      have hstray := mt Option.isSome_mapM_iff.2 (Option.not_isSome_iff_eq_none.2 hnone)
      simp only [not_forall, Option.not_isSome_iff_eq_none] at hstray
      obtain ⟨e, he, hstray⟩ := hstray
      exact failsOnly_error_iff.2 (hkind ⟨e, List.mem_of_mem_filter he, hstray⟩)

/-! ### Items -/

/-- A fault of a list is the fault of an item, with the step to the item in front. -/
theorem failsOnly_readAll {step : Nat → Step} {read : Value → Except Fault α} (i : Nat)
    {vs : List Value} (h : ∀ v ∈ vs, ∀ j, FailsOnly (fun f => P (f.under (step j))) (read v)) :
    FailsOnly P (readAll step read i vs) := by
  induction vs generalizing i with
  | nil => exact failsOnly_ok _
  | cons v vs ih =>
    rw [List.forall_mem_cons] at h
    exact .bind (failsOnly_mapError_iff.2 (h.1 i)) fun _ _ => .bind (ih (i + 1) h.2) fun _ _ =>
      failsOnly_ok _

/-! ### Commands -/

/-- The faults of a command that are found in front of the commands below it. -/
theorem failsOnly_definedHead (hkeys : FailsOnly P (onlyKeys Command.definitionKeys es))
    (hname : P (.entry [] .namelessCommand))
    (hfield : ∀ r, r.IsAbout Command.definitionKeys → P (.entry [] r))
    (hflags : ∀ vs, list es "flags" = .ok vs →
      FailsOnly P (readAll .flag Flag.ofDefinition 0 vs)) :
    FailsOnly P (CommandDetails.definedHead es) := by
  refine .bind hkeys fun _ _ => .bind (failsOnly_text (by decide) hfield) fun _ _ => ?_
  split
  · exact .bind (failsOnly_refuse hname) fun _ hrefused => by cases hrefused
  · exact .bind (failsOnly_list (by decide) hfield) fun vs hvs =>
      .bind (failsOnly_list (by decide) hfield) fun _ _ =>
      .bind (failsOnly_authorList (by decide) hfield) fun _ _ =>
      .bind (failsOnly_texts (by decide) hfield) fun _ _ =>
      .bind (failsOnly_text (by decide) hfield) fun _ _ =>
      .bind (failsOnly_text (by decide) hfield) fun _ _ =>
      .bind (failsOnly_text (by decide) hfield) fun _ _ =>
      .bind (failsOnly_text (by decide) hfield) fun _ _ =>
      .bind (hflags vs hvs) fun _ _ => failsOnly_ok _

/-- The faults of a command that are found behind the commands below it. -/
theorem failsOnly_definedTail {head : CommandDetails} {authors : List Value}
    (hfield : ∀ r, r.IsAbout Command.definitionKeys → P (.entry [] r))
    (hauthors : FailsOnly P (readAll .author Author.ofDefinition 0 authors)) :
    FailsOnly P (head.definedTail es authors) :=
  .bind (failsOnly_truth (by decide) hfield) fun _ _ =>
    .bind (failsOnly_text (by decide) hfield) fun _ _ => .bind hauthors fun _ _ =>
    .bind (failsOnly_text (by decide) hfield) fun _ _ => failsOnly_ok _

end Definition

end CommandManual
