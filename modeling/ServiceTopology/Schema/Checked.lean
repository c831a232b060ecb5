/-!
# Checked values

The result of validating data: a value, or every issue that was found, in the order of the data's
description. An issue has a kind and the path to the offending part.

Results combine like values: two valid parts give a valid whole, and the issues of two invalid parts are
listed one after the other. The wording shown to people is left to the caller; an issue carries a code.
-/

namespace ServiceTopology

/-- Kinds of schema violations. -/
inductive IssueKind where
  | missing
  | notInteger
  | integerUnreadable
  | integerTooLong
  | integerHasFraction
  | notFinite
  | notBoolean
  | booleanUnreadable
  | notString
  | brokenString
  | notEnumerated
  | notList
  | notMap
  | notRecord
  | notRatio
  | ratioUnreadable
  | tagMissing
  | tagUnknown
  | notTagged
  deriving DecidableEq

/-- Code of a kind of issue. -/
def IssueKind.code : IssueKind → String
  | missing => "missing"
  | notInteger => "int_type"
  | integerUnreadable => "int_parsing"
  | integerTooLong => "int_parsing_size"
  | integerHasFraction => "int_from_float"
  | notFinite => "finite_number"
  | notBoolean => "bool_type"
  | booleanUnreadable => "bool_parsing"
  | notString => "string_type"
  | brokenString => "string_unicode"
  | notEnumerated => "enum"
  | notList => "list_type"
  | notMap => "dict_type"
  | notRecord => "model_type"
  | notRatio => "fraction_type"
  | ratioUnreadable => "fraction_parsing"
  | tagMissing => "union_tag_not_found"
  | tagUnknown => "union_tag_invalid"
  | notTagged => "model_attributes_type"

/-- One step of the path to a part: a name or a list index. -/
inductive PathStep where
  | name (name : String)
  | index (index : Nat)
  deriving DecidableEq

/-- A schema violation at a place of the data. -/
structure Issue where
  kind : IssueKind
  path : List PathStep
  deriving DecidableEq

/-- The result of a validation: a value, or the issues found. -/
inductive Checked (α : Type) where
  | valid (value : α)
  | invalid (issues : List Issue)

namespace Checked

/-- Report a single issue about the data as a whole. -/
def reject {α : Type} (kind : IssueKind) : Checked α := invalid [⟨kind, []⟩]

/-- Apply a function to a valid value. -/
def map {α β : Type} (f : α → β) : Checked α → Checked β
  | valid a => valid (f a)
  | invalid issues => invalid issues

/-- Combine two results, collecting the issues of both. -/
def ap {α β : Type} : Checked (α → β) → Checked α → Checked β
  | valid f, valid a => valid (f a)
  | valid _, invalid issues => invalid issues
  | invalid issues, valid _ => invalid issues
  | invalid first, invalid second => invalid (first ++ second)

instance : Functor Checked := ⟨map, fun a => map fun _ => a⟩
instance : Applicative Checked where
  pure := valid
  seq f a := ap f (a ())

@[simp] theorem map_valid {α β : Type} (f : α → β) (a : α) : f <$> valid a = valid (f a) := rfl

@[simp] theorem seq_valid {α β : Type} (f : α → β) (a : α) : valid f <*> valid a = valid (f a) := rfl

/-- Put the issues of a part under a step of the path. -/
def under {α : Type} (step : PathStep) : Checked α → Checked α
  | valid a => valid a
  | invalid issues => invalid (issues.map fun issue => { issue with path := step :: issue.path })

@[simp] theorem under_valid {α : Type} (step : PathStep) (a : α) : (valid a).under step = valid a := rfl

/-- Move to the usual type of results. -/
def toExcept {α : Type} : Checked α → Except (List Issue) α
  | valid a => .ok a
  | invalid issues => .error issues

end Checked

end ServiceTopology
