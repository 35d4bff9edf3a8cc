/-
This file defines what validation reports: which field is wrong, how, and with which value.
-/

import ResourceApi.Json.Printer

namespace ResourceApi

inductive FieldErrorType where
  | required
  | invalid
  | forbidden
  | notSupported
  | duplicate
  deriving DecidableEq

def FieldErrorType.message : FieldErrorType → String
  | .required => "Required value"
  | .invalid => "Invalid value"
  | .forbidden => "Forbidden"
  | .notSupported => "Unsupported value"
  | .duplicate => "Duplicate value"

/-- A path leads to a field through the names and indices of the values around it. -/
structure FieldPath where
  written : String := ""
  deriving DecidableEq, Inhabited

namespace FieldPath

def child (path : FieldPath) (name : String) : FieldPath :=
  if path.written = "" then ⟨name⟩ else ⟨path.written ++ "." ++ name⟩

def index (path : FieldPath) (position : Nat) : FieldPath :=
  ⟨path.written ++ "[" ++ Text.writeNat position ++ "]"⟩

/-- This is the path of a metadata member. -/
def metadata (name : String) : FieldPath :=
  (⟨"metadata"⟩ : FieldPath).child name

end FieldPath

structure FieldError where
  type : FieldErrorType
  field : FieldPath
  badValue : Option Json
  detail : String

namespace FieldError

def required (field : FieldPath) (detail : String) : FieldError :=
  ⟨.required, field, none, detail⟩

def invalid (field : FieldPath) (value : Json) (detail : String) : FieldError :=
  ⟨.invalid, field, some value, detail⟩

def forbidden (field : FieldPath) (detail : String) : FieldError :=
  ⟨.forbidden, field, none, detail⟩

def notSupported (field : FieldPath) (value : Json) (supported : List String) : FieldError :=
  ⟨.notSupported, field, some value, "supported values: " ++ Text.join ", " supported⟩

def duplicate (field : FieldPath) (value : Json) : FieldError :=
  ⟨.duplicate, field, some value, ""⟩

def message (error : FieldError) : String :=
  let value :=
    match error.badValue with
    | none => ""
    | some value => ": " ++ value.print
  let detail := if error.detail = "" then "" else ": " ++ error.detail
  error.field.written ++ ": " ++ error.type.message ++ value ++ detail

/-- All errors on one line. -/
def summary (errors : List FieldError) : String :=
  Text.join ", " (errors.map message)

end FieldError

end ResourceApi
