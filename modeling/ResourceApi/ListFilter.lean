/-
This file says which objects a list request asks for: in which namespaces they are, which
selectors they satisfy, and how many of them are wanted.
-/

import ResourceApi.ListOptions
import ResourceApi.Selector

namespace ResourceApi

inductive ListScope where
  | all
  | named (space : String)
  deriving DecidableEq

namespace ListScope

def isAll : ListScope → Bool
  | .all => true
  | .named _ => false

def display : ListScope → String
  | .all => "all"
  | .named space => space

end ListScope

structure ListFilter where
  fieldSelector : Option String := none
  labelSelector : Option String := none
  limit : Option UInt32 := none
  deriving DecidableEq, Inhabited

namespace ListFilter

def ofOptions (options : ListOptions) : ListFilter where
  fieldSelector := options.fieldSelector
  labelSelector := options.labelSelector
  limit := options.limit

/-- Zero means that there is no limit. -/
def cut {Item : Type} (filter : ListFilter) (items : List Item) : List Item :=
  match filter.limit with
  | none => items
  | some limit => if limit = 0 then items else items.take limit.toNat

end ListFilter

/-- A predicate holds both selectors of a list request. -/
structure Predicate where
  label : Selector
  field : Selector
  deriving DecidableEq, Inhabited

namespace Predicate

def parseSelector : Option String → Except SelectorError Selector
  | none => .ok .everything
  | some written => Selector.parse written

def ofFilter (filter : ListFilter) : Except SelectorError Predicate :=
  match parseSelector filter.labelSelector with
  | .error error => .error error
  | .ok label => (parseSelector filter.fieldSelector).map (Predicate.mk label)

def isEverything (predicate : Predicate) : Bool :=
  predicate.label.isEmpty && predicate.field.isEmpty

def holds (predicate : Predicate) (labels fields : Dict String) : Bool :=
  predicate.label.holds labels && predicate.field.holds fields

end Predicate

end ResourceApi
