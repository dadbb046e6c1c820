import PropertySheet.Text.Blank

/-!
# Controller services

A property may name a controller service by its id. A service has a type out of those that the
backend offers for an interface, and it is created in a scope.
-/

namespace PropertySheet

/-- One implementation that the backend offers. -/
structure ServiceType where
  name : String
  description : Option String := none
  tags : List String := []
deriving DecidableEq, Repr, Inhabited

/-- The name without its package: the text after the last point. -/
def ServiceType.shortName (t : ServiceType) : String := Text.afterLast '.' t.name

/-- The state of a backend entity that an edit refers to. -/
structure Revision where
  clientId : Option String := none
  version : Nat := 0
deriving DecidableEq, Repr, Inhabited

/-- A controller service as the backend describes it. -/
structure Service where
  id : String
  revision : Revision := {}
  componentId : String
  name : String := ""
  typeName : String := ""
  parentGroupId : Option String := none
deriving DecidableEq, Repr, Inhabited

/-- Where a service is created. -/
inductive Scope where
  /-- The top level, for a sheet without a group. -/
  | controller
  | group (id : String)
deriving DecidableEq, Repr, Inhabited

namespace Scope

def ofGroup? : Option String → Scope
  | none => .controller
  | some id => .group id

/-- Path of the collection that a new service joins. -/
def path : Scope → String
  | .controller => "controller/controller-services"
  | .group id => "process-groups/" ++ id ++ "/controller-services"

end Scope

end PropertySheet
