/-
Descriptors: what a host says about one route. A descriptor has a verb, a template cut into parts,
constraints on the template's parameters and static requirements; it is built by one call after
another, and of two constraints on one name, or two requirements under one key, the later counts.
-/
import RouteTable.Metadata

namespace RouteTable

/-- One piece of a route's template. -/
inductive TemplatePart
  /-- Text that is part of the matcher as it stands. -/
  | literal (text : String)
  /-- A named parameter, which the path of a route shows as `:name`. -/
  | parameter (name : String)
  /-- An optional suffix such as `.json`. -/
  | format
  deriving DecidableEq, Repr

/-- A host's description of a single route. -/
structure Descriptor where
  /-- A method, several methods between bars, or nothing for every method. -/
  verb : String := ""
  parts : List TemplatePart := []
  /-- The pattern of each constrained parameter. -/
  constraints : StringMap String := ∅
  metadata : Metadata := ∅
  deriving DecidableEq, Repr

namespace Descriptor

def ofVerb (verb : String) : Descriptor := { verb }

def part (d : Descriptor) (p : TemplatePart) : Descriptor := { d with parts := d.parts ++ [p] }

def literal (d : Descriptor) (text : String) : Descriptor := d.part (.literal text)

def parameter (d : Descriptor) (name : String) : Descriptor := d.part (.parameter name)

def format (d : Descriptor) : Descriptor := d.part .format

/-- Restricts the parameter `name` to `pattern`. -/
def constraint (d : Descriptor) (name pattern : String) : Descriptor :=
  { d with constraints := d.constraints.insert name pattern }

def requirement (d : Descriptor) (key value : String) : Descriptor :=
  { d with metadata := d.metadata.insert key value }

/-- Names the controller and the action that serve the route. -/
def servedBy (d : Descriptor) (controller action : String) : Descriptor :=
  (d.requirement "controller" controller).requirement "action" action

def constraintFor? (d : Descriptor) (name : String) : Option String := d.constraints.get? name

end Descriptor
end RouteTable
