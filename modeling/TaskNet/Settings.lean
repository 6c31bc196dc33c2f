import TaskNet.Entity

/-!
# Settings

What can be chosen about reading a knowledge base and rendering it: the class names that mark
definitions, and how strictly and in which order units are rendered.
-/

namespace TaskNet

/-- The choices that loading and generation depend on. -/
structure Settings where
  /-- The local name of the class of domain definitions. -/
  domainType : String := "DomainDefinition"
  /-- The local name of the class of problem definitions. -/
  problemType : String := "ProblemDefinition"
  /-- Whether several targets of a relation that takes one are an error. -/
  strictAmbiguity : Bool := false
  /-- Whether units may be rendered at the same time. -/
  parallel : Bool := false
deriving DecidableEq, Repr

/-- The kind of definition that a class name marks. -/
def Settings.classify (settings : Settings) (typeName : String) : EntityKind :=
  if typeName = settings.domainType then .domain
  else if typeName = settings.problemType then .problem
  else .other

end TaskNet
