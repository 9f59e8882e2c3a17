/-!
# Type references

A type as it is mentioned in a source text, before anything is known about it:
its shape and its spelling, with type arguments left out.
-/

namespace JavaIndex

/-- A mention of a type in source. -/
inductive TypeReference where
  /-- A primitive keyword. -/
  | primitive (text : String)
  /-- The dotted name of a class or interface. -/
  | classOrInterface (text : String)
  /-- Anything else in a type's place: `void`, `var`, `?`, the name of a type parameter. -/
  | other (text : String)
  deriving DecidableEq, Repr

/-- The spelling of a reference. -/
def TypeReference.text : TypeReference → String
  | .primitive text => text
  | .classOrInterface text => text
  | .other text => text

end JavaIndex
