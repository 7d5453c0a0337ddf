import Stencil.Text.Blank

/-! Target keys: the identity of an output by its package and its name. -/

namespace Stencil

/-- The identity of an output target. -/
structure TargetKey where
  package : String
  name : String
deriving DecidableEq, Repr

/-- The part of a key that is missing. -/
inductive KeyPart where
  | package
  | name
deriving DecidableEq, Repr

namespace TargetKey

/-- Builds a key from parts that may be missing; a missing package is noticed first. -/
def ofParts : Option String → Option String → Except KeyPart TargetKey
  | none, _ => .error .package
  | some _, none => .error .name
  | some package, some name => .ok ⟨package, name⟩

/-- The key as one text, package first if there is one. -/
def toText (key : TargetKey) : String :=
  if key.package == "" then key.name else key.package ++ "." ++ key.name

/-- The package as the start of a path: every dot becomes a slash, and a slash ends it. -/
def packagePath (key : TargetKey) : String :=
  if key.package == "" then ""
  else String.ofList ((key.package.toList.map fun c => if c == '.' then '/' else c) ++ ['/'])

end TargetKey

end Stencil
