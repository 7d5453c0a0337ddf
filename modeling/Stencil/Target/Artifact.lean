import Stencil.Target.Key

/-! Artifacts: what is known of a committed target. -/

namespace Stencil

/-- The kinds of target. -/
inductive TargetKind where
  | source
  | service
deriving DecidableEq, Repr

/-- The word for a kind of target. -/
def TargetKind.word : TargetKind → String
  | source => "source"
  | service => "service"

/-- A committed target: whether its destination held the same content already, or another one. -/
structure Artifact where
  key : TargetKey
  kind : TargetKind
  regenerated : Bool
  collided : Bool
deriving DecidableEq, Repr

end Stencil
