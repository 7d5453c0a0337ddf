import Stencil.Proofs.Pass.Files
import Stencil.Proofs.ReadBack

/-! Laws of the paths of service files: what their components are, and when two of them differ. -/

namespace Stencil

namespace FileSettings

/-- The components of a service file go on from its root with those of its name. -/
theorem servicePath_eq (settings : FileSettings) (interface : String) :
    (settings.servicePath (Pass.serviceKey interface)).anchor = settings.classRoot.anchor ∧
      (settings.servicePath (Pass.serviceKey interface)).parts =
        settings.classRoot.parts ++ Path.partsOf (Pass.serviceRoot ++ interface) := by
  -- The name begins with a letter, whatever the interface is.
  have relative : Path.anchorOf (Pass.serviceRoot ++ interface) = .relative := by
    rw [Path.anchorOf_relative_iff]
    simp [startsWith, Pass.serviceRoot, List.isPrefixOf]
  rw [servicePath, Pass.serviceKey, resolve_bare, Path.join_relative relative]
  exact ⟨rfl, rfl⟩

/-- A service file has a component of its own. -/
theorem servicePath_below (settings : FileSettings) (interface : String) :
    (settings.servicePath (Pass.serviceKey interface)).parts ≠ [] := by
  -- The first of them is the directory that all service files share.
  have split : Pass.serviceRoot ++ interface = "META-INF" ++ "/" ++ ("services/" ++ interface) := by
    simp [Pass.serviceRoot, String.ext_iff]
  rw [(servicePath_eq settings interface).2, split, Path.partsOf_slash]
  simp [Path.partsOf, splitAt, cutAt]

/-- A service file below a relative root has a plain path if there are no parents on it. -/
theorem servicePath_plain {settings : FileSettings} {interface : String}
    (root : settings.classRoot.anchor = .relative)
    (down : ".." ∉ (settings.servicePath (Pass.serviceKey interface)).parts) :
    (settings.servicePath (Pass.serviceKey interface)).Plain :=
  ⟨(settings.servicePath_eq interface).1.trans root, down⟩

/-- An interface whose name can name a node has its service file under this name, in the directory
of all service files. -/
theorem servicePath_named (settings : FileSettings) {interface : String}
    (named : isNodeName interface = true) :
    (settings.servicePath (Pass.serviceKey interface)).parts =
      settings.classRoot.parts ++ ["META-INF", "services", interface] := by
  -- The two slashes of the start end one component each.
  obtain ⟨component, _⟩ : isComponent interface = true ∧ interface ≠ ".." := by
    simpa [isNodeName] using named
  have split : Pass.serviceRoot ++ interface =
      "META-INF" ++ "/" ++ ("services" ++ "/" ++ interface) := by
    simp [Pass.serviceRoot, String.ext_iff]
  have first : Path.partsOf "META-INF" = ["META-INF"] := Path.partsOf_component (by decide)
  have second : Path.partsOf "services" = ["services"] := Path.partsOf_component (by decide)
  rw [(servicePath_eq settings interface).2, split, Path.partsOf_slash, Path.partsOf_slash, first,
    second, Path.partsOf_component component]
  rfl

/-- Below a plain root, an interface whose name can name a node has a plain service file. -/
theorem servicePath_named_plain {settings : FileSettings} (root : settings.classRoot.Plain)
    {interface : String} (named : isNodeName interface = true) :
    (settings.servicePath (Pass.serviceKey interface)).Plain := by
  -- The only part of its path that the root does not answer for is the name.
  have other : interface ≠ ".." := by
    simp only [isNodeName, Bool.and_eq_true, bne_iff_ne] at named
    exact named.2
  refine servicePath_plain root.relative ?_
  rw [servicePath_named settings named]
  simp [root.down, Ne.symm other]

/-- Interfaces whose names can name nodes have different service files. -/
theorem servicePath_injective {settings : FileSettings} {interface other : String}
    (named : isNodeName interface = true) (namedOther : isNodeName other = true)
    (same : settings.servicePath (Pass.serviceKey interface) =
      settings.servicePath (Pass.serviceKey other)) : interface = other := by
  -- The name is the last component of the path.
  have parts := congrArg Path.parts same
  rw [servicePath_named settings named, servicePath_named settings namedOther] at parts
  simpa using parts

end FileSettings

end Stencil
