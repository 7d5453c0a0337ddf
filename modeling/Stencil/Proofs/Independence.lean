import Stencil.Proofs.Accumulation
import Stencil.Proofs.Pass.Delivered
import Stencil.Proofs.Pass.Proper

/-! Services do not interfere: what a build leaves in a manifest depends on what stood there before
and on the texts that were contributed to its interface, and on nothing else. -/

namespace Stencil

namespace Build

variable {μ υ : Type}

/-- A build in UTF-8 whose class root is plain, whose calls are proper, and whose pass is closed
with success; any of the calls may fail. -/
structure Orderly (build : Build μ) : Prop where
  utf8 : build.settings.encoding = .utf8
  root : build.settings.classRoot.Plain
  proper : ∀ move ∈ build.moves, move.Proper build.settings build.style.suffix
  closes : build.Closes

instance (build : Build μ) : Decidable build.Orderly :=
  decidable_of_iff
    (build.settings.encoding = .utf8 ∧ build.settings.classRoot.Plain ∧
      (∀ move ∈ build.moves, move.Proper build.settings build.style.suffix) ∧ build.Closes)
    ⟨fun ⟨utf8, root, proper, closes⟩ => ⟨utf8, root, proper, closes⟩,
      fun orderly => ⟨orderly.utf8, orderly.root, orderly.proper, orderly.closes⟩⟩

namespace Orderly

variable {build : Build μ}

/-- Every service of an orderly build is that of an interface that can name a node. -/
theorem named (orderly : build.Orderly) {key : TargetKey}
    (member : key ∈ build.closing.services.keys) :
    ∃ interface, key = Pass.serviceKey interface ∧ isNodeName interface = true := by
  -- Some move has asked for it.
  obtain ⟨interface, same, move, inside, serves⟩ := (orderly.closes.collected.known key).1 member
  exact ⟨interface, same, (orderly.proper move inside).named serves⟩

/-- Every service of an orderly build has a plain path. -/
theorem plain (orderly : build.Orderly) {key : TargetKey}
    (member : key ∈ build.closing.services.keys) : (build.settings.servicePath key).Plain := by
  obtain ⟨interface, rfl, named⟩ := orderly.named member
  exact FileSettings.servicePath_named_plain orderly.root named

/-- In an orderly build, nothing but a service itself touches its manifest. -/
theorem undisturbed (orderly : build.Orderly) {interface : String}
    (member : Pass.serviceKey interface ∈ build.closing.services.keys) :
    build.Undisturbed interface := by
  obtain ⟨other, same, named⟩ := orderly.named member
  cases Pass.serviceKey_injective same
  refine ⟨?_, ?_⟩
  -- Its path was not created by the calls, as it still could be when the pass was closed.
  · obtain ⟨artifacts, done⟩ := orderly.closes.answer
    obtain ⟨_, _, _, _, delivered⟩ := Pass.finalize_delivered rfl orderly.utf8
      (fun key inside => orderly.plain inside) done
    have opened := orderly.closes.collected.opened
    rw [closing_eq] at opened
    have files : build.setup.sink = build.settings.sink := rfl
    have spares := Move.spares_play files orderly.proper (Move.finalize_not_mem opened)
      (orderly.plain member) build.start
    rw [← after, ← closing_eq] at spares
    exact spares.content (delivered.new _ member)
  -- The other services have files of their own.
  · refine Pass.spared_of_plain rfl (orderly.plain member) (fun key inside => orderly.plain inside)
      (fun key inside different => ?_) _
    obtain ⟨another, rfl, namedOther⟩ := orderly.named inside
    intro equal
    exact different (by rw [FileSettings.servicePath_injective named namedOther equal])

/-- An orderly build merges the texts that were contributed to an interface into what its manifest
held before. -/
theorem updated (orderly : build.Orderly) {interface : String}
    (requested : .requestService interface ∈ build.moves) :
    build.last.outlet.state.disk.readFile (build.manifestPath interface) =
      .ok (Manifest.update
        (build.settings.textAt build.disk (build.manifestPath interface))
        ((Move.contributions interface build.moves).flatMap lines)).toUTF8 := by
  have asked : ∃ move ∈ build.moves, move.Serves interface := ⟨_, requested, Or.inl rfl⟩
  -- The request makes it a service of the pass, whose manifest nothing else touches.
  have member := (orderly.closes.collected.known _).2 ⟨interface, rfl, asked⟩
  exact Disk.contentAt?_eq_some.1
    (manifest_updated orderly.utf8 orderly.closes asked (orderly.undisturbed member))

end Orderly

/-- What an orderly build leaves in the manifest of an interface is what stood there before, updated
with the lines of the texts contributed to this interface in the order in which they rendered. So
two orderly builds that find the same manifest and contribute the same texts to the interface leave
the same one, whatever else they do, and whatever becomes of it. -/
theorem services_independent (first : Build μ) (second : Build υ) (interface : String)
    (orderly : first.Orderly) (other : second.Orderly)
    (requested : .requestService interface ∈ first.moves)
    (requestedOther : .requestService interface ∈ second.moves) :
    first.last.outlet.state.disk.readFile (first.manifestPath interface) =
        .ok (Manifest.update
          (first.settings.textAt first.disk (first.manifestPath interface))
          ((Move.contributions interface first.moves).flatMap lines)).toUTF8 ∧
      (first.disk.contentAt? (first.manifestPath interface) =
          second.disk.contentAt? (second.manifestPath interface) →
        Move.contributions interface first.moves = Move.contributions interface second.moves →
          first.last.outlet.state.disk.readFile (first.manifestPath interface) =
            second.last.outlet.state.disk.readFile (second.manifestPath interface)) := by
  refine ⟨orderly.updated requested, fun found contributed => ?_⟩
  -- The text of the same bytes is the same, as both builds decode them alike.
  have texts : first.settings.textAt first.disk (first.manifestPath interface) =
      second.settings.textAt second.disk (second.manifestPath interface) := by
    simp only [FileSettings.textAt, found, orderly.utf8, other.utf8]
  rw [orderly.updated requested, other.updated requestedOther, texts, contributed]

/-- A build that contributes the same texts as the first contributing one: inside of the body of
another service, and inside of a source whose key is bound once more. -/
def interleaved : Build Unit where
  settings := ⟨.ofString "src", .ofString "out", true, .utf8⟩
  style := ⟨"", Layout.normalizer⟩
  look := fun _ _ => none
  script :=
    .service "J" (fun _ => .service "I" (fun _ => .done "# one\nb\r\na") (.done "y"))
      (.source "" "k" (fun _ => .service "I" (fun _ => .done "c\x0cb") (.done "t"))
        (.source "" "k" (fun _ => .done "u") (.error "e" (.system "s" (.done "")))))
  disk := cluttered
  diagnostics := []
  memory := ()

/-- Two builds that do different things around the same contributions leave the same manifest. -/
theorem interleaved_leaves_same :
    firstContributing.Orderly ∧ interleaved.Orderly ∧
      .requestService "I" ∈ firstContributing.moves ∧ .requestService "I" ∈ interleaved.moves ∧
      Move.contributions "I" firstContributing.moves = Move.contributions "I" interleaved.moves ∧
      firstContributing.last.outlet.state.disk.readFile (firstContributing.manifestPath "I") =
        interleaved.last.outlet.state.disk.readFile (interleaved.manifestPath "I") := by
  -- Everything but the last part is checked by running the two builds.
  have orderly : firstContributing.Orderly := by decide +kernel
  have other : interleaved.Orderly := by decide +kernel
  have requested : .requestService "I" ∈ firstContributing.moves := by decide +kernel
  have requestedOther : .requestService "I" ∈ interleaved.moves := by decide +kernel
  have contributed : Move.contributions "I" firstContributing.moves =
      Move.contributions "I" interleaved.moves := by decide +kernel
  have found : firstContributing.disk.contentAt? (firstContributing.manifestPath "I") =
      interleaved.disk.contentAt? (interleaved.manifestPath "I") := by decide +kernel
  exact ⟨orderly, other, requested, requestedOther, contributed,
    (services_independent firstContributing interleaved "I" orderly other requested
      requestedOther).2 found contributed⟩

end Build

end Stencil
