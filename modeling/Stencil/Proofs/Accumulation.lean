import Mathlib.Data.List.Chain
import Stencil.Proofs.Build
import Stencil.Proofs.Manifest
import Stencil.Proofs.Pass.Manifests

/-! Builds one after the other that serve one interface: its manifest collects the entries of all of
them, and the comments of the last. -/

namespace Stencil

variable {μ : Type}

/-- The text at a path is the one whose bytes stand there. -/
theorem FileSettings.textAt_utf8 {settings : FileSettings} (utf8 : settings.encoding = .utf8)
    {disk : Disk} {path : Path} {text : String}
    (held : disk.contentAt? path = some text.toUTF8) : settings.textAt disk path = text := by
  -- Bytes that were encoded are decoded to the same text.
  have decoded : settings.encoding.decode text.toUTF8 = .ok text := by
    rw [utf8]
    exact decode_utf8.2 rfl
  rw [FileSettings.textAt, held, Option.bind_some, decoded]
  rfl

namespace Build

/-- Nothing but the service of an interface itself touches its manifest: neither the calls of the
script nor the other services change what its path leads to. -/
structure Undisturbed (build : Build μ) (interface : String) : Prop where
  calls : build.closing.outlet.state.disk.contentAt? (build.manifestPath interface) =
    build.disk.contentAt? (build.manifestPath interface)
  services : Pass.Spared build.setup (build.manifestPath interface) (Pass.serviceKey interface)
    build.closing.services.keys { build.closing with finalized := true }

instance (build : Build μ) (interface : String) : Decidable (build.Undisturbed interface) :=
  -- More than one library compares bytes.
  have : DecidableEq ByteArray := ByteArray.instDecidableEq
  decidable_of_iff
    (build.closing.outlet.state.disk.contentAt? (build.manifestPath interface) =
        build.disk.contentAt? (build.manifestPath interface) ∧
      Pass.Spared build.setup (build.manifestPath interface) (Pass.serviceKey interface)
        build.closing.services.keys { build.closing with finalized := true })
    ⟨fun ⟨calls, services⟩ => ⟨calls, services⟩,
      fun undisturbed => ⟨undisturbed.calls, undisturbed.services⟩⟩

/-- A pass that is closed with success merges what was contributed to an interface into its
manifest, if some move asks for the service and nothing else touches the manifest. -/
theorem manifest_updated {build : Build μ} (utf8 : build.settings.encoding = .utf8)
    (closes : build.Closes) {interface : String}
    (asked : ∃ move ∈ build.moves, move.Serves interface)
    (undisturbed : build.Undisturbed interface) :
    build.last.outlet.state.disk.contentAt? (build.manifestPath interface) =
      some (Manifest.update
        (build.settings.textAt build.disk (build.manifestPath interface))
        (build.contributed interface)).toUTF8 := by
  have collected := closes.collected
  have member := (collected.known _).2 ⟨interface, rfl, asked⟩
  obtain ⟨artifacts, done⟩ := closes.answer
  -- The calls leave the file as it was, so that the commit still finds its text.
  have found :
      build.settings.textAt build.closing.outlet.state.disk (build.manifestPath interface) =
        build.settings.textAt build.disk (build.manifestPath interface) := by
    rw [FileSettings.textAt, undisturbed.calls, ← FileSettings.textAt]
  have manifest := Pass.finalize_manifest rfl utf8 member undisturbed.services done
  rw [collected.held, ← manifestPath, found] at manifest
  exact manifest

/-- A build serves an interface at a path: it requests the service, closes its pass with success,
and touches the manifest with nothing else. -/
structure Serves (build : Build μ) (interface : String) (path : Path) : Prop where
  utf8 : build.settings.encoding = .utf8
  placed : build.manifestPath interface = path
  requested : .requestService interface ∈ build.moves
  closes : build.Closes
  undisturbed : build.Undisturbed interface

instance [DecidableEq μ] (build : Build μ) (interface : String) (path : Path) :
    Decidable (build.Serves interface path) :=
  decidable_of_iff
    (build.settings.encoding = .utf8 ∧ build.manifestPath interface = path ∧
      .requestService interface ∈ build.moves ∧ build.Closes ∧ build.Undisturbed interface)
    ⟨fun ⟨utf8, placed, requested, closes, undisturbed⟩ =>
        ⟨utf8, placed, requested, closes, undisturbed⟩,
      fun serves =>
        ⟨serves.utf8, serves.placed, serves.requested, serves.closes, serves.undisturbed⟩⟩

/-- A later build starts with what an earlier one left at a path. -/
def Follows (path : Path) (earlier later : Build μ) : Prop :=
  later.disk.contentAt? path = earlier.last.outlet.state.disk.contentAt? path

variable {interface : String} {path : Path}

/-- The lines that a build contributes hold no line break. -/
theorem contributed_unbroken (build : Build μ) (interface : String) :
    ∀ line ∈ build.contributed interface, isUnbroken line = true :=
  -- Each is a line of one of the texts that were contributed.
  fun _ member => isUnbroken_of_mem_flatMap member

/-- A build that serves an interface merges its lines into the text that it finds at the path. -/
theorem Serves.updated {build : Build μ} (serves : build.Serves interface path) :
    build.last.outlet.state.disk.contentAt? path =
      some (Manifest.update (build.settings.textAt build.disk path)
        (build.contributed interface)).toUTF8 := by
  have updated := manifest_updated serves.utf8 serves.closes
    ⟨_, serves.requested, Or.inl rfl⟩ serves.undisturbed
  rwa [serves.placed] at updated

/-- Builds that follow a manifest to which some lines have added up leave one to which theirs have
been added. -/
theorem accumulated_after {earlier : Build μ} {rest : List (Build μ)}
    (serve : ∀ build ∈ rest, build.Serves interface path)
    (follow : (earlier :: rest).IsChain (Follows path)) {all : List String} {text : String}
    (stands : earlier.last.outlet.state.disk.contentAt? path = some text.toUTF8)
    (accumulated : Manifest.Accumulated all (earlier.contributed interface) text) :
    ∃ final,
      ((earlier :: rest).getLast (List.cons_ne_nil _ _)).last.outlet.state.disk.contentAt? path =
        some final.toUTF8 ∧
      Manifest.Accumulated (all ++ rest.flatMap (·.contributed interface))
        (((earlier :: rest).getLast (List.cons_ne_nil _ _)).contributed interface) final := by
  -- Each build finds the text that the one before it left, and adds its own lines.
  induction rest generalizing earlier all text with
  | nil => exact ⟨text, stands, by simpa using accumulated⟩
  | cons build rest ih =>
    obtain ⟨follows, others⟩ := List.isChain_cons_cons.1 follow
    have serves := serve build List.mem_cons_self
    -- What the earlier build left is text in UTF-8, so nothing of it is lost when it is read.
    have found := FileSettings.textAt_utf8 serves.utf8 (follows.trans stands)
    have updated := serves.updated
    rw [found] at updated
    have later : ∀ other ∈ rest, other.Serves interface path :=
      fun other member => serve other (List.mem_cons_of_mem _ member)
    obtain ⟨final, held, grown⟩ :=
      ih later others updated (accumulated.update (build.contributed_unbroken interface))
    rw [List.append_assoc] at grown
    exact ⟨final, held, grown⟩

/-- If builds serve an interface one after the other, and nothing else touches its manifest, the
last of them leaves a manifest whose entries are the first occurrences of those that the first one
found and of those that all of them contributed, while its comments are those that the last one
contributed; no line is empty or occurs twice, and a line feed ends each. -/
theorem manifest_accumulates (interface : String) (path : Path) (builds : List (Build μ))
    (one : builds ≠ []) (serve : ∀ build ∈ builds, build.Serves interface path)
    (follow : builds.IsChain (Follows path)) :
    ∃ text, (builds.getLast one).last.outlet.state.disk.readFile path = .ok text.toUTF8 ∧
      Manifest.Accumulated
        (lines ((builds.head one).settings.textAt (builds.head one).disk path) ++
          builds.flatMap (·.contributed interface))
        ((builds.getLast one).contributed interface) text := by
  cases builds with
  | nil => exact absurd rfl one
  | cons first rest =>
    -- The first build merges its lines into whatever text it finds.
    have serves := serve first List.mem_cons_self
    obtain ⟨final, held, accumulated⟩ := accumulated_after
      (fun build member => serve build (List.mem_cons_of_mem _ member)) follow serves.updated
      (Manifest.accumulated_update _ (first.contributed_unbroken interface))
    refine ⟨final, Disk.contentAt?_eq_some.1 held, ?_⟩
    rw [List.append_assoc] at accumulated
    exact accumulated

/-- The disk of earlier builds, with a comment, an empty line and an entry that comes twice. -/
def cluttered : Disk :=
  (Disk.fresh.writeFile (.ofString "out/META-INF/services/I") "# old\na\n\na\n".toUTF8).2

/-- A build that contributes to an interface from the body of a source that fails, and once more
after that. -/
def contributing (disk : Disk) (inner outer : String) : Build Unit where
  settings := ⟨.ofString "out", .ofString "out", false, .utf8⟩
  style := ⟨".py", Layout.normalizer⟩
  look := fun _ _ => none
  script := .recover
    (.source "a" "m" (fun _ => .service "I" (fun _ => .done inner) (.fail .wrongType)) (.done ""))
    fun _ => .service "I" (fun _ => .done outer) (.service "J" (fun _ => .done "x") (.done ""))
  disk := disk
  diagnostics := []
  memory := ()

/-- The first of two builds over the cluttered manifest. -/
def firstContributing : Build Unit := contributing cluttered "# one\nb\r\na" "c\x0cb"

/-- The second one, over what the first one left. -/
def secondContributing : Build Unit :=
  contributing firstContributing.last.outlet.state.disk "# two\nd" "# two\n\nb"

/-- Two builds add up over a cluttered manifest. -/
theorem two_builds_accumulate :
    (∀ build ∈ [firstContributing, secondContributing],
        build.Serves "I" (.ofString "out/META-INF/services/I")) ∧
      [firstContributing, secondContributing].IsChain
        (Follows (.ofString "out/META-INF/services/I")) ∧
      ∃ text, secondContributing.last.outlet.state.disk.readFile
          (.ofString "out/META-INF/services/I") = .ok text.toUTF8 ∧
        Manifest.Accumulated
          (lines (firstContributing.settings.textAt firstContributing.disk
            (.ofString "out/META-INF/services/I")) ++
            [firstContributing, secondContributing].flatMap (·.contributed "I"))
          (secondContributing.contributed "I") text := by
  -- Both builds are run to see that they serve the interface.
  have serve : ∀ build ∈ [firstContributing, secondContributing],
      build.Serves "I" (.ofString "out/META-INF/services/I") := by
    intro build member
    simp only [List.mem_cons, List.not_mem_nil, or_false] at member
    rcases member with rfl | rfl
    · decide +kernel
    · decide +kernel
  -- The second build begins with the disk that the first one leaves.
  have follow : [firstContributing, secondContributing].IsChain
      (Follows (.ofString "out/META-INF/services/I")) := by
    refine List.isChain_cons_cons.2 ⟨?_, .singleton _⟩
    simp only [Follows, secondContributing, contributing]
  exact ⟨serve, follow, manifest_accumulates "I" (.ofString "out/META-INF/services/I")
    [firstContributing, secondContributing] (List.cons_ne_nil _ _) serve follow⟩

end Build

end Stencil
