import Stencil.Proofs.Build
import Stencil.Proofs.Spelled

/-! Incremental builds and the files of earlier ones: no source call changes a file that is there,
except one whose path strays to it. -/

namespace Stencil

variable {μ : Type}

/-- Writing a source in an incremental pass keeps every file, unless its path is new, is listed now,
and strayed to the file. -/
theorem FileSettings.Writing.file_kept {settings : FileSettings} {path : Path} {texts : List String}
    {state after : FileState} {result : Except Failure Unit}
    (writing : FileSettings.Writing settings .sources path texts state result after)
    (incremental : settings.incremental = true) {place : Location} {content : ByteArray}
    (held : state.disk.fileAt? place = some content) :
    after.disk.fileAt? place = some content ∨ (path.spelled = place ∧ state.disk.Strays path ∧
      after.written = state.written ++ [path]) := by
  -- Only the place to which the path leads afterwards is touched.
  by_cases touched : FileSettings.Touches settings .sources path state after place
  · refine Or.inr ⟨(Disk.find_spelled touched.found).symm, ?_, touched.written⟩
    exact Disk.strays_of_find (touched.absent incremental rfl) touched.found held
  · exact Or.inl (writing.keeps.files held touched)

namespace Build

/-- A move of a build overwrites the file at a place: it settles a source whose path strays there,
and the path is listed as written. -/
def Overwrites (build : Build μ) (pass : Pass FileState μ) (place : Location) : Move μ → Prop
  | .settleSource key text =>
    let path := build.settings.sourcePath build.style.suffix key
    path.spelled = place ∧ pass.outlet.state.disk.Strays path ∧
      ((Move.settleSource key text : Move μ).run build.setup pass).2.outlet.state.written =
        pass.outlet.state.written ++ [path]
  | _ => False

variable {build : Build μ} {place : Location} {content : ByteArray}

/-- A move that does not close the pass keeps a file, or overwrites it. -/
theorem run_file (incremental : build.settings.incremental = true) {move : Move μ}
    (opened : move ≠ .finalize) {pass : Pass FileState μ}
    (held : pass.outlet.state.disk.fileAt? place = some content) :
    (move.run build.setup pass).2.outlet.state.disk.fileAt? place = some content ∨
      build.Overwrites pass place move := by
  by_cases settles : ∃ key text, move = .settleSource key text
  · obtain ⟨key, text, rfl⟩ := settles
    -- Settling writes to the path of the source, if it writes at all.
    have wrote := @Pass.settleSource_wrote μ build.settings build.setup rfl key text pass
    rcases wrote with same | ⟨shown, outcome, writing⟩
    · refine Or.inl ?_
      show (Pass.settleSource build.setup key text pass).2.outlet.state.disk.fileAt? place = _
      rw [same]
      exact held
    · exact writing.file_kept incremental held
  -- All other moves leave the disk alone.
  · have same := Move.run_state build.setup pass (fun key text same => settles ⟨key, text, same⟩)
      opened
    rw [same]
    exact Or.inl held

/-- A row of moves that does not close the pass keeps a file, or one of its moves overwrites it. -/
theorem play_file (incremental : build.settings.incremental = true) {moves : List (Move μ)}
    (opened : .finalize ∉ moves) {pass : Pass FileState μ}
    (held : pass.outlet.state.disk.fileAt? place = some content) :
    (Move.play build.setup moves pass).outlet.state.disk.fileAt? place = some content ∨
      ∃ earlier move later, moves = earlier ++ move :: later ∧
        build.Overwrites (Move.play build.setup earlier pass) place move := by
  -- The first move either keeps the file for the others, or is the one that overwrites it.
  induction moves generalizing pass with
  | nil => exact Or.inl held
  | cons move rest ih =>
    simp only [List.mem_cons, not_or] at opened
    rcases run_file incremental (Ne.symm opened.1) held with kept | overwrites
    · rcases ih opened.2 kept with stays | ⟨earlier, other, later, rfl, overwrites⟩
      · exact Or.inl stays
      · exact Or.inr ⟨move :: earlier, other, later, rfl, overwrites⟩
    · exact Or.inr ⟨[], move, rest, rfl, overwrites⟩

/-- In an incremental build that commits no service, every file that is there at the start keeps its
bytes to the end, unless a source call overwrites it: its path goes up from a directory that is
missing, so that nothing is found at it, but once the missing directories are made it leads to the
file. Whether the services that were requested are still to be committed makes no difference. -/
theorem incremental_keeps_files (build : Build μ) (incremental : build.settings.incremental = true)
    (opened : .finalize ∉ build.moves) {place : Location} {content : ByteArray}
    (held : build.disk.fileAt? place = some content) :
    (build.closing.outlet.state.disk.fileAt? place = some content ∧
        (build.closing.services.keys = [] →
          build.last.outlet.state.disk.fileAt? place = some content)) ∨
      ∃ earlier key text later, build.moves = earlier ++ .settleSource key text :: later ∧
        build.Overwrites (build.after earlier) place (.settleSource key text) := by
  have begun : build.start.outlet.state.disk.fileAt? place = some content := held
  rcases play_file incremental opened begun with
    kept | ⟨earlier, move, later, split, overwrites⟩
  -- Closing a pass without services writes nothing.
  · have closing : build.closing.outlet.state.disk.fileAt? place = some content := by
      rw [closing_eq]
      exact kept
    refine Or.inl ⟨closing, fun unserved => ?_⟩
    rw [last, Pass.finalize_unserved unserved]
    exact closing
  -- Only settling a source overwrites anything.
  · cases move with
    | settleSource key text => exact Or.inr ⟨earlier, key, text, later, split, overwrites⟩
    | _ => exact overwrites.elim

/-- A source written through a directory that is missing, next to the file of an earlier build. -/
def straying : Build Unit where
  settings := ⟨.ofString "src", .ofString "res", true, .utf8⟩
  style := ⟨".py", Layout.normalizer⟩
  look := fun _ _ => none
  script := .source "" "x/../m" (fun _ => .done "new") (.done "")
  disk := (Disk.fresh.writeFile (.ofString "src/m.py") "old\n".toUTF8).2
  diagnostics := []
  memory := ()

/-- The place of the file of the earlier build. -/
def strayedPlace : Location := ["m.py", "src"] ++ Disk.home

/-- The file of the earlier build is lost to the source that strays to it. -/
theorem straying_source_overwrites :
    straying.settings.incremental = true ∧
      straying.disk.fileAt? strayedPlace = some "old\n".toUTF8 ∧
      straying.closing.outlet.state.disk.fileAt? strayedPlace = some "new\n".toUTF8 := by
  decide +kernel

/-- The call that overwrites the file strays to it. -/
theorem straying_source_strays :
    straying.settings.incremental = true ∧ .finalize ∉ straying.moves ∧
      ∃ earlier key text later, straying.moves = earlier ++ .settleSource key text :: later ∧
        straying.Overwrites (straying.after earlier) strayedPlace (.settleSource key text) := by
  have opened : .finalize ∉ straying.moves := by decide +kernel
  have held : straying.disk.fileAt? strayedPlace = some "old\n".toUTF8 := by decide +kernel
  have lost : straying.closing.outlet.state.disk.fileAt? strayedPlace ≠
      some "old\n".toUTF8 := by decide +kernel
  -- The file is not kept, so the general result names a call that overwrites it.
  refine ⟨rfl, opened, ?_⟩
  rcases incremental_keeps_files straying rfl opened held with ⟨kept, _⟩ | overwrites
  · exact absurd kept lost
  · exact overwrites

end Build

end Stencil
