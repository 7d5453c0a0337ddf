import Stencil.Proofs.Pass.Files
import Stencil.Proofs.Pass.Returned
import Stencil.Proofs.Script.Forest
import Stencil.Proofs.Sink.Block

/-! The order in which commits open the files of sources: it is the order of the paths that the sink of
files lists, in which a call comes behind the calls inside its body. -/

namespace Stencil

open Attempt

variable {σ μ : Type}

namespace Move

variable (setup : Setup σ)

/-- The source whose destination a move opens: it settles a source that is not committed, whose text
can be formatted, and the sink opens the destination. -/
def opens (move : Move μ) (pass : Pass σ μ) : List TargetKey :=
  match move with
  | .settleSource key text =>
    if (pass.sourceAt key).committed = false ∧
        (setup.style.formatter ((pass.sourceAt key).content ++ text)).isOk = true ∧
        (setup.sink.openWrite .sources key.package (key.name ++ setup.style.suffix)
          pass.outlet.state).1.isOk = true then [key]
    else []
  | _ => []

/-- The sources whose destinations a row of moves opens, in order. -/
def opened : List (Move μ) → Pass σ μ → List TargetKey
  | [], _ => []
  | move :: rest, pass => move.opens setup pass ++ opened rest (move.run setup pass).2

/-- What a second row opens comes behind what the first one does. -/
theorem opened_append (moves more : List (Move μ)) (pass : Pass σ μ) :
    opened setup (moves ++ more) pass =
      opened setup moves pass ++ opened setup more (play setup moves pass) := by
  induction moves generalizing pass with
  | nil => rfl
  | cons move rest ih => simp [opened, play, ih, List.append_assoc]

/-- A move that settles no source opens none. -/
theorem opens_other {move : Move μ} (unsettled : ∀ key text, move ≠ .settleSource key text)
    (pass : Pass σ μ) : move.opens setup pass = [] := by
  cases move with
  | settleSource key text => exact absurd rfl (unsettled key text)
  | _ => rfl

/-- A settling opens its own source, or none. -/
theorem opens_sublist (key : TargetKey) (text : String) (pass : Pass σ μ) :
    ((settleSource key text : Move μ).opens setup pass).Sublist [key] := by
  -- Whether it opens its source is one condition, which holds or does not.
  simp only [opens]
  split
  · exact .refl _
  · exact List.nil_sublist _

end Move

/-- The sources of a forest are opened in the order in which its calls end, a call behind the calls
inside its body. -/
theorem CallForest.opened_sublist (setup : Setup σ) (forest : CallForest μ) (pass : Pass σ μ) :
    (Move.opened setup forest.moves pass).Sublist forest.settled := by
  -- The induction follows the calls: first those inside the body, then those behind.
  induction forest generalizing pass with
  | nil => exact .refl _
  | source key inner answer rest first later =>
    have none : (Move.requestSource key : Move μ).opens setup pass = [] := rfl
    rw [moves, Move.opened, Move.opened_append, none, List.nil_append]
    cases answer with
    | ok text =>
      -- The call itself comes between the calls inside its body and those behind it.
      exact (first _).append (List.Sublist.append (Move.opens_sublist setup key text _) (later _))
    | error failure => exact (first _).append (later _)
  | service interface inner answer rest first later =>
    have none : (Move.requestService interface : Move μ).opens setup pass = [] := rfl
    rw [moves, Move.opened, Move.opened_append, none, List.nil_append]
    -- Neither the request of a service nor its end opens a source.
    have ends : ∀ state, (Move.endService interface answer : Move μ).opens setup state = [] := by
      intro state
      exact Move.opens_other setup (Move.endService_ne_settleSource interface answer) state
    rw [Move.opened, ends, List.nil_append]
    exact (first _).append (later _)
  | single move alone unclosing rest later =>
    have none : move.opens setup pass = [] := by
      -- Only a settling opens a source, and a single move is none.
      refine Move.opens_other setup (fun key text same => ?_) pass
      subst same
      exact alone
    rw [moves, Move.opened, none]
    exact later _

namespace FileSettings

/-- A text that is written, or that cannot be encoded, leaves the list of paths as it is. -/
theorem write_written {settings : FileSettings} {file : OpenFile} {text : String}
    {before after : FileState} {answer : Except Failure Unit}
    (used : settings.sink.write file text before = (answer, after)) :
    after.written = before.written := by
  have applied := write_apply settings file text before
  rw [show settings.writeText file text before = (answer, after) from used] at applied
  -- A text changes at most the disk.
  cases encoded : settings.encoding.encode text with
  | ok bytes =>
    rw [encoded] at applied
    cases applied
    rfl
  | error fault =>
    rw [encoded] at applied
    cases applied
    rfl

/-- Writing one text lists its path exactly if its destination can be opened. -/
theorem writeTo_written (settings : FileSettings) (place : Place) (package name text : String)
    (outlet : Outlet FileState) :
    (settings.sink.writeTo place package name [text] outlet).2.state.written =
      outlet.state.written ++
        if (settings.sink.openWrite place package name outlet.state).1.isOk
        then [settings.resolve place package name] else [] := by
  obtain ⟨result, state, log, calls, wrote, block⟩ :=
    settings.sink.writeTo_block place package name text outlet
  have opening := openOnce_opening settings place package name outlet.state
  change Opening _ _ _ _ (settings.sink.openWrite place package name outlet.state).1
    (settings.sink.openWrite place package name outlet.state).2 at opening
  -- Neither a text nor a closing is about the list of paths.
  rw [wrote]
  cases block with
  | unopened opened =>
    -- The path is listed by the opening or not at all.
    rw [opened] at opening ⊢
    cases opening <;> simp [Except.isOk, Except.toBool]
  | unused opened used closed =>
    rw [opened] at opening ⊢
    cases closed
    cases opening
    exact write_written used
  | unclosed opened used closed => cases closed
  | finished opened used closed =>
    rw [opened] at opening ⊢
    cases closed
    cases opening
    exact write_written used

/-- What is read back for a destination that counts as created is not about the list of paths. -/
theorem emit_written (settings : FileSettings) (key : TargetKey) (fileName text : String)
    (outlet : Outlet FileState) :
    (SourceTarget.emit settings.sink key fileName text outlet).2.state.written =
      outlet.state.written ++
        if (settings.sink.openWrite .sources key.package fileName outlet.state).1.isOk
        then [settings.resolve .sources key.package fileName] else [] := by
  -- Reading back leaves the state of the files as it is, so writing decides.
  rw [← settings.writeTo_written .sources key.package fileName text outlet]
  have read := settings.readFrom_file .sources "" (key.packagePath ++ fileName)
  have emission := SourceTarget.emit_emission settings.sink key fileName text outlet
  generalize SourceTarget.emit settings.sink key fileName text outlet = answer at emission ⊢
  obtain ⟨result, after⟩ := answer
  -- Only the two outcomes of a destination that counts as created read back.
  cases emission with
  | fresh wrote => rw [wrote]
  | failed wrote => rw [wrote]
  | regenerated wrote occupied held =>
    rw [read] at held
    obtain ⟨_, rfl⟩ := Prod.mk.inj held
    rw [wrote]
  | collided wrote occupied held other =>
    rw [read] at held
    obtain ⟨_, rfl⟩ := Prod.mk.inj held
    rw [wrote]

end FileSettings

namespace Move

variable {settings : FileSettings} {setup : Setup FileState}

/-- A text that can be formatted has the path of its source listed exactly if the destination is
opened. -/
theorem opens_written (files : setup.sink = settings.sink) {key : TargetKey} {text shown : String}
    {pass : Pass FileState μ} {answer : Except Failure Artifact} {outlet : Outlet FileState}
    (uncommitted : (pass.sourceAt key).committed = false)
    (formatted : setup.style.formatter ((pass.sourceAt key).content ++ text) = .ok shown)
    (emitted : SourceTarget.emit setup.sink key (key.name ++ setup.style.suffix) shown pass.outlet =
      (answer, outlet)) :
    outlet.state.written = pass.outlet.state.written ++
      ((settleSource key text : Move μ).opens setup pass).map
        (settings.sourcePath setup.style.suffix) := by
  -- The text can be formatted, so opening its source is a matter of the destination alone.
  have written := settings.emit_written key (key.name ++ setup.style.suffix) shown pass.outlet
  rw [← files, emitted] at written
  have formats : (setup.style.formatter ((pass.sourceAt key).content ++ text)).isOk = true := by
    rw [formatted]
    rfl
  rw [written]
  simp only [opens, uncommitted, formats, true_and]
  split <;> rfl

/-- A move that leaves the pass open lists the path of the source that it opens. -/
theorem run_written (files : setup.sink = settings.sink) {move : Move μ}
    (unclosing : move ≠ .finalize) (pass : Pass FileState μ) :
    (move.run setup pass).2.outlet.state.written =
      pass.outlet.state.written ++
        (move.opens setup pass).map (settings.sourcePath setup.style.suffix) := by
  by_cases settles : ∃ key text, move = .settleSource key text
  -- A settling lists a path only where it comes to write.
  · obtain ⟨key, text, rfl⟩ := settles
    have settling := Pass.settleSource_settling setup key text pass
    show (Pass.settleSource setup key text pass).2.outlet.state.written = _
    generalize Pass.settleSource setup key text pass = answer at settling ⊢
    obtain ⟨result, after⟩ := answer
    cases settling with
    | repeated committed => simp [opens, committed]
    | unformatted uncommitted refused =>
      simp [opens, refused, Except.isOk, Except.toBool]
    | committed uncommitted formatted emitted =>
      exact (opens_written files uncommitted formatted emitted :)
    | failed uncommitted formatted emitted =>
      exact (opens_written files uncommitted formatted emitted :)
  -- No other move reaches the files.
  · have unsettled : ∀ key text, move ≠ .settleSource key text := fun key text same =>
      settles ⟨key, text, same⟩
    rw [run_state setup pass unsettled unclosing, opens_other setup unsettled, List.map_nil,
      List.append_nil]

/-- Moves that leave the pass open list the paths of the sources that they open. -/
theorem play_written (files : setup.sink = settings.sink) {moves : List (Move μ)}
    (unclosing : .finalize ∉ moves) (pass : Pass FileState μ) :
    (play setup moves pass).outlet.state.written =
      pass.outlet.state.written ++
        (opened setup moves pass).map (settings.sourcePath setup.style.suffix) := by
  -- Each move lists its own path behind those of the moves before it.
  induction moves generalizing pass with
  | nil => simp [play, opened]
  | cons move rest ih =>
    rw [List.mem_cons, not_or] at unclosing
    rw [play, ih unclosing.2, run_written files (Ne.symm unclosing.1), opened, List.map_append,
      List.append_assoc]

end Move

end Stencil
