import Stencil.Proofs.Script.Follow

/-! The moves of a script: how they are recorded, that playing them is running the script, and when
another pass makes the same ones. -/

namespace Stencil

open Attempt

variable {σ υ μ : Type}

/-- A pass with the moves that led to it. -/
structure Recorded (σ μ : Type) where
  pass : Pass σ μ
  moves : List (Move μ)

/-- Passes that record the moves made on them. -/
def Setup.recorder (setup : Setup σ) : Carrier (Recorded σ μ) μ where
  act move recorded :=
    ((move.run setup recorded.pass).1, ⟨(move.run setup recorded.pass).2, recorded.moves ++ [move]⟩)
  memory recorded := recorded.pass.memory
  look path recorded := setup.look path recorded.pass.outlet.state

/-- A move on a record is the move on its pass, added to its list. -/
theorem Setup.recorder_act (setup : Setup σ) (move : Move μ) (recorded : Recorded σ μ) :
    setup.recorder.act move recorded =
      ((move.run setup recorded.pass).1,
        ⟨(move.run setup recorded.pass).2, recorded.moves ++ [move]⟩) := rfl

namespace Move

/-- One more move leads on from where the others end. -/
theorem play_concat (setup : Setup σ) (moves : List (Move μ)) (move : Move μ) (pass : Pass σ μ) :
    play setup (moves ++ [move]) pass = (move.run setup (play setup moves pass)).2 := by
  -- The last move is a row of its own.
  rw [play_append]
  rfl

/-- One more move goes smoothly if the others do and it succeeds where they end. -/
theorem smooth_concat {setup : Setup σ} {moves : List (Move μ)} {move : Move μ} {pass : Pass σ μ} :
    Smooth setup (moves ++ [move]) pass ↔
      Smooth setup moves pass ∧ (move.run setup (play setup moves pass)).1 = .ok () := by
  -- Being one, it goes smoothly if it succeeds.
  rw [Smooth, along_append]
  simp only [Along, and_true, isOk_iff]

end Move

namespace Script

/-- The moves that a script makes on a pass, in order. -/
def moves (setup : Setup σ) (script : Script μ) (pass : Pass σ μ) : List (Move μ) :=
  (script.interpret setup.recorder ⟨pass, []⟩).2.moves

/-- Recording its moves changes nothing about a script. -/
theorem recorded (setup : Setup σ) (script : Script μ) (pass : Pass σ μ) :
    script.interpret setup.recorder ⟨pass, []⟩ =
      ((script.run setup pass).1, ⟨(script.run setup pass).2, script.moves setup pass⟩) := by
  -- The pass of a record is the one that the script runs on.
  have follows := @interpret_follows (Pass σ μ) (Recorded σ μ) μ
    (fun pass recorded => recorded.pass = pass) (fun _ => False) setup.carrier setup.recorder
    (fun move => by
      refine ⟨False.elim, fun same => ?_⟩
      subst same
      exact Or.inr ⟨rfl, rfl⟩)
    (fun _ _ same => by subst same; rfl) (fun _ _ _ same => by subst same; rfl) script
  rcases @Follows.goes _ _ _ _ _ _ _ follows pass ⟨pass, []⟩ rfl with gone | ⟨answer, same⟩
  · exact gone.elim
  · rw [run_eq_interpret, ← answer, ← same]
    rfl

/-- The pass that a script leaves behind is the one that its moves lead to. -/
theorem run_moves (setup : Setup σ) (script : Script μ) (pass : Pass σ μ) :
    (script.run setup pass).2 = Move.play setup (script.moves setup pass) pass := by
  -- Every move that is recorded has been made.
  have follows := @interpret_follows (Recorded σ μ) (Recorded σ μ) μ
    (fun first second => first = second ∧ first.pass = Move.play setup first.moves pass)
    (fun _ => False) setup.recorder setup.recorder
    (fun move => by
      refine ⟨False.elim, fun together => ?_⟩
      obtain ⟨rfl, played⟩ := together
      refine Or.inr ⟨rfl, rfl, ?_⟩
      simp only [Setup.recorder, Move.play_concat, ← played])
    (fun _ _ together => by rw [together.1]) (fun _ _ _ together => by rw [together.1]) script
  -- Nothing is ever lost, so the record stays in step to the end.
  rcases @Follows.goes _ _ _ _ _ _ _ follows ⟨pass, []⟩ ⟨pass, []⟩ ⟨rfl, rfl⟩ with
    gone | ⟨_, _, played⟩
  · exact gone.elim
  · rw [recorded] at played
    exact played

/-- Two records of the same moves, each of them played from its own start. -/
structure Abreast (first : Setup σ) (second : Setup υ) (pass : Pass σ μ) (other : Pass υ μ)
    (left : Recorded σ μ) (right : Recorded υ μ) : Prop where
  moves : right.moves = left.moves
  played : left.pass = Move.play first left.moves pass
  again : right.pass = Move.play second left.moves other
  memory : left.pass.memory = right.pass.memory

/-- A move that succeeds on both sides is recorded on both sides. -/
theorem Abreast.act {first : Setup σ} {second : Setup υ} {pass : Pass σ μ} {other : Pass υ μ}
    {left : Recorded σ μ} {right : Recorded υ μ}
    (abreast : Abreast first second pass other left right) {move : Move μ}
    (smooth : Move.Smooth first (left.moves ++ [move]) pass)
    (again : Move.Smooth second (left.moves ++ [move]) other) :
    (second.recorder.act move right).1 = (first.recorder.act move left).1 ∧
      Abreast first second pass other (first.recorder.act move left).2
        (second.recorder.act move right).2 := by
  -- Each side goes on from where its own moves have led.
  have here := (Move.smooth_concat.1 smooth).2
  have there := (Move.smooth_concat.1 again).2
  rw [← abreast.played] at here
  rw [← abreast.again] at there
  refine ⟨there.trans here.symm, congrArg (· ++ [move]) abreast.moves, ?_, ?_, ?_⟩
  · show (move.run first left.pass).2 = Move.play first (left.moves ++ [move]) pass
    rw [Move.play_concat, ← abreast.played]
  · show (move.run second right.pass).2 = Move.play second (left.moves ++ [move]) other
    rw [Move.play_concat, ← abreast.again]
  -- Both sides remember the same before the move, and the move says what they remember after it.
  · show (move.run first left.pass).2.memory = (move.run second right.pass).2.memory
    rw [(Move.run_frame first move left.pass).memory,
      (Move.run_frame second move right.pass).memory, abreast.memory]

/-- A script that looks at no file makes the same moves on another pass with the same memory, if
they go smoothly on both, and answers the same there. -/
theorem moves_again {first : Setup σ} {second : Setup υ} {script : Script μ} (blind : script.Blind)
    {pass : Pass σ μ} {other : Pass υ μ} (memory : pass.memory = other.memory)
    (smooth : Move.Smooth first (script.moves first pass) pass)
    (again : Move.Smooth second (script.moves first pass) other) :
    script.moves second other = script.moves first pass ∧
      (script.run second other).1 = (script.run first pass).1 := by
  -- As long as all moves so far succeed on both passes, both are asked for the same next one.
  have follows := @interpret_follows _ _ μ (Abreast first second pass other)
    (fun left => ¬(Move.Smooth first left.moves pass ∧ Move.Smooth second left.moves other))
    first.recorder.blindfold second.recorder.blindfold
    (fun move => by
      constructor
      · intro left gone both
        exact gone ⟨(Move.along_append.1 both.1).1, (Move.along_append.1 both.2).1⟩
      · intro left right abreast
        by_cases both : Move.Smooth first (left.moves ++ [move]) pass ∧
            Move.Smooth second (left.moves ++ [move]) other
        · exact Or.inr (abreast.act both.1 both.2)
        · exact Or.inl both)
    (fun _ _ abreast => abreast.memory) (fun _ _ _ _ => rfl) script
  -- A blind script does the same whether or not it could look.
  rw [interpret_blindfold _ blind, interpret_blindfold _ blind] at follows
  have goes := @Follows.goes _ _ _ _ _ _ _ follows ⟨pass, []⟩ ⟨other, []⟩ ⟨rfl, rfl, rfl, memory⟩
  rw [recorded, recorded] at goes
  rcases goes with gone | ⟨answer, abreast⟩
  · exact absurd ⟨smooth, again⟩ gone
  · exact ⟨abreast.moves, answer⟩

end Script

end Stencil
