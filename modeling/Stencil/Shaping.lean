import Stencil.Text.Blank

/-! Shaping of rendered text: trimming, collapsing what is blank, and joining short lines. -/

namespace Stencil

/-- A renderer of text: call number n answers its n-th rendering. A fixed text renders the same
each time. -/
abbrev Renderer (m : Type → Type) := Nat → m String

/-- The renderer of a fixed text. -/
def Renderer.fixed {m : Type → Type} [Monad m] (text : String) : Renderer m := fun _ => pure text

namespace Shaping

variable {m : Type → Type} [Monad m]

/-- Renders once and removes the blanks at both ends. -/
def trim (render : Renderer m) : m String := do
  return strip (← render 0)

/-- Yields nothing for a blank rendering, and otherwise renders once more. -/
def collapsible (render : Renderer m) : m String := do
  let first ← render 0
  if isBlankText first then return "" else render 1

/-- The number of characters that a line stays below. -/
def lineLimit : Int := 100

/-- The words of a text with one space between them. -/
def joinWords (text : String) : String := " ".intercalate (words text)

/-- Tests whether a line fits beside an indentation of the given width. -/
def fits (line : String) (width : Int) : Bool := decide ((line.length : Int) < lineLimit - width)

/-- Yields the words of the first rendering on one line if they fit beside the indentation, and
otherwise renders once more. -/
def linesShortable (render : Renderer m) (width : m Int) : m String := do
  let first ← render 0
  let joined := joinWords first
  if fits joined (← width) then return joined else render 1

end Shaping

end Stencil
