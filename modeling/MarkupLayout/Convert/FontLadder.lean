import MarkupLayout.Number.Exact
import MarkupLayout.Number.Literal
import MarkupLayout.Text.Blank

/-!
# The font ladder

The seven steps of the old size attribute stand for seven font sizes, which are finite, positive
and strictly ascending. A size attribute that is out of range counts as the nearest step.
-/

namespace MarkupLayout.Convert

def isPositiveSize (size : Float) : Bool :=
  size.isFinite && 0.0 < size

/-- No size is at or below the one before it. -/
def isAscending (sizes : Vector Float 7) : Bool :=
  !(sizes.toList.zip sizes.toList.tail).any fun pair => pair.1 ≥ pair.2

structure FontLadder where
  sizes : Vector Float 7
  positive : sizes.toList.all isPositiveSize = true
  ascending : isAscending sizes = true

namespace FontLadder

inductive Defect where
  | notPositive
  | notAscending
deriving DecidableEq, Repr

def ofSizes (sizes : Vector Float 7) : Except Defect FontLadder :=
  if positive : sizes.toList.all isPositiveSize = true then
    if ascending : isAscending sizes = true then .ok ⟨sizes, positive, ascending⟩
    else .error .notAscending
  else .error .notPositive

def step (size : Int) : Fin 7 :=
  ⟨(max 1 (min 7 size) - 1).toNat, by omega⟩

/-- The font size for a size attribute; no size is below the first of the ladder. -/
def size (ladder : FontLadder) (n : Int) : Float :=
  Number.larger ladder.sizes[0] ladder.sizes[step n]

def attrSize? (text : String) : Option Int :=
  Number.leadingInteger? (Text.trimStartBy Text.isBlank text.toList)

end FontLadder

def defaultFontSizes : Vector Float 7 :=
  #v[10.0, 14.0, 16.0, 18.0, 20.0, 24.0, 28.0]

end MarkupLayout.Convert
