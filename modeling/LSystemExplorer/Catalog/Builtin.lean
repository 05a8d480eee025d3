import LSystemExplorer.Catalog.Basic

/-!
# The models that are always there

When no catalog is named the program shows these fractals.  They are records like
those of a catalog that is read from a file.

In the Penrose tiling the digits are symbols of the grammar alone.  The digit one
is erased by every pass, and only those of the last generation are left for the
final rules to turn into segments.
-/

set_option autoImplicit false

namespace LSystemExplorer.Builtin

variable {α : Type} [Scalar α]

/-- Rules whose words are given as texts. -/
def written (rules : List (Symbol × String)) : List (Symbol × Word) :=
  rules.map fun rule => (rule.1, rule.2.toList)

/-- A record without final rules. -/
def entry (name : String) (iterations : Int) (seed : String) (angle : α) (position : α × α)
    (angleStep segments : α) (rules : List (Symbol × String)) : Record α where
  name := name
  mapping := written rules
  finalMapping := []
  iterations := iterations
  initialValue := seed.toList
  initialAngle := angle
  initialPosition := position
  angleStep := angleStep
  segments := segments

/-- A record with final rules added. -/
def withFinalRules (record : Record α) (rules : List (Symbol × String)) : Record α :=
  { record with finalMapping := written rules }

/-- The records of the fractals that are always there. -/
def records : List (Record α) :=
  [entry "Weed" 4 "F" 90.0 (0.5, 1.0) 25.0 3.0
      [('F', "F[-F]F[+F]F")],
    entry "Weed 2" 6 "X" 60.0 (0.2, 0.9) 25.0 2.4
      [('X', "F-[[X]+X]+F[+FX]-X"), ('F', "FF")],
    entry "Vine" 4 "F" 90.0 (0.5, 1.0) 70.0 3.0
      [('F', "FF+F+F+FF+F+F-F")],
    entry "Design 1" 5 "F" 90.0 (0.5, 1.0) 90.0 3.0
      [('F', "FF[-F-F][+F+F]F")],
    entry "Design 2" 5 "F" 90.0 (0.5, 1.0) 90.0 3.0
      [('F', "F[|+F][|-F]F[-F][+F]F")],
    entry "Design 3" 5 "[FX][+FX][|+FX][-FX][|-FX][|FX]" 90.0 (0.5, 0.5) 60.0 2.75
      [('X', "[FX][+FX][|+FX][-FX][|-FX]"), ('F', "FF")],
    entry "Design 4" 7 "[|Y][FXFX][+FXFXFX-FXFX][-FXFXFX+FXFX]" 0.0 (0.25, 0.5) 90.0 2.75
      [('X', "[FX][+FX][-FX]"), ('Y', "[FX][+FX][-FX][|FX]"), ('F', "FF")],
    entry "Peano" 4 "X" 90.0 (0.0, 1.0) 90.0 3.0
      [('X', "XFYFX+F+YFXFY-F-XFYFX"), ('Y', "YFXFY-F-XFYFX+F+YFXFY")],
    entry "Space-filling 2" 6 "X" (-90.0) (0.0, 0.0) 90.0 2.0
      [('X', "-YF+XFX+FY-"), ('Y', "+XF-YFY-FX+")],
    entry "Koch" 4 "F" 90.0 (0.5, 1.0) 60.0 3.0
      [('F', "F-F++F-F")],
    entry "Koch 2" 4 "F" 90.0 (0.5, 1.0) 90.0 3.0
      [('F', "F-F+F+F-F")],
    entry "Koch Snowflake" 4 "F++F++F" 120.0 (0.5, 1.0) 60.0 3.1
      [('F', "F-F++F-F")],
    withFinalRules
      (entry "Sierpinski" 8 "A" (-60.0) (0.5, 0.05) 60.0 2.0
        [('A', "B-A-B"), ('B', "A+B+A")])
      [('A', "F"), ('B', "F")],
    entry "Carpet" 4 "F" 90.0 (0.5, 1.0) 90.0 3.0
      [('F', "F+F-F-F-f+F+F+F-F"), ('f', "fff")],
    withFinalRules
      (entry "Median" 8 "L--F--L--F" 90.0 (0.5, 1.0) 45.0 1.645
        [('L', "+R-F-R+"), ('R', "-L+F+L-")])
      [('L', "F"), ('R', "F")],
    entry "Dragon" 10 "FX" 90.0 (0.3, 0.6) 90.0 1.5
      [('X', "X+YF"), ('Y', "FX-Y")],
    entry "Gosper" 4 "XF" 30.0 (0.4, 0.2) 60.0 3.0
      [('X', "X+YF++YF-FX--FXFX-YF+"), ('Y', "-FX+YFYF++YF+FX--FX-Y")],
    withFinalRules
      (entry "Penrose" 4 "[7]++[7]++[7]++[7]++[7]" 90.0 (0.5, 0.5) 36.0 2.0
        [('6', "81++91----71[-81----61]++"), ('7', "+81--91[---61--71]+"),
         ('8', "-61++71[+++81++91]-"), ('9', "--81++++61[+91++++71]--71"), ('1', "")])
      [('1', "F")],
    entry "Pleasant Error" 4 "F-F-F-F-F" 18.0 (0.375, 0.075) 72.0 3.05
      [('F', "F-F++F+F-F-F")],
    withFinalRules
      (entry "Lace" 6 "W" 90.0 (0.0, 1.0) 30.0 2.11
        [('W', "+++X--F--ZFX+"), ('X', "---W++F++YFW-"), ('Y', "+ZFX--F--Z+++"),
         ('Z', "-YFW++F++Y---")])
      [('W', "F"), ('X', "F"), ('Y', "F"), ('Z', "F")]]

end LSystemExplorer.Builtin
