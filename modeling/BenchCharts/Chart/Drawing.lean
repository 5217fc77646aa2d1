import BenchCharts.Project
import BenchCharts.Text.Quoted

namespace BenchCharts

structure Rect where
  x : Int
  y : Int
  width : Int
  height : Int
  fill : Colour
deriving DecidableEq, Repr

structure Segment where
  x1 : Int
  y1 : Int
  x2 : Int
  y2 : Int
deriving DecidableEq, Repr

-- Two caps, the line between them, and a dot at the mean.
structure ErrorBar where
  lines : List Segment
  x : Int
  y : Int
  radius : Nat
deriving DecidableEq, Repr

structure Caption where
  x : Int
  y : Int
  text : String
deriving DecidableEq, Repr

structure Drawing where
  rects : List Rect
  errorBars : List ErrorBar
  xLabels : List Caption
  values : List Caption
  title : Option Caption
  yLabel : Caption
deriving DecidableEq, Repr

def Caption.shown (c : Caption) : String := Text.markup c.text

def textAttr (name value : String) : String := " " ++ name ++ "=\"" ++ value ++ "\""
def intAttr (name : String) (value : Int) : String := textAttr name (toString value)
def element (name attributes : String) : String := "<" ++ name ++ attributes ++ "/>\n"

def Rect.svg (r : Rect) : String :=
  element "rect" <| intAttr "x" r.x ++ intAttr "y" r.y ++ intAttr "width" r.width ++
    intAttr "height" r.height ++ textAttr "fill" r.fill.hex

def Segment.svg (s : Segment) : String :=
  element "line" <| intAttr "x1" s.x1 ++ intAttr "y1" s.y1 ++ intAttr "x2" s.x2 ++
    intAttr "y2" s.y2 ++ textAttr "stroke" "#000000"

def ErrorBar.svg (e : ErrorBar) : String :=
  String.join (e.lines.map Segment.svg) ++
    element "circle" (intAttr "cx" e.x ++ intAttr "cy" e.y ++ intAttr "r" e.radius)

def Caption.svg (c : Caption) : String :=
  "<text" ++ intAttr "x" c.x ++ intAttr "y" c.y ++ textAttr "text-anchor" "middle" ++ ">" ++
    c.shown ++ "</text>\n"

namespace Drawing

def width : Nat := 640
def height : Nat := 480
def white : Colour := ⟨255, 255, 255⟩

def svg (d : Drawing) : String :=
  "<svg" ++ intAttr "width" width ++ intAttr "height" height ++ ">\n" ++
    String.join (d.rects.map Rect.svg) ++ String.join (d.errorBars.map ErrorBar.svg) ++
    String.join ((d.values ++ d.xLabels ++ d.title.toList ++ [d.yLabel]).map Caption.svg) ++ "</svg>\n"

end Drawing
end BenchCharts
