import BenchCharts.Chart.Basic
import BenchCharts.Chart.Drawing

namespace BenchCharts.Layout

def left : Int := 85
def right : Int := 624
def bottom : Int := 315
def top (chart : BarChart) : Int := if chart.title.isSome then 42 else 15

def barMargin : Int := 8
def capHalf : Int := 4
def labelOffset : Int := 12

-- What lies outside thirty-two bits counts as the nearest whole number inside.
def least : Int := -2147483648
def greatest : Int := 2147483647
def saturate (n : Int) : Int := max least (min greatest n)

def roundDown (x : Float) : Int :=
  match Number.floor? x with
  | some n => saturate n
  | none => if x.isNaN then 0 else if x < 0.0 then least else greatest

def roundUp (x : Float) : Int :=
  match Number.ceil? x with
  | some n => saturate n
  | none => if x.isNaN then 0 else if x < 0.0 then least else greatest

def pixel (v s e : Float) (a b : Int) : Int :=
  if s == e then (b - a).tdiv 2
  else
    let t := (v - s) / (e - s)
    let n := b - a
    if t.isInf then if 0.0 < t then b else a
    else if 0 < n then a + roundDown (Float.ofInt n * t + 0.001)
    else a + roundUp (Float.ofInt n * t - 0.001)

-- Ends of the axis are brought to the positive side and off zero before the logarithm.
def logPixel (ln : Float → Float) (v s e : Float) (a b : Int) : Int :=
  let flip := s < 0.0 || e < 0.0
  let side (x : Float) : Float := if flip then -x else x
  let (v, s, e) := (side v, side s, side e)
  let (s, e) :=
    if s < e then (if s == 0.0 then e * 1e-5 else s, e)
    else (s, if e == 0.0 then s * 1e-5 else e)
  pixel (ln v) (ln s) (ln e) a b

def yPixel (ln : Float → Float) (chart : BarChart) (v : Float) : Int :=
  let (lo, hi) := chart.yRange
  let y := match chart.axis with
    | .linear => pixel v lo hi (bottom - 1) (top chart)
    | .log => logPixel ln v lo hi (bottom - 1) (top chart)
  max (top chart) (min bottom y)

def lastSegment (k : Nat) : Int := ((2 * 539 + (k + 1)) / (2 * (k + 1)) : Nat)

def xPixel (k i : Nat) : Int := pixel i.toFloat 0.0 k.toFloat left (right - lastSegment k)

def xCentre (k i : Nat) : Int :=
  if i < k then (xPixel k i + xPixel k (i + 1)).tdiv 2 else xPixel k k + (lastSegment k).tdiv 2

structure Slot where
  index : Nat
  bar : Bar
  colour : Colour

def slots (chart : BarChart) (colours : List Colour) : List Slot :=
  (chart.bars.zip colours).zipIdx.map fun ((bar, colour), index) => ⟨index, bar, colour⟩

def visible (chart : BarChart) (colours : List Colour) : List Slot :=
  (slots chart colours).filter (·.bar.stats.mean.isFinite)

def drawnMean (chart : BarChart) (bar : Bar) : Float := Number.larger bar.stats.mean chart.yRange.1

def rect (ln : Float → Float) (chart : BarChart) (slot : Slot) : Rect :=
  let k := chart.bars.length
  let x := xPixel k slot.index + barMargin
  let base := yPixel ln chart chart.yRange.1
  let mean := yPixel ln chart (drawnMean chart slot.bar)
  ⟨x, min base mean, xPixel k (slot.index + 1) - barMargin - x, max base mean - min base mean, slot.colour⟩

def errorBar (ln : Float → Float) (chart : BarChart) (slot : Slot) : ErrorBar :=
  let mean := drawnMean chart slot.bar
  let length := chart.error slot.bar
  let x := xCentre chart.bars.length slot.index
  let low := yPixel ln chart (Number.larger (mean - length) chart.yRange.1)
  let high := yPixel ln chart (mean + length)
  ⟨[⟨x - capHalf, low, x + capHalf, low⟩, ⟨x - capHalf, high, x + capHalf, high⟩, ⟨x, low, x, high⟩],
    x, yPixel ln chart mean, 4⟩

-- The label shows the mean itself, also where the bar is cut off at the axis.
def value (ln : Float → Float) (chart : BarChart) (slot : Slot) : Caption :=
  ⟨xCentre chart.bars.length slot.index, yPixel ln chart (drawnMean chart slot.bar) - labelOffset,
    chart.valueLabel.format slot.bar.stats.mean⟩

def captions (chart : BarChart) : List Caption :=
  let k := chart.bars.length
  ((chart.bars.map (·.label)) ++ [""]).zipIdx.map fun (label, i) => ⟨xCentre k i, 325, label⟩

def drawBy (ln : Float → Float) (chart : BarChart) (colours : List Colour) : Drawing where
  rects := ⟨0, 0, Drawing.width, Drawing.height, Drawing.white⟩ :: (visible chart colours).map (rect ln chart)
  errorBars := if chart.errorBars then (visible chart colours).map (errorBar ln chart) else []
  xLabels := captions chart
  values := (visible chart colours).map (value ln chart)
  title := chart.title.map fun text => ⟨320, 20, text⟩
  yLabel := ⟨15, top chart + (bottom - top chart) / 2, chart.yLabel⟩

def draw (chart : BarChart) (colours : List Colour) : Drawing := drawBy Float.log chart colours

end BenchCharts.Layout
