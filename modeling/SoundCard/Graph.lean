import SoundCard.Power

/-!
# The power graph

The widgets and routes the card contributes. Names such as `IN1L`, `MICBIAS1` or `AIFTX` are
widgets of the codec. The receive widget sits between the S/PDIF input and the codec's transmit
interface, so it is powered only while the input is routed there; its events tell the card which
clock FLL1 is to follow.
-/

namespace SoundCard

/-- A selector with named items. -/
structure Selector where
  name : String
  items : List String
  deriving DecidableEq

inductive WidgetKind
  | mic
  | input
  | output
  | mux (control : Selector)
  /-- A gain stage that reports events. -/
  | gain (events : EventSet)
  deriving DecidableEq

structure Widget where
  name : String
  kind : WidgetKind
  deriving DecidableEq

/-- Only a gain stage asks for events. -/
def Widget.events (w : Widget) : EventSet :=
  match w.kind with
  | .gain events => events
  | _ => ∅

/-- An edge from `source` to `sink`; with a control, it conducts only while the sink selects that
item. -/
structure Route where
  sink : String
  control : Option String := none
  source : String
  deriving DecidableEq

namespace Graph

/-- The widget whose events select the reference of FLL1. -/
def receiveWidget : String := "dummy SPDIFRX"

/-- Selects whether the line input gets a bias voltage; no register stands behind it. -/
def lineBias : Selector where
  name := "Route"
  items := ["off", "on"]

def widgets : List Widget := [
  ⟨"DMIC", .mic⟩,
  ⟨"Headset Mic", .mic⟩,
  ⟨"Line Input", .input⟩,
  ⟨"Line Input with Micbias", .mic⟩,
  ⟨"Line Input Micbias", .mux lineBias⟩,
  ⟨"dummy SPDIF in", .input⟩,
  ⟨receiveWidget, .gain { afterUp := true, afterDown := true }⟩,
  ⟨"Dummy Input", .input⟩,
  ⟨"Dummy Output", .output⟩]

def routes : List Route := [
  ⟨"IN1L", none, "Headset Mic"⟩,
  ⟨"IN1R", none, "Headset Mic"⟩,
  ⟨"Headset Mic", none, "MICBIAS1"⟩,
  ⟨"IN2L", none, "DMIC"⟩,
  ⟨"IN2R", none, "DMIC"⟩,
  ⟨"DMIC", none, "MICBIAS2"⟩,
  ⟨"IN3L", none, "Line Input Micbias"⟩,
  ⟨"IN3R", none, "Line Input Micbias"⟩,
  ⟨"Line Input Micbias", some "off", "Line Input"⟩,
  ⟨"Line Input Micbias", some "on", "Line Input with Micbias"⟩,
  -- without MICVDD the line input picks up noise
  ⟨"Line Input", none, "MICVDD"⟩,
  ⟨"Line Input with Micbias", none, "MICBIAS3"⟩,
  ⟨receiveWidget, none, "dummy SPDIF in"⟩,
  ⟨"AIFTX", none, receiveWidget⟩,
  -- these keep the first interface powered while every mixer is off
  ⟨"Dummy Output", none, "AIF1RX1"⟩,
  ⟨"Dummy Output", none, "AIF1RX2"⟩,
  ⟨"AIF1TX1", none, "Dummy Input"⟩,
  ⟨"AIF1TX2", none, "Dummy Input"⟩]

def widget? (name : String) : Option Widget := widgets.find? (·.name == name)

/-- The routes with the given ends and control, in table order; what is not given is not compared. -/
def routesBetween (sink source : Option String) (control : Option (Option String)) : List Route :=
  routes.filter fun r =>
    sink.all (· == r.sink) && source.all (· == r.source) && control.all (· == r.control)

/-- The place of a route in the table. -/
def indexOf? (r : Route) : Option Nat := routes.idxOf? r

end Graph

end SoundCard
