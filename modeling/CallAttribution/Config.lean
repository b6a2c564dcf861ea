import CallAttribution.Engine
import CallAttribution.Reporter

/-!
# Configuration

A configuration chooses the heuristics and their order, says how addresses begin, where artifacts
are written and whether the trace is shown. What has been accepted can be used without further
checks: the chosen heuristics are known and different, and the trace interval is positive.
-/

namespace CallAttribution

open Schema

/-- Different heuristics in the order of registration. -/
structure Selection where
  order : List Builtin
  distinct : order.Nodup

namespace Selection

def empty : Selection :=
  ⟨[], by simp⟩

def default : Selection :=
  ⟨Builtin.defaultOrder, by decide⟩

/-- Choose one more heuristic, after all others. -/
def add (s : Selection) (b : Builtin) (h : b ∉ s.order) : Selection :=
  ⟨s.order ++ [b], by
    rw [List.nodup_append]
    refine ⟨s.distinct, by simp, ?_⟩
    intro a ha c hc
    rw [List.mem_singleton] at hc
    rintro rfl
    exact h (hc ▸ ha)⟩

def addNames (s : Selection) : List String → Checked Selection
  | [] => .accepted s
  | n :: ns =>
    match Builtin.ofName? n with
    | none =>
      .refuse (.rule ("Invalid heuristic '" ++ n ++ "'. Valid heuristics: " ++
        Builtin.knownNames))
    | some b =>
      if h : b ∈ s.order then
        .refuse (.rule ("Heuristic '" ++ n ++ "' is listed more than once"))
      else (s.add b h).addNames ns

/-- The texts of an array that holds nothing else. -/
def texts? (v : Value) : Option (List String) :=
  v.arr?.bind fun items => items.mapM Value.str?

/-- A list of names of heuristics; `null` stands for the usual ones. -/
def shape : Value → Checked Selection
  | .null => .accepted default
  | v =>
    match texts? v with
    | none => .refuse (.rule "heuristics must be a list of heuristic names")
    | some [] => .refuse (.rule "heuristics must name at least one heuristic")
    | some names => empty.addNames names

end Selection

/-- Whether the trace is shown, and after how many lines showing it gives way. -/
structure TraceSettings where
  enabled : Bool
  throttle : Interval

namespace TraceSettings

def default : TraceSettings :=
  ⟨false, .one⟩

def intervalShape (v : Value) : Checked Interval :=
  (integer v).andThen fun i =>
    match Interval.ofInt? i with
    | some n => .accepted n
    | none => .refuse (.below 1)

def shape : Value → Checked TraceSettings :=
  record "TraceConfig" <| exact ["enabled", "throttle_every"] fun ms =>
    mk <$> defaulted "enabled" false truth ms
      <*> defaulted "throttle_every" .one intervalShape ms

end TraceSettings

structure Config where
  outputDir : String
  heuristics : Selection
  addressPrefix : String
  trace : TraceSettings

namespace Config

def default : Config where
  outputDir := ".calltarget"
  heuristics := .default
  addressPrefix := Heuristic.defaultAddressPrefix
  trace := .default

def prefixShape (v : Value) : Checked String :=
  (text v).andThen fun s => if s = "" then .refuse .emptyText else .accepted s

def shape : Value → Checked Config :=
  record "ResolverConfig" <|
    exact ["output_dir", "heuristics", "address_prefix", "trace"] fun ms =>
      mk <$> defaulted "output_dir" default.outputDir text ms
        <*> defaulted "heuristics" default.heuristics Selection.shape ms
        <*> defaulted "address_prefix" default.addressPrefix prefixShape ms
        <*> defaulted "trace" default.trace TraceSettings.shape ms

def engine (c : Config) : Engine :=
  .ofBuiltins c.addressPrefix c.heuristics.order c.heuristics.distinct

end Config

end CallAttribution
