import CallAttribution.Engine
import CallAttribution.Reporter

/-!
# Resolving a batch

The call sites of a batch are resolved one after another, in the order of the callers and of the
calls of each caller. Before each of them the batch may be cancelled; a call site is never left
half resolved. There are two modes. The plain mode hands out the lines of a call site as they
come; the suspending mode passes them through a reporter that gives way between lines. Besides
lines, both hand out log entries: one after each call site and one at the end.
-/

namespace CallAttribution

inductive Level where
  | debug
  | info
  | warning
  deriving DecidableEq

def Level.name : Level → String
  | debug => "DEBUG"
  | info => "INFO"
  | warning => "WARNING"

/-- What a batch hands out: a line that tells how a call was resolved, or a log entry. -/
inductive Event where
  | trace (line : String)
  | log (level : Level) (message : String)
  deriving DecidableEq

def Event.line? : Event → Option String
  | trace line => some line
  | log _ _ => none

/-- When to stop: asked before each call site, with the number of the question counted from one
and the lines handed out so far. -/
abbrev CancelRule := Nat → List String → Bool

/-- What became of a batch: the records in order, whether it was cancelled, and how often it was
asked whether to stop. -/
structure Outcome where
  records : List Record
  cancelled : Bool
  polls : Nat

def Outcome.summary (o : Outcome) : Summary :=
  Summary.ofRecords o.records o.cancelled

namespace CallBatch

/-- Every call site with what may be looked at to resolve it. The texts of all callers are read
first. -/
def contexts (b : CallBatch) (s : Snapshot) : List Context :=
  let known := Assignments.ofTexts (b.callers.map fun c => (c.address, c.representation))
  b.callers.flatMap fun c => c.calls.map fun call =>
    ⟨call, c.address, s, (known.get? c.address).getD []⟩

end CallBatch

namespace Engine

def decisionEntry (c : Context) : Option Decision → Event
  | none =>
    .log .debug ("Unresolved " ++ c.caller ++ ": " ++ c.call.storageVariable ++ "." ++
      c.call.calledFunction ++ "()")
  | some d =>
    .log .debug ("Resolved " ++ c.caller ++ ": " ++ c.call.storageVariable ++ "." ++
      c.call.calledFunction ++ "() via " ++ d.heuristic ++ " (" ++ Text.showInt d.confidence ++
      "%)")

def outcomeEntry (o : Outcome) : Event :=
  let s := o.summary
  if o.cancelled then
    .log .warning ("Resolution cancelled after " ++ Text.showInt s.total ++ " call(s) (" ++
      Text.showInt s.resolved ++ " resolved)")
  else
    .log .info ("Resolved " ++ Text.showInt s.resolved ++ "/" ++ Text.showInt s.total ++
      " call(s); " ++ Text.showInt s.unresolved ++ " left unresolved")

def recordOf (c : Context) (d : Option Decision) : Record :=
  Record.ofDecision c.caller c.call d

/-- Ask whether to stop. Without a rule nothing is asked and nothing stops. -/
def stops (cancel : Option CancelRule) (polls : Nat) (lines : List String) : Bool :=
  match cancel with
  | none => false
  | some rule => rule (polls + 1) lines

def nextPolls (cancel : Option CancelRule) (polls : Nat) : Nat :=
  if cancel.isSome then polls + 1 else polls

def resolvePlain (e : Engine) (c : Context) : List Event × Option Decision :=
  let p := e.resolve c
  (p.events.map .trace ++ [decisionEntry c p.result], p.result)

/-- Resolve the call sites that are left in the plain mode, given the questions asked and the
lines handed out before. -/
def resolveFrom (e : Engine) (cancel : Option CancelRule) (polls : Nat) (lines : List String) :
    List Context → List Event × Outcome
  | [] => ([], ⟨[], false, polls⟩)
  | c :: cs =>
    if stops cancel polls lines then ([], ⟨[], true, polls + 1⟩)
    else
      let (events, d) := e.resolvePlain c
      let (later, o) :=
        e.resolveFrom cancel (nextPolls cancel polls) (lines ++ events.filterMap (·.line?)) cs
      (events ++ later, { o with records := recordOf c d :: o.records })

def resolveBatch (e : Engine) (s : Snapshot) (b : CallBatch) (cancel : Option CancelRule) :
    List Event × Outcome :=
  let (events, o) := e.resolveFrom cancel 0 [] (b.contexts s)
  (events ++ [outcomeEntry o], o)

def resolveSuspending (e : Engine) (c : Context) (r : Reporter) :
    Routine Event (Option Decision × Reporter) :=
  (r.deliver (Routine.relabel .trace (e.resolve c))).bind fun (d, r) =>
    .emit (decisionEntry c d) (.done (d, r))

/-- Resolve the call sites that are left in the suspending mode. The records so far come in
reverse order. -/
def suspendFrom (e : Engine) (cancel : Option CancelRule) (polls : Nat) (lines : List String)
    (records : List Record) (r : Reporter) : List Context → Routine Event (Outcome × Reporter)
  | [] => .done (⟨records.reverse, false, polls⟩, r)
  | c :: cs =>
    if stops cancel polls lines then .done (⟨records.reverse, true, polls + 1⟩, r)
    else
      let p := e.resolveSuspending c r
      p.bind fun (d, r) =>
        e.suspendFrom cancel (nextPolls cancel polls)
          (lines ++ p.events.filterMap (·.line?)) (recordOf c d :: records) r cs

def suspendBatch (e : Engine) (s : Snapshot) (b : CallBatch) (cancel : Option CancelRule)
    (r : Reporter) : Routine Event (Outcome × Reporter) :=
  (e.suspendFrom cancel 0 [] [] r (b.contexts s)).bind fun (o, r) =>
    .emit (outcomeEntry o) (.done (o, r))

end Engine

end CallAttribution
