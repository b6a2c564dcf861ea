import CallAttribution.Routine
import CallAttribution.Record

/-!
# The engine

An engine runs every one of its heuristics on a call site, in the order in which they were
registered, ranks the answers by confidence and then by the place of the heuristic, and decides for
the head of the ranking. On the way it hands out one line for the call, one for each heuristic and
one for the outcome.
-/

namespace CallAttribution

/-- Heuristics of different names, in the order of registration. -/
structure Engine where
  heuristics : List Heuristic
  distinct : (heuristics.map (·.name)).Nodup

structure AlreadyRegistered where
  name : String

def AlreadyRegistered.message (e : AlreadyRegistered) : String :=
  "Heuristic '" ++ e.name ++ "' is already registered"

namespace Engine

def empty : Engine :=
  ⟨[], by simp⟩

def names (e : Engine) : List String :=
  e.heuristics.map (·.name)

/-- Register one more heuristic, after all others. -/
def register (e : Engine) (h : Heuristic) : Except AlreadyRegistered Engine :=
  if hn : h.name ∈ e.names then .error ⟨h.name⟩
  else .ok ⟨e.heuristics ++ [h], by
    have hd := e.distinct
    simp only [names] at hn
    rw [List.map_append, List.nodup_append]
    refine ⟨hd, by simp, ?_⟩
    intro a ha b hb
    simp only [List.map_cons, List.map_nil, List.mem_singleton] at hb
    rintro rfl
    exact hn (hb ▸ ha)⟩

def registerAll (e : Engine) (hs : List Heuristic) : Except AlreadyRegistered Engine :=
  hs.foldlM register e

structure Answer where
  heuristic : String
  finding : Finding

def Answer.toDecision (a : Answer) : Decision :=
  ⟨a.heuristic, a.finding.candidates, a.finding.confidence⟩

/-- An answer, under the place of its heuristic among those that are registered. -/
structure Ranked where
  place : Nat
  answer : Answer

/-- The lower of two keys goes first. -/
def Ranked.key (r : Ranked) : Int × Nat :=
  (-r.answer.finding.confidence, r.place)

def Ranked.precedes (r s : Ranked) : Bool :=
  r.key.1 < s.key.1 || (r.key.1 == s.key.1 && r.key.2 ≤ s.key.2)

/-- The head of the ranking. -/
def winner? (rs : List Ranked) : Option Answer :=
  (rs.mergeSort Ranked.precedes).head?.map (·.answer)

def showLabels (cs : List Candidate) : String :=
  ", ".intercalate (cs.map (·.label))

def headerLine (c : CallSite) : String :=
  "    Resolving: " ++ c.storageVariable ++ " -> " ++ c.calledFunction ++ "() [" ++
    c.interfaceType ++ "]"

def heuristicLine (name : String) : Option Finding → String
  | none => "      - " ++ name ++ ": no match"
  | some f =>
    "      - " ++ name ++ ": " ++ Text.showNat f.candidates.length ++ " match(es) [" ++
      showLabels f.candidates ++ "] -> confidence: " ++ Text.showNat f.confidence ++ "%"

def winnerLine (a : Answer) : String :=
  "      Winner: " ++ a.heuristic ++ " (" ++ Text.showNat a.finding.confidence ++ "%) -> " ++
    showLabels a.finding.candidates

def noWinnerLine : String :=
  "      Result: no winner"

/-- Run the heuristics in turn from a place on, handing out a line for each and keeping the answers
under their places. -/
def consult (c : Context) (ranked : List Ranked) :
    Nat → List Heuristic → Routine String (List Ranked)
  | _, [] => .done ranked
  | place, h :: hs =>
    match h.apply c with
    | none => .emit (heuristicLine h.name none) (consult c ranked (place + 1) hs)
    | some f =>
      .emit (heuristicLine h.name (some f))
        (consult c (ranked ++ [⟨place, h.name, f⟩]) (place + 1) hs)

/-- Resolve one call site, handing out the lines that tell how. -/
def resolve (e : Engine) (c : Context) : Routine String (Option Decision) :=
  .emit (headerLine c.call)
    ((consult c [] 0 e.heuristics).bind fun ranked =>
      match winner? ranked with
      | none => .emit noWinnerLine (.done none)
      | some a => .emit (winnerLine a) (.done (some a.toDecision)))

/-- The engine with these heuristics of different names. -/
def ofBuiltins (addressPrefix : String) (bs : List Builtin) (distinct : bs.Nodup) : Engine where
  heuristics := bs.map (·.toHeuristic addressPrefix)
  distinct := by
    have h : (bs.map (·.toHeuristic addressPrefix)).map (·.name) = bs.map Builtin.name := by
      simp [Builtin.name_toHeuristic]
    rw [h]
    exact List.Pairwise.map _ (fun a b hab hn => hab (Builtin.name_injective hn)) distinct

end Engine

end CallAttribution
