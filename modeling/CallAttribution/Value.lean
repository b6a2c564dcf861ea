import CallAttribution.Binary64
import CallAttribution.Table

/-!
# Values of documents

What a JSON or TOML document holds before anything is known about its meaning. The members of an
object keep the order of the document. Dates and times of day are one kind of value whose content
nothing reads.
-/

namespace CallAttribution

inductive Value where
  | null
  | bool (b : Bool)
  | int (i : Int)
  | real (x : Binary64)
  | str (s : String)
  | moment
  | arr (items : List Value)
  | obj (members : List (String × Value))

namespace Value

def str? : Value → Option String
  | .str s => some s
  | _ => none

def arr? : Value → Option (List Value)
  | .arr items => some items
  | _ => none

end Value

end CallAttribution
