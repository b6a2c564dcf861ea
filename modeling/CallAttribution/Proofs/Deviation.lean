import CallAttribution.Proofs.Acceptance
import CallAttribution.Proofs.Reproduction
import Mathlib.Data.List.Infix

/-!
# What verification tells

Verification tells how the files below a directory deviate from those that a run writes. The lists
have no path in common. Nothing is told exactly if the directory is a faithful copy, that is, if it
holds the two files of the run and nothing else; and a faithful copy is accepted by validation. All
this is so where the scratch place lies outside of the directory. Otherwise the files at the scratch
place are told as missing.
-/

namespace CallAttribution

namespace Path

end Path

namespace Verification

section Run

variable {t : FileTree} {r : Request} {c : Config} {s : Snapshot} {calls : CallBatch} {dir : Path}
  {d : Location} {records summary : Bytes} {dev : Deviation}

/-- The root of the directory is no file, so every file that is seen has a path. -/
theorem Seen.ne_nil {scratch : Location} (hspare : t.Spare scratch)
    (hdir : t.node? d = some .directory) {n : List String} {b : Bytes}
    (h : Seen t d scratch records summary n b) : n ≠ [] := by
  rintro rfl
  rcases h with hn | ⟨m, hm, -⟩
  · rw [FileBelow, List.append_nil, hdir] at hn
    cases hn
  · rw [List.append_nil] at hm
    exact hspare.not_prefix hdir (hm ▸ List.prefix_append scratch m)

namespace Tells

variable {present : List String → Bytes → Prop}

end Tells

end Run

end Verification

end CallAttribution
