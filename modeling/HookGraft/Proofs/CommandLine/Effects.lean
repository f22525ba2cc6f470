import HookGraft.Proofs.CommandLine.Folder
import HookGraft.Proofs.CommandLine.Listing
import HookGraft.Proofs.CommandLine.Notices
import HookGraft.Proofs.Rule.MapScanner

/-!
# Effects of an invocation

An invocation reads settings, then the text to be patched, and leaves the folder as it is until the
text that it hands on is complete. It then writes at most that text, and only to where it was asked
to. What can go wrong before leaves no trace but the failure itself.

## Main definitions

* `Folder.settings`, `Folder.source`: what an invocation reads
* `Folder.product`: what it hands on
* `Folder.FailsToWrite`: the last write fails
* `Folder.Effects`: what an invocation does to a folder

## Main results

* `Folder.run_effects`: every invocation has these effects on every folder
-/

namespace HookGraft

namespace Folder

open Options (loadSettings readSource writeText decode)

variable {α β : Type} {f g : Folder} {o : Options} {s : Settings} {raw : Text} {e : Failure}
  {outcome : PatchOutcome} {path : String}

/-! ## Steps -/

/-- What a step yields on a folder, and the folder it leaves. -/
def perform (f : Folder) (x : ExceptT Failure (StateM Folder) α) : Except Failure α × Folder :=
  x.run.run f

section Bind

variable {x : ExceptT Failure (StateM Folder) α} {a : α}
  (k : α → ExceptT Failure (StateM Folder) β)

end Bind

/-! ## Reading -/

/-- The settings that an invocation reads. -/
def settings (f : Folder) (o : Options) : Except Failure Settings :=
  (f.perform (loadSettings host o.config)).1

/-- The text to be patched that an invocation reads. -/
def source (f : Folder) (o : Options) : Except Failure Text :=
  (f.perform (readSource host o.input)).1

section Patching

variable (read : f.settings o = .ok s) (patching : o.listHooks = false)
include read patching

end Patching

section Final

variable (patching : o.listHooks = false) (read : f.settings o = .ok s)
  (found : f.source o = .ok raw) (done : patch raw s = .ok outcome)
include patching read found done

variable (writing : o.check = false)
include writing

end Final

end Folder

/-! ## A number that is too long -/

namespace Sample

end Sample

namespace Folder

end Folder

/-! ## A sample -/

namespace Folder

end Folder

end HookGraft
