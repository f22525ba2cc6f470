import HookGraft.Edit
import HookGraft.Rule.Basic

/-!
# The chat listener

When the lobby is hidden, the key handler that opens the chat is unbound. The call that does so is
taken out; the statements before it stay as they are.

## Main definitions

* `ChatListener.rule`: the rule
-/

namespace HookGraft.ChatListener

/-- The call, behind a group that reads what has to stand before it. -/
def unbinding : Signature where
  template := ⟨[
    "(this\\[.{10,20}\\]=function\\(\\)\\\x7b",
    ".{20,40}this\\[.{10,20}\\]=false;.{0,11})",
    "\\$\\(document\\)\\[.{10,20}\\]",
    "\\(.{10,20},.{3,4}\\);"]⟩

/-- The name of the rule. -/
def name : String := "chat-listener"

/-- Locates the call and takes it out. -/
def apply (text : Text) : Discovery RuleOutcome := do
  let found ← (← unbinding.compile name (← get)).first text
  return { text := ← found.keepOnly name 1, sites := 1 }

/-- Keeps the key handler of the chat bound. -/
def rule : Rule where
  name := name
  description := "Keeps the chat hot-key listener bound while the lobby is hidden"
  templates := [unbinding.template]
  apply := apply

end HookGraft.ChatListener
