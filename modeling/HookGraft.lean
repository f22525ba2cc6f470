import HookGraft.CommandLine.Folder
import HookGraft.Main
import HookGraft.Proofs.CommandLine.Effects
import HookGraft.Proofs.Fragment.PassedOver
import HookGraft.Proofs.Pattern.Verbatim
import HookGraft.Proofs.Pipeline.Failures
import HookGraft.Proofs.Pipeline.Identifiers
import HookGraft.Proofs.Pipeline.Insertion
import HookGraft.Proofs.Pipeline.Repatching
import HookGraft.Proofs.Rule.PickerSearch
import HookGraft.Proofs.Rule.ResetNames
import HookGraft.Proofs.Rule.ResetPairs
import HookGraft.Proofs.Rule.UndoRoutine
import HookGraft.Proofs.Pattern.Sketch
import HookGraft.Proofs.Pattern.TwoTexts
import HookGraft.Proofs.Pipeline.TwoNamespaces
import HookGraft.Proofs.Fragment.Statement
import HookGraft.Proofs.Pattern.InPlace
import HookGraft.Proofs.Regex.Scanner
import HookGraft.Proofs.Rule.MapAssignment
import HookGraft.Proofs.Regex.Groups
import HookGraft.Proofs.Pattern.Locating
import HookGraft.Proofs.Rule.EncoderRegistration
import HookGraft.Proofs.Rule.ListenerCall
import HookGraft.Proofs.Rule.PickerBody
import HookGraft.Proofs.Pattern.Replacing
import HookGraft.Proofs.Template.Substitution
import HookGraft.Proofs.Pipeline.Order
import HookGraft.Proofs.BindingHistory
import HookGraft.Proofs.CommandLine.Arguments
import HookGraft.Proofs.Settings.Json
