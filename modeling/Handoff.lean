import Handoff.Proofs.Channels.Delivery
import Handoff.CommandLine
import Handoff.Main
import Handoff.Proofs.Command.Output
import Handoff.Proofs.Context.Wire
import Handoff.Proofs.Fixture.Agreement
import Handoff.Proofs.Ident.Text
import Handoff.Proofs.Loop.Stop
import Handoff.Proofs.Office.Handover
import Handoff.Proofs.Queue.Conservation
import Handoff.Proofs.Queue.Waking
import Handoff.Proofs.Record.Text
import Handoff.Proofs.Reference.Grammar
import Handoff.Proofs.Reference.Text
import Handoff.Proofs.Resolution.Calls
import Handoff.Proofs.Resolution.Contexts
import Handoff.Proofs.Resolution.Faults
import Handoff.Proofs.Resolution.Isolation
import Handoff.Proofs.Resolution.States
import Handoff.Proofs.Settings.Paths
import Handoff.Proofs.Settings.Usable
import Handoff.Proofs.Store.History
import Handoff.Proofs.TaskNode.Forms
import Handoff.Queue.Waiting
import Handoff.Proofs.Resolution.Policies
import Handoff.Proofs.Relation.Registrations
import Handoff.Proofs.Wiring.Histories
