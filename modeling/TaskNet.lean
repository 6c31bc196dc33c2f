import TaskNet.Main
import TaskNet.Proofs.FrozenLog
import TaskNet.Proofs.SameProgram
import TaskNet.Proofs.StrictReading
import TaskNet.Proofs.Unambiguity
import TaskNet.Proofs.CommentLists
import TaskNet.Proofs.TrueErrors
import TaskNet.Proofs.Obligations
import TaskNet.Proofs.BalancedForms
import TaskNet.Proofs.Deliveries
import TaskNet.Proofs.KeptTexts
import TaskNet.Proofs.Rearrangement
import TaskNet.Proofs.DocumentReading
import TaskNet.Proofs.StatementReading
import TaskNet.Proofs.RoundTrip
import TaskNet.Proofs.SameLookups
import TaskNet.Proofs.ReorderedDocuments
import TaskNet.Proofs.IsolatedUnits
import TaskNet.Proofs.CleanFailure
import TaskNet.Proofs.ListedDefinitions
import TaskNet.Proofs.AcceptedDocuments
import TaskNet.Proofs.Negations
import TaskNet.Proofs.SortedPreconditions
import TaskNet.Proofs.WrittenLists
import TaskNet.Proofs.ArgumentModes
import TaskNet.Proofs.TaskHeads
import TaskNet.Proofs.LocalNames
import TaskNet.Proofs.Occurrences
