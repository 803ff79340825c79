import Redirect.Main
import Redirect.Proofs.Finding
import Redirect.Proofs.Stages
import Redirect.Proofs.Applied
import Redirect.Proofs.Rehearsal
import Redirect.Proofs.Respelling
import Redirect.Proofs.Insertions
import Redirect.Proofs.Encoding
import Redirect.Proofs.Lines
import Redirect.Proofs.Repeated
import Redirect.Proofs.SecondRun
import Redirect.Proofs.RuleOrder
import Redirect.Proofs.ChangedLines
import Redirect.Proofs.Passes
import Redirect.Proofs.Seams
import Redirect.Proofs.NothingLeft
import Redirect.Proofs.Alike
import Redirect.Proofs.Searches
import Redirect.Proofs.NamedFiles
import Redirect.Proofs.Operation
import Redirect.Proofs.Accounts
import Redirect.Proofs.Envelopes
import Redirect.Proofs.Refusals
import Redirect.Proofs.Conduct
import Redirect.Proofs.TextNames
import Redirect.Proofs.TwoForms
import Redirect.Proofs.BadRequests
import Redirect.Proofs.Skipping
import Redirect.Proofs.Reading
import Redirect.Proofs.ConfigurationFiles
import Redirect.Proofs.BareUses
import Redirect.Proofs.PatternScan
import Redirect.Proofs.RedirectedTexts
import Redirect.Proofs.WalkOrder
import Redirect.Proofs.WellFormedReports
import Redirect.Proofs.Selection
import Redirect.Proofs.LineEndings
import Redirect.Proofs.LegibleReports
import Redirect.Proofs.OneReading
import Redirect.Proofs.EnvelopeStatus
