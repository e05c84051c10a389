import StyleAudit.Main
import StyleAudit.Proofs.Preorder
import StyleAudit.Proofs.Examination
import StyleAudit.Proofs.Flow
import StyleAudit.Proofs.Registry
import StyleAudit.Proofs.Reading
import StyleAudit.Proofs.DirectReference
import StyleAudit.Proofs.UsageOrder
import StyleAudit.Proofs.Lifecycle
import StyleAudit.Proofs.Calls
import StyleAudit.Proofs.Trivia
import StyleAudit.Proofs.StyleObjects
import StyleAudit.Proofs.Origin
import StyleAudit.Proofs.Spelling
import StyleAudit.Proofs.Renaming
import StyleAudit.Proofs.Reuse
import StyleAudit.Proofs.Plans
import StyleAudit.Proofs.ExitStatus
import StyleAudit.Proofs.Formats
import StyleAudit.Proofs.Extraction
import StyleAudit.Proofs.DepthLimit
import StyleAudit.Proofs.Configurations
import StyleAudit.Proofs.Wrappers
import StyleAudit.Proofs.TableHistory
import StyleAudit.Proofs.UsageMoves
import StyleAudit.Proofs.RepeatedRegistration
import StyleAudit.Proofs.DisplayedPaths
import StyleAudit.Proofs.Exclusions
import StyleAudit.Proofs.Settings
import StyleAudit.Proofs.WellFormedness
import StyleAudit.Proofs.Nesting
import StyleAudit.Proofs.Icons
