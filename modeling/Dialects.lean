import Dialects.Document
import Dialects.Inline.Span
import Dialects.Main
import Dialects.Proofs.ConfigFaults
import Dialects.Proofs.Containment
import Dialects.Proofs.DefaultLanguage
import Dialects.Proofs.Endings
import Dialects.Proofs.Levels
import Dialects.Proofs.LineHeads
import Dialects.Proofs.LinksOverLines
import Dialects.Proofs.Precedence
import Dialects.Proofs.ReadBack
import Dialects.Proofs.Remembered
import Dialects.Proofs.RoundTrip
import Dialects.Proofs.SafeBold
import Dialects.Proofs.Seams
import Dialects.Proofs.Spans
import Dialects.Proofs.StrayFence
import Dialects.Proofs.Survival
import Dialects.Proofs.Swap
import Dialects.Proofs.TrailingBlanks
