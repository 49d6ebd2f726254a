import Reattempt.Names
import Reattempt.Proofs.Protocol
import Reattempt.Proofs.Unwrapping
import Reattempt.Scenario.Bookkeeping
import Reattempt.Scenario.Copying
import Reattempt.Scenario.Decoration
import Reattempt.Scenario.Exchange
import Reattempt.Scenario.HookCalls
import Reattempt.Scenario.Script
import Reattempt.Scenario.Session
import Reattempt.Scenario.Wrapping
import Reattempt.Proofs.Answers
import Reattempt.Proofs.Awaiting
import Reattempt.Proofs.Chronicle
import Reattempt.Proofs.Reassignment
import Reattempt.Proofs.Floats
import Reattempt.Proofs.Finiteness
import Reattempt.Proofs.Range
import Reattempt.Proofs.Capping
import Reattempt.Proofs.Visits
import Reattempt.Proofs.Spending
import Reattempt.Proofs.Nesting
import Reattempt.Proofs.Loosening
import Reattempt.Proofs.Requests
import Reattempt.Proofs.Observing
import Reattempt.Proofs.Combination
import Reattempt.Proofs.Sharing
import Reattempt.Proofs.Nearest
import Reattempt.Proofs.Powers
import Reattempt.Proofs.Durations
import Reattempt.Proofs.Settings
import Reattempt.Proofs.Building
import Reattempt.Proofs.Growing
import Reattempt.Proofs.Flattening
import Reattempt.Proofs.Latecomers
import Reattempt.Proofs.Scoping
import Reattempt.Proofs.Overwriting
import Reattempt.Proofs.Legible
import Reattempt.Proofs.Digits
import Reattempt.Proofs.Writable
import Reattempt.Proofs.Merging
import Reattempt.Proofs.Agreement
import Reattempt.Proofs.Calling
import Reattempt.Proofs.Renaming
import Reattempt.Proofs.Numbering
