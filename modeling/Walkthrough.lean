import Walkthrough.Main
import Walkthrough.Picture.Outline
import Walkthrough.Proofs.Artifacts
import Walkthrough.Proofs.Building
import Walkthrough.Proofs.CaptureFreedom
import Walkthrough.Proofs.Collecting
import Walkthrough.Proofs.Conduct
import Walkthrough.Proofs.Containment
import Walkthrough.Proofs.Documents
import Walkthrough.Proofs.ExitStatus
import Walkthrough.Proofs.Loading
import Walkthrough.Proofs.Locators
import Walkthrough.Proofs.NormalNames
import Walkthrough.Proofs.Promptness
import Walkthrough.Proofs.Rates
import Walkthrough.Proofs.Recordings
import Walkthrough.Proofs.Refinement
import Walkthrough.Proofs.Retries
import Walkthrough.Proofs.ScenarioFiles
import Walkthrough.Proofs.Screenshots
import Walkthrough.Proofs.Selection
import Walkthrough.Proofs.Selectors
import Walkthrough.Proofs.Sessions
import Walkthrough.Proofs.Substitution
import Walkthrough.Proofs.Tables
import Walkthrough.Proofs.Templates
import Walkthrough.Proofs.Visibility
import Walkthrough.Rehearsal.Server
