import Storyline.Main
import Storyline.Proofs.Belonging
import Storyline.Proofs.Calls
import Storyline.Proofs.Cells
import Storyline.Proofs.Channels
import Storyline.Proofs.Characters
import Storyline.Proofs.Closings
import Storyline.Proofs.Files
import Storyline.Proofs.FirstFault
import Storyline.Proofs.Gathering
import Storyline.Proofs.Iterations
import Storyline.Proofs.Marks
import Storyline.Proofs.Mentions
import Storyline.Proofs.Occurrences
import Storyline.Proofs.Outputs
import Storyline.Proofs.Painting
import Storyline.Proofs.Quoting
import Storyline.Proofs.Rendition
import Storyline.Proofs.Restriction
import Storyline.Proofs.Sections
import Storyline.Proofs.Substitution
import Storyline.Proofs.Succession
import Storyline.Proofs.Suspension
import Storyline.Proofs.TableLines
import Storyline.Proofs.Tables
import Storyline.Proofs.Visits
import Storyline.Step.Stub
