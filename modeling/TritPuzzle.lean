import TritPuzzle.HostedGame
import TritPuzzle.Main
import TritPuzzle.Proofs.Links
import TritPuzzle.Proofs.Moves
import TritPuzzle.Proofs.Unfolding
import TritPuzzle.Proofs.Arboreal
import TritPuzzle.Proofs.Assembling
import TritPuzzle.Proofs.Placement
import TritPuzzle.Proofs.Relabelling
import TritPuzzle.Proofs.Finished
import TritPuzzle.Proofs.Completeness
import TritPuzzle.Proofs.Expression
import TritPuzzle.Proofs.Relisting
import TritPuzzle.Proofs.Enumerating
import TritPuzzle.Proofs.Kleene
import TritPuzzle.Proofs.Setters
import TritPuzzle.Proofs.Outcomes
import TritPuzzle.Proofs.Readability
import TritPuzzle.Proofs.Labels
import TritPuzzle.Proofs.Entries
import TritPuzzle.Proofs.Histories
import TritPuzzle.Proofs.Scoring
import TritPuzzle.Proofs.Loading
import TritPuzzle.Proofs.Generations
import TritPuzzle.Proofs.Playing
import TritPuzzle.Proofs.Hosting
import TritPuzzle.Proofs.Starting
import TritPuzzle.Proofs.Commuting
import TritPuzzle.Proofs.Overwriting
import TritPuzzle.Proofs.Grading
import TritPuzzle.Proofs.Acceptance
import TritPuzzle.Proofs.Mutation
import TritPuzzle.Proofs.InPlace
import TritPuzzle.Proofs.Filling
import TritPuzzle.Proofs.Locality
import TritPuzzle.Proofs.Cycling
import TritPuzzle.Proofs.Descent
import TritPuzzle.Proofs.ReadyMade
import TritPuzzle.Proofs.Cursor
import TritPuzzle.Proofs.Framing
import TritPuzzle.Proofs.Screens
import TritPuzzle.Proofs.Grammar
import TritPuzzle.Proofs.Scanning
import TritPuzzle.Proofs.Parsing
import TritPuzzle.Proofs.Printing
import TritPuzzle.Proofs.Configuring
import TritPuzzle.Proofs.Trimming
import TritPuzzle.Proofs.Forms
import TritPuzzle.Proofs.Snapshots
import TritPuzzle.Proofs.Words
