import PuzzlePrograms.Draw.Method
import PuzzlePrograms.Main
import PuzzlePrograms.Notebook
import PuzzlePrograms.Proofs.Again
import PuzzlePrograms.Proofs.Cropping
import PuzzlePrograms.Proofs.Currying
import PuzzlePrograms.Proofs.Extracting
import PuzzlePrograms.Proofs.Faithful
import PuzzlePrograms.Proofs.Falling
import PuzzlePrograms.Proofs.Fixing
import PuzzlePrograms.Proofs.Frontiers
import PuzzlePrograms.Proofs.HoleOrder
import PuzzlePrograms.Proofs.Inventions
import PuzzlePrograms.Proofs.Leaves
import PuzzlePrograms.Proofs.LoopFree
import PuzzlePrograms.Proofs.Moving
import PuzzlePrograms.Proofs.NewRules
import PuzzlePrograms.Proofs.Panels
import PuzzlePrograms.Proofs.Periods
import PuzzlePrograms.Proofs.Pieces
import PuzzlePrograms.Proofs.Readers
import PuzzlePrograms.Proofs.Records
import PuzzlePrograms.Proofs.RoundTrip
import PuzzlePrograms.Proofs.Scaling
import PuzzlePrograms.Proofs.SharedOperand
import PuzzlePrograms.Proofs.Sizes
import PuzzlePrograms.Proofs.Supplying
import PuzzlePrograms.Proofs.Symmetry
import PuzzlePrograms.Proofs.Variables
import PuzzlePrograms.Recipe.Shelf
