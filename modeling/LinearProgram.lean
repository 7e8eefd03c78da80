import LinearProgram.Main
import LinearProgram.Proofs.Barrier.Answer
import LinearProgram.Proofs.Barrier.Failure
import LinearProgram.Proofs.Barrier.Gaps
import LinearProgram.Proofs.Barrier.Note
import LinearProgram.Proofs.Barrier.StandIn
import LinearProgram.Proofs.Checked.Barrier
import LinearProgram.Proofs.Checked.Correction
import LinearProgram.Proofs.CommandLine.Verbosity
import LinearProgram.Proofs.Document.RoundTrip
import LinearProgram.Proofs.Report.Log
import LinearProgram.Proofs.Report.Vector
import LinearProgram.Proofs.Simplex.BasicSolution
import LinearProgram.Proofs.Simplex.Certificate
import LinearProgram.Proofs.Simplex.Cycling
import LinearProgram.Proofs.Simplex.SharedBasis
import LinearProgram.Proofs.Simplex.Soundness
import LinearProgram.Proofs.Tableau.Extremes
