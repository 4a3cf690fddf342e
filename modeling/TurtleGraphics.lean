import TurtleGraphics.CommandLine.Directory
import TurtleGraphics.Main
import TurtleGraphics.Proofs.EarliestError
import TurtleGraphics.Proofs.RoundTrip
import TurtleGraphics.Proofs.Tiling
import TurtleGraphics.Proofs.Lookahead
import TurtleGraphics.Proofs.Relayout
import TurtleGraphics.Proofs.Joining
import TurtleGraphics.Proofs.Truncation
import TurtleGraphics.Proofs.Unrolling
import TurtleGraphics.Proofs.Walk
import TurtleGraphics.Proofs.Canonical
import TurtleGraphics.Proofs.ErrorPlace
import TurtleGraphics.Proofs.SegmentCount
import TurtleGraphics.Proofs.ErrorCause
import TurtleGraphics.Proofs.TokenKinds
import TurtleGraphics.Proofs.Agreement
import TurtleGraphics.Proofs.Fragments
import TurtleGraphics.Proofs.LastSetting
import TurtleGraphics.Proofs.SnappedCoordinates
import TurtleGraphics.Proofs.HeadingSum
import TurtleGraphics.Proofs.EndMarker
import TurtleGraphics.Proofs.InstructionWords
import TurtleGraphics.Proofs.ColorLiterals
import TurtleGraphics.Proofs.UniqueText
import TurtleGraphics.Proofs.CheckReport
import TurtleGraphics.Proofs.Descent
import TurtleGraphics.Proofs.FailingOutput
import TurtleGraphics.Proofs.RoundedDecimals
import TurtleGraphics.Proofs.RenderedLines
import TurtleGraphics.Proofs.Cursor
