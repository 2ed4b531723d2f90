import XorScan.Cursor
import XorScan.FileTree
import XorScan.Main
import XorScan.Program
import XorScan.Proofs.CaretPlacement
import XorScan.Proofs.Cutting
import XorScan.Proofs.DefinitiveErrors
import XorScan.Proofs.Failures
import XorScan.Proofs.LineEndStyle
import XorScan.Proofs.LiteralValues
import XorScan.Proofs.Lossless
import XorScan.Scanner
import XorScan.Proofs.Continuation
import XorScan.Proofs.Lifecycle
import XorScan.Proofs.Respacing
import XorScan.Proofs.LineJoin
import XorScan.Proofs.LiteralSpelling
import XorScan.Proofs.CursorPlacement
import XorScan.Proofs.ListingRows
import XorScan.Proofs.Delimiting
import XorScan.Proofs.JsonText
import XorScan.Proofs.CommandOutput
import XorScan.Proofs.TokenDump
import XorScan.Proofs.HiddenTrivia
import XorScan.Proofs.CommandAgreement
import XorScan.Proofs.FailingStage
import XorScan.Proofs.EscapeForms
import XorScan.Proofs.LinePieces
import XorScan.Proofs.Remedies
import XorScan.Proofs.Unescaping
import XorScan.Proofs.PositionOrder
import XorScan.Proofs.WriteLimits
import XorScan.Proofs.LineEndFaults
import XorScan.Proofs.InputSources
import XorScan.Proofs.CursorScanning
