import Offside.Diagnostic
import Offside.Grammar
import Offside.Inspect
import Offside.Proofs.Nesting
import Offside.Proofs.Rendering
import Offside.Proofs.StrictBrackets
import Offside.Proofs.Suppression
import Offside.Scan
import Offside.Version
import Offside.Proofs.OffsideRule
import Offside.Proofs.Boundary
import Offside.Proofs.Extension
import Offside.Proofs.Log
import Offside.Proofs.Exchange
import Offside.Proofs.LastLexeme
import Offside.Proofs.WhiteSpace
import Offside.Proofs.Length
import Offside.Proofs.ErrorRange
import Offside.Proofs.BracketKinds
import Offside.Proofs.Display
import Offside.Proofs.Colouring
import Offside.Proofs.Machine
