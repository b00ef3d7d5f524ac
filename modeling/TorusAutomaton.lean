import TorusAutomaton.Files
import TorusAutomaton.Main
import TorusAutomaton.Proofs.Directions
import TorusAutomaton.Proofs.Calls
import TorusAutomaton.Proofs.Dependence
import TorusAutomaton.Proofs.Lifting
import TorusAutomaton.Proofs.Transcript
import TorusAutomaton.Proofs.Precedence
