import Crochet.Main
import Crochet.Proofs.CommandLine.Request
import Crochet.Proofs.CommandLine.Session
import Crochet.Proofs.Decimal.Compact
import Crochet.Proofs.Drawing.Svg
import Crochet.Proofs.Hint
import Crochet.Proofs.Instruction.Numbers
import Crochet.Proofs.Pattern.Canonical
import Crochet.Proofs.Pattern.Exact
import Crochet.Proofs.Pattern.Flags
import Crochet.Proofs.Pattern.Totals
import Crochet.Proofs.Pattern.Twins
import Crochet.Proofs.Pattern.Vocabulary
import Crochet.Proofs.Player.Draining
import Crochet.Proofs.Player.Faults
import Crochet.Proofs.Player.Recovery
import Crochet.Proofs.Player.Stored
import Crochet.Proofs.Player.View
import Crochet.Proofs.Player.Weave
import Crochet.Proofs.Player.WriteLog
import Crochet.Proofs.Ring.Spread
import Crochet.Proofs.Settings.Given
import Crochet.Proofs.Snapshot.Canonical
import Crochet.Proofs.Terminology.Substitution
import Crochet.Proofs.Yarn
