import Routebook.Client.Member
import Routebook.Main
import Routebook.Proofs.Client.Isolation
import Routebook.Proofs.Command.Refusal
import Routebook.Proofs.Transport.Delivery
import Routebook.Proofs.Uri.Substitution
import Routebook.Value.Stated
import Routebook.Proofs.Uri.Resolution
import Routebook.Proofs.Uri.Base
import Routebook.Proofs.Text.Utf8
import Routebook.Proofs.Uri.Query
import Routebook.Proofs.Transport.Invocation
import Routebook.Proofs.Client.Constancy
import Routebook.Proofs.Command.Listing
import Routebook.Proofs.Config.Loading
import Routebook.Proofs.Transport.Layers
import Routebook.Proofs.Template.Decomposition
import Routebook.Proofs.Uri.Agreement
import Routebook.Proofs.Transport.Decoding
import Routebook.Proofs.Uri.Order
import Routebook.Proofs.Command.Prediction
import Routebook.Proofs.Transport.QueryOption
import Routebook.Proofs.Transport.Unsupported
import Routebook.Proofs.Config.Arrangement
import Routebook.Proofs.Command.Verbosity
import Routebook.Proofs.Output.Markup
