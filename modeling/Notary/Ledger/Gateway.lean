import Notary.Config.Basic
import Notary.Ledger.Call

namespace Notary

/-!
Gateways: ledgers that can be reached by dialling an endpoint.
-/

structure Gateway (σ : Type) where
  ledger : Ledger σ
  dial : (endpoint : String) → Config.Rpc → Except Fault σ

namespace Ledger

variable {σ τ : Type}

/-- A ledger that is one of two. -/
def sum (first : Ledger σ) (second : Ledger τ) : Ledger (σ ⊕ τ) where
  start := fun call state =>
    match state with
    | .inl state =>
        let started := first.start call state
        { state := .inl started.state
          delay := started.delay
          finish := fun state =>
            let (reply, after) := started.finish ((state.getLeft?).getD started.state)
            (reply, .inl after) }
    | .inr state =>
        let started := second.start call state
        { state := .inr started.state
          delay := started.delay
          finish := fun state =>
            let (reply, after) := started.finish ((state.getRight?).getD started.state)
            (reply, .inr after) }
  chance := Sum.elim first.chance second.chance

end Ledger

/-- A gateway beside a ledger that is in place already. -/
def Gateway.beside {σ τ : Type} (ledger : Ledger σ) (gateway : Gateway τ) : Gateway (σ ⊕ τ) where
  ledger := ledger.sum gateway.ledger
  dial := fun endpoint rpc => (gateway.dial endpoint rpc).map .inr

end Notary
