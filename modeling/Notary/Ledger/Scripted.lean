import Notary.Ledger.Chain

namespace Notary

/-!
A chain whose replies can be overridden. The calls of a kind that has a script take its replies one
after the other, the last one again and again; what is not handed on leaves the chain alone. Every
call is logged when it starts.
-/

inductive ScriptedReply (α : Type) where
  /-- Hands the call to the chain. -/
  | chain
  | answer (value : Call → α)
  | fail (fault : Fault)
  /-- Gives a reply later. -/
  | late (ms : Nat) (reply : ScriptedReply α)
  deriving Inhabited

namespace ScriptedReply

variable {α : Type}

def delay : ScriptedReply α → Nat
  | late ms reply => ms + reply.delay
  | _ => 0

/-- The reply that is given in the end; `none` where the chain answers. -/
def settle (call : Call) : ScriptedReply α → Option (Except Fault α)
  | chain => none
  | answer value => some (.ok (value call))
  | fail fault => some (.error fault)
  | late _ reply => reply.settle call

end ScriptedReply

/-- The replies of a kind of call; none where it always goes to the chain. -/
abbrev Script (method : Method) := List (ScriptedReply method.Answer)

/-- The calls since the log was last read: their number, and the first ones. -/
structure CallLog where
  count : Nat
  first : List Call
  deriving Repr, Inhabited

namespace CallLog

def empty : CallLog := ⟨0, []⟩

def kept : Nat := 12

def push (log : CallLog) (call : Call) : CallLog :=
  ⟨log.count + 1, if log.count < kept then log.first ++ [call] else log.first⟩

end CallLog

structure Scripted where
  chain : Chain
  scripts : (method : Method) → Script method
  /-- How many replies of each kind have been taken. -/
  taken : List Nat
  log : CallLog

namespace Scripted

def ofChain (chain : Chain) : Scripted :=
  ⟨chain, fun _ => [], List.replicate 8 0, .empty⟩

instance : Inhabited Scripted := ⟨ofChain .fresh⟩

def script (ledger : Scripted) (method : Method) (replies : Script method) : Scripted :=
  { ledger with
    scripts := fun other => if same : other = method then same ▸ replies else ledger.scripts other
    taken := ledger.taken.set method.index 0 }

/-- The reply to the call of a kind after `taken` others. -/
def replyAt {method : Method} (script : Script method) (taken : Nat) :
    ScriptedReply method.Answer :=
  (script[min taken (script.length - 1)]?).getD .chain

def start (call : Call) (ledger : Scripted) : Started Scripted call.Reply :=
  let method := call.method
  let taken := ledger.taken.getD method.index 0
  let reply := replyAt (ledger.scripts method) taken
  { state :=
      { ledger with
        log := ledger.log.push call
        taken := ledger.taken.set method.index (taken + 1) }
    delay := reply.delay
    finish := fun ledger =>
      match reply.settle call with
      | some answer => (answer, ledger)
      | none =>
          let (answer, chain) := Chain.answer call ledger.chain
          (answer, { ledger with chain }) }

def ledger : Ledger Scripted := ⟨start, .middle⟩

def readLog (ledger : Scripted) : CallLog × Scripted :=
  (ledger.log, { ledger with log := .empty })

def control (ledger : Scripted) (change : Chain.Control) : Scripted :=
  { ledger with chain := ledger.chain.control change }

end Scripted

end Notary
