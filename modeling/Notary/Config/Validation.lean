import Notary.Account.Checksummed
import Notary.Config.Basic
import Notary.SocketAddress
import Notary.Url.Basic

namespace Notary.Config

/-!
What a configuration must satisfy beyond having values of the right types. All problems are
collected, in the order of the fields.
-/

structure Problem where
  /-- The dotted path of the field. -/
  field : String
  message : String
  deriving DecidableEq, Repr

def Problem.text (problem : Problem) : String :=
  problem.field ++ ": " ++ problem.message

def problemIf (condition : Bool) (field message : String) : List Problem :=
  if condition then [⟨field, message⟩] else []

def urlProblems (url : String) : List Problem :=
  match Url.parse url with
  | .ok _ => []
  | .error problem =>
      [⟨"rpc.failover_urls", "'" ++ url ++ "' is not a valid URL: " ++ problem.message⟩]

def isAddress (text : String) : Bool :=
  (Address.parse text).toBool

def logLevels : List String := ["trace", "debug", "info", "warn", "error"]

def Rpc.problems (rpc : Rpc) : List Problem :=
  problemIf (rpc.timeoutSecs == 0) "rpc.timeout_secs" "must be greater than 0"
    ++ rpc.failoverUrls.flatMap urlProblems

def Submission.problems (submission : Submission) : List Problem :=
  (match submission.sinkAddress with
    | none => []
    | some sink =>
        problemIf (!isAddress sink) "submission.sink_address"
          ("'" ++ sink ++ "' is not a valid address"))
    ++ problemIf (!submission.gasPriceMultiplier.isPositive)
        "submission.gas_price_multiplier" "must be positive"
    ++ problemIf (submission.mortalityBlocks == some 0)
        "submission.mortality_blocks" "must be greater than 0 when set"

def Finality.problems (finality : Finality) : List Problem :=
  problemIf (finality.pollIntervalMs == 0) "finality.poll_interval_ms" "must be greater than 0"
    ++ problemIf (finality.timeoutSecs == 0) "finality.timeout_secs" "must be greater than 0"
    ++ problemIf (finality.backoffMaxMs < finality.backoffBaseMs)
        "finality.backoff_base_ms" "must not exceed finality.backoff_max_ms"

def Workers.problems (workers : Workers) : List Problem :=
  problemIf (workers.workerThreads == 0) "runtime.worker_threads" "must be at least 1"

def Observability.problems (observability : Observability) : List Problem :=
  problemIf (!logLevels.contains observability.logLevel)
      "observability.log_level" ("unknown level '" ++ observability.logLevel ++ "'")
    ++ (match observability.metricsAddress with
      | none => []
      | some address =>
          problemIf (!SocketAddress.isValid address)
            "observability.metrics_address" ("'" ++ address ++ "' is not a socket address"))

def problems (config : Config) : List Problem :=
  config.rpc.problems ++ config.submission.problems ++ config.finality.problems
    ++ config.workers.problems ++ config.observability.problems

def validate (config : Config) : Except (List Problem) Unit :=
  match config.problems with
  | [] => .ok ()
  | found => .error found

end Notary.Config
