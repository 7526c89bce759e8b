namespace Notary

/-!
Counters and gauges of a running library. A metric is present once it has been touched.
-/

inductive Kind where
  | signer
  | submission
  | receipt
  deriving DecidableEq, Repr, Inhabited

def Kind.label : Kind → String
  | .signer => "signer"
  | .submission => "submission"
  | .receipt => "receipt"

def Kind.ofLabel? : String → Option Kind
  | "signer" => some .signer
  | "submission" => some .submission
  | "receipt" => some .receipt
  | _ => none

inductive Metric where
  | submissions (outcome : String)
  | resolutions (outcome : String)
  /-- Samples of the time to finality. -/
  | finalityTimes
  | liveHandles (kind : Kind)
  | outstandingRecords
  | ledgerFailures (method : String)
  deriving DecidableEq, Repr

namespace Metric

def labelled (name label value : String) : String :=
  name ++ "\x7b" ++ label ++ "=" ++ value ++ "\x7d"

def name : Metric → String
  | submissions outcome => labelled "ledger_submissions_total" "outcome" outcome
  | resolutions outcome => labelled "ledger_resolutions_total" "outcome" outcome
  | finalityTimes => "ledger_finality_seconds"
  | liveHandles kind => labelled "ledger_live_handles" "kind" kind.label
  | outstandingRecords => "ledger_outstanding_records"
  | ledgerFailures method => labelled "ledger_rpc_failures_total" "method" method

end Metric

structure Metrics where
  readings : List (Metric × Nat)
  deriving Repr, Inhabited

namespace Metrics

def empty : Metrics := ⟨[]⟩

def get? (metrics : Metrics) (metric : Metric) : Option Nat :=
  metrics.readings.lookup metric

/-- The readings with one of them set. -/
def write (metric : Metric) (value : Nat) : List (Metric × Nat) → List (Metric × Nat)
  | [] => [(metric, value)]
  | (other, reading) :: rest =>
      if other = metric then (metric, value) :: rest
      else (other, reading) :: write metric value rest

def set (metrics : Metrics) (metric : Metric) (value : Nat) : Metrics :=
  ⟨write metric value metrics.readings⟩

def increment (metrics : Metrics) (metric : Metric) : Metrics :=
  metrics.set metric ((metrics.get? metric).getD 0 + 1)

/-- The readings of two places; where both have read a metric, those of the second. -/
def merge (first second : Metrics) : Metrics :=
  second.readings.foldl (fun metrics reading => metrics.set reading.1 reading.2) first

variable {metric other : Metric}

theorem lookup_write_self (metric : Metric) (value : Nat) (readings : List (Metric × Nat)) :
    (write metric value readings).lookup metric = some value := by
  induction readings with
  | nil => simp [write]
  | cons reading rest ih =>
      obtain ⟨other, earlier⟩ := reading
      by_cases same : other = metric
      · simp [write, same]
      · have differs : (metric == other) = false := beq_false_of_ne (Ne.symm same)
        simp [write, same, List.lookup_cons, differs, ih]

theorem lookup_write_of_ne (differs : other ≠ metric) (value : Nat)
    (readings : List (Metric × Nat)) :
    (write metric value readings).lookup other = readings.lookup other := by
  have unequal : (other == metric) = false := beq_false_of_ne differs
  induction readings with
  | nil => simp [write, List.lookup_cons, unequal]
  | cons reading rest ih =>
      obtain ⟨key, earlier⟩ := reading
      by_cases same : key = metric
      · simp [write, same, List.lookup_cons, unequal]
      · simp only [write, same, if_false, List.lookup_cons, ih]

@[simp] theorem get?_set_self (metrics : Metrics) (metric : Metric) (value : Nat) :
    (metrics.set metric value).get? metric = some value :=
  lookup_write_self metric value metrics.readings

theorem get?_set_of_ne (differs : other ≠ metric) (metrics : Metrics) (value : Nat) :
    (metrics.set metric value).get? other = metrics.get? other :=
  lookup_write_of_ne differs value metrics.readings

end Metrics

end Notary
