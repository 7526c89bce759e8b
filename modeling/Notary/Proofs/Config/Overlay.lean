import Mathlib
import Notary.Config.Document

namespace Notary.Config

/-!
A document lies on the defaults. What its fields stand for is said here without the readers, and the
readers are shown to take a value exactly where it stands for something; what the document has beside
the fields is not looked at.
-/

variable {α : Type} {table : TomlTable} {config : Config} {written : Toml} {source : Section}

def IsText (written : Toml) (text : String) : Prop :=
  written = .string text

def IsFlag (written : Toml) (flag : Bool) : Prop :=
  written = .boolean flag

/-- A natural number that fits a word of so many bits. -/
def IsWord (bits : Nat) (written : Toml) (word : Nat) : Prop :=
  written = .integer word ∧ word < Checked.limit bits

/-- A number with a fraction, or the nearest one to a whole number. -/
def IsNumber (written : Toml) (number : Binary64) : Prop :=
  written = .float number ∨
    ∃ whole : Int, written = .integer whole ∧ number = .ofFraction (whole < 0) whole.natAbs 1

def AreTexts (written : Toml) (texts : List String) : Prop :=
  written = .array (texts.map .string)

/-- The name of a mode, as a text or as the only key of a table with nothing under it. -/
def IsMode (written : Toml) (mode : FinalityMode) : Prop :=
  written = .string mode.label ∨
    ∃ origin under, written = .table origin [(mode.label, under)] ∧ isHollow under = true

/-- A field that may be left unset is set to what is written. -/
def Sets (Means : Toml → α → Prop) (written : Toml) (value : Option α) : Prop :=
  ∃ inner, Means written inner ∧ value = some inner

theorem readText_iff {text : String} : readText written = some text ↔ IsText written text := by
  cases written <;> simp [readText, IsText]

theorem readFlag_iff {flag : Bool} : readFlag written = some flag ↔ IsFlag written flag := by
  cases written <;> simp [readFlag, IsFlag]

theorem readWord_iff {bits word : Nat} : readWord bits written = some word ↔ IsWord bits written word := by
  cases written <;> simp [readWord, IsWord]
  omega

theorem readNumber_iff {number : Binary64} : readNumber written = some number ↔ IsNumber written number := by
  cases written <;> simp [readNumber, IsNumber, eq_comm]

theorem mapM_readText_iff {items : List Toml} {texts : List String} :
    items.mapM readText = some texts ↔ items = texts.map .string := by
  induction items generalizing texts with
  | nil => cases texts <;> simp
  | cons item rest ih =>
      cases texts with
      | nil => simp [List.mapM_cons, Option.bind_eq_some_iff]
      | cons text texts => simp [List.mapM_cons, Option.bind_eq_some_iff, readText_iff, IsText, ih]

theorem readTexts_iff {texts : List String} : readTexts written = some texts ↔ AreTexts written texts := by
  cases written <;> simp [readTexts, AreTexts, mapM_readText_iff]

theorem ofLabel?_iff {name : String} {mode : FinalityMode} :
    FinalityMode.ofLabel? name = some mode ↔ name = mode.label := by
  unfold FinalityMode.ofLabel?
  split <;> cases mode <;> simp_all [FinalityMode.label]

theorem readMode_iff {mode : FinalityMode} : readMode written = some mode ↔ IsMode written mode := by
  unfold readMode IsMode
  split
  · simp [ofLabel?_iff]
  · next origin key under =>
      by_cases hollow : isHollow under = true
      · rw [if_pos hollow, ofLabel?_iff]
        constructor
        · rintro rfl
          exact .inr ⟨origin, under, rfl, hollow⟩
        · rintro (named | ⟨_, _, named, -⟩)
          · cases named
          · cases named
            rfl
      · simp [hollow]
  · next notText notSingle =>
      refine iff_of_false nofun ?_
      rintro (named | ⟨origin, under, named, -⟩)
      · exact notText _ named
      · exact notSingle _ _ _ named

/-- The value of a field: what is written, or the default where nothing is. -/
def Given (Means : Toml → α → Prop) (written? : Option Toml) (default value : α) : Prop :=
  match written? with
  | none => value = default
  | some written => Means written value

section

variable {place : Nat} {key : String} {read : Toml → Option α} {Means : Toml → α → Prop}
  (reads : ∀ {written value}, read written = some value ↔ Means written value)

include reads

theorem field_iff {default value : α} :
    source.field place key read default = some value ↔
      Given Means (source.get? place key) default value := by
  unfold Section.field Given
  cases source.get? place key <;> simp [reads, eq_comm]

theorem optional_iff {default value : Option α} :
    source.field place key (fun written => (read written).map some) default = some value ↔
      Given (Sets Means) (source.get? place key) default value := by
  unfold Section.field Given Sets
  cases source.get? place key <;> simp [Option.map_eq_some_iff, reads, eq_comm]

end

theorem Rpc.ofSection?_iff {rpc : Rpc} :
    Rpc.ofSection? source = some rpc ↔
      Given AreTexts (source.get? 0 "failover_urls") [] rpc.failoverUrls ∧
      Given (Sets (IsWord 64)) (source.get? 1 "chain_id") none rpc.chainId ∧
      Given (IsWord 64) (source.get? 2 "timeout_secs") 10 rpc.timeoutSecs ∧
      Given IsFlag (source.get? 3 "verify_on_connect") true rpc.verifyOnConnect := by
  simp only [Rpc.ofSection?, Option.bind_eq_bind, Option.bind_eq_some_iff, field_iff readTexts_iff,
    optional_iff readWord_iff, field_iff readWord_iff, field_iff readFlag_iff]
  constructor
  · rintro ⟨_, urls, _, chain, _, timeout, _, verified, same⟩
    cases same
    exact ⟨urls, chain, timeout, verified⟩
  · rintro ⟨urls, chain, timeout, verified⟩
    exact ⟨_, urls, _, chain, _, timeout, _, verified, rfl⟩

theorem Submission.ofSection?_iff {submission : Submission} :
    Submission.ofSection? source = some submission ↔
      Given (Sets IsText) (source.get? 0 "sink_address") none submission.sinkAddress ∧
      Given IsNumber (source.get? 1 "gas_price_multiplier") defaultMultiplier
        submission.gasPriceMultiplier ∧
      Given (IsWord 64) (source.get? 2 "max_gas_price_gwei") 500 submission.maxGasPriceGwei ∧
      Given (Sets (IsWord 64)) (source.get? 3 "mortality_blocks") (some 64)
        submission.mortalityBlocks := by
  simp only [Submission.ofSection?, Option.bind_eq_bind, Option.bind_eq_some_iff,
    optional_iff readText_iff, field_iff readNumber_iff, field_iff readWord_iff,
    optional_iff readWord_iff]
  constructor
  · rintro ⟨_, sink, _, multiplier, _, most, _, mortality, same⟩
    cases same
    exact ⟨sink, multiplier, most, mortality⟩
  · rintro ⟨sink, multiplier, most, mortality⟩
    exact ⟨_, sink, _, multiplier, _, most, _, mortality, rfl⟩

theorem Finality.ofSection?_iff {finality : Finality} :
    Finality.ofSection? source = some finality ↔
      Given IsMode (source.get? 0 "mode") .finalized finality.mode ∧
      Given (IsWord 32) (source.get? 1 "confirmation_blocks") 3 finality.confirmationBlocks ∧
      Given (IsWord 64) (source.get? 2 "poll_interval_ms") 2000 finality.pollIntervalMs ∧
      Given (IsWord 64) (source.get? 3 "timeout_secs") 600 finality.timeoutSecs ∧
      Given (IsWord 32) (source.get? 4 "max_rpc_failures") 5 finality.maxRpcFailures ∧
      Given (IsWord 64) (source.get? 5 "backoff_base_ms") 200 finality.backoffBaseMs ∧
      Given (IsWord 64) (source.get? 6 "backoff_max_ms") 5000 finality.backoffMaxMs := by
  simp only [Finality.ofSection?, Option.bind_eq_bind, Option.bind_eq_some_iff,
    field_iff readMode_iff, field_iff readWord_iff]
  constructor
  · rintro ⟨_, mode, _, blocks, _, interval, _, timeout, _, failures, _, base, _, most, same⟩
    cases same
    exact ⟨mode, blocks, interval, timeout, failures, base, most⟩
  · rintro ⟨mode, blocks, interval, timeout, failures, base, most⟩
    exact ⟨_, mode, _, blocks, _, interval, _, timeout, _, failures, _, base, _, most, rfl⟩

theorem Workers.ofSection?_iff {workers : Workers} :
    Workers.ofSection? source = some workers ↔
      Given (IsWord 64) (source.get? 0 "worker_threads") 2 workers.workerThreads := by
  simp only [Workers.ofSection?, Option.bind_eq_bind, Option.bind_eq_some_iff, field_iff readWord_iff]
  constructor
  · rintro ⟨_, threads, same⟩
    cases same
    exact threads
  · intro threads
    exact ⟨_, threads, rfl⟩

theorem Observability.ofSection?_iff {observability : Observability} :
    Observability.ofSection? source = some observability ↔
      Given IsText (source.get? 0 "log_level") "info" observability.logLevel ∧
      Given (Sets IsText) (source.get? 1 "metrics_address") none observability.metricsAddress := by
  simp only [Observability.ofSection?, Option.bind_eq_bind, Option.bind_eq_some_iff,
    field_iff readText_iff, optional_iff readText_iff]
  constructor
  · rintro ⟨_, level, _, address, same⟩
    cases same
    exact ⟨level, address⟩
  · rintro ⟨level, address⟩
    exact ⟨_, level, _, address, rfl⟩

/-- The section under a heading: an empty one where nothing is, and `none` where something else is. -/
def sectionAt (table : TomlTable) (heading : String) : Option Section :=
  match table.lookup heading with
  | none => some (.table [])
  | some written => Section.ofToml? written

theorem sectionOf_iff {heading : String} {read : Section → Option α} {default value : α}
    (hollow : read (.table []) = some default) :
    sectionOf table heading read default = some value ↔
      ∃ source, sectionAt table heading = some source ∧ read source = some value := by
  unfold sectionOf sectionAt
  cases table.lookup heading with
  | none => simp [hollow]
  | some written => exact Option.bind_eq_some_iff

/-- A field of the settings: where it stands in a document, what its values stand for, and its value. -/
structure Field where
  heading : String
  place : Nat
  key : String
  {Value : Type}
  Means : Toml → Value → Prop
  value : Config → Value

def schema : List Field := [
  ⟨"rpc", 0, "failover_urls", AreTexts, (·.rpc.failoverUrls)⟩,
  ⟨"rpc", 1, "chain_id", Sets (IsWord 64), (·.rpc.chainId)⟩,
  ⟨"rpc", 2, "timeout_secs", IsWord 64, (·.rpc.timeoutSecs)⟩,
  ⟨"rpc", 3, "verify_on_connect", IsFlag, (·.rpc.verifyOnConnect)⟩,
  ⟨"submission", 0, "sink_address", Sets IsText, (·.submission.sinkAddress)⟩,
  ⟨"submission", 1, "gas_price_multiplier", IsNumber, (·.submission.gasPriceMultiplier)⟩,
  ⟨"submission", 2, "max_gas_price_gwei", IsWord 64, (·.submission.maxGasPriceGwei)⟩,
  ⟨"submission", 3, "mortality_blocks", Sets (IsWord 64), (·.submission.mortalityBlocks)⟩,
  ⟨"finality", 0, "mode", IsMode, (·.finality.mode)⟩,
  ⟨"finality", 1, "confirmation_blocks", IsWord 32, (·.finality.confirmationBlocks)⟩,
  ⟨"finality", 2, "poll_interval_ms", IsWord 64, (·.finality.pollIntervalMs)⟩,
  ⟨"finality", 3, "timeout_secs", IsWord 64, (·.finality.timeoutSecs)⟩,
  ⟨"finality", 4, "max_rpc_failures", IsWord 32, (·.finality.maxRpcFailures)⟩,
  ⟨"finality", 5, "backoff_base_ms", IsWord 64, (·.finality.backoffBaseMs)⟩,
  ⟨"finality", 6, "backoff_max_ms", IsWord 64, (·.finality.backoffMaxMs)⟩,
  ⟨"runtime", 0, "worker_threads", IsWord 64, (·.workers.workerThreads)⟩,
  ⟨"observability", 0, "log_level", IsText, (·.observability.logLevel)⟩,
  ⟨"observability", 1, "metrics_address", Sets IsText, (·.observability.metricsAddress)⟩]

/-- What a document has for a field. -/
def Field.written? (field : Field) (table : TomlTable) : Option Toml :=
  (sectionAt table field.heading).bind (·.get? field.place field.key)

/-- The defaults, with every field that is present replaced by what is written for it. -/
def Overlays (table : TomlTable) (config : Config) : Prop :=
  ∀ field ∈ schema, Given field.Means (field.written? table) (field.value {}) (field.value config)

/-- What stands under the headings are sections. -/
def HasSections (table : TomlTable) : Prop :=
  ∀ field ∈ schema, (sectionAt table field.heading).isSome

theorem ofTable?_iff : ofTable? table = some config ↔ HasSections table ∧ Overlays table config := by
  simp only [ofTable?, Option.bind_eq_bind, Option.bind_eq_some_iff]
  simp only [sectionOf_iff (show Rpc.ofSection? (.table []) = some {} from rfl),
    sectionOf_iff (show Submission.ofSection? (.table []) = some {} from rfl),
    sectionOf_iff (show Finality.ofSection? (.table []) = some {} from rfl),
    sectionOf_iff (show Workers.ofSection? (.table []) = some {} from rfl),
    sectionOf_iff (show Observability.ofSection? (.table []) = some {} from rfl), Rpc.ofSection?_iff,
    Submission.ofSection?_iff, Finality.ofSection?_iff, Workers.ofSection?_iff,
    Observability.ofSection?_iff]
  constructor
  · rintro ⟨rpc, ⟨rpcAt, rpcFound, rpcGiven⟩, submission, ⟨submissionAt, submissionFound, submissionGiven⟩,
      finality, ⟨finalityAt, finalityFound, finalityGiven⟩, workers, ⟨workersAt, workersFound, workersGiven⟩,
      observability, ⟨observabilityAt, observabilityFound, observabilityGiven⟩, same⟩
    cases same
    refine ⟨?_, ?_⟩
    · simp [HasSections, schema, rpcFound, submissionFound, finalityFound, workersFound,
        observabilityFound]
    · simp [Overlays, schema, Field.written?, rpcFound, submissionFound, finalityFound, workersFound,
        observabilityFound, rpcGiven, submissionGiven, finalityGiven, workersGiven, observabilityGiven]
  · rintro ⟨sections, overlays⟩
    simp only [HasSections, schema, List.forall_mem_cons, Option.isSome_iff_exists] at sections
    obtain ⟨⟨rpcAt, rpcFound⟩, -, -, -, ⟨submissionAt, submissionFound⟩, -, -, -,
      ⟨finalityAt, finalityFound⟩, -, -, -, -, -, -, ⟨workersAt, workersFound⟩,
      ⟨observabilityAt, observabilityFound⟩, -⟩ := sections
    simp only [Overlays, schema, List.forall_mem_cons, Field.written?, rpcFound, submissionFound,
      finalityFound, workersFound, observabilityFound, Option.bind_some] at overlays
    obtain ⟨urls, chain, timeout, verified, sink, multiplier, most, mortality, mode, blocks, interval,
      wait, failures, base, ceiling, threads, level, address, -⟩ := overlays
    exact ⟨_, ⟨rpcAt, rpcFound, urls, chain, timeout, verified⟩, _,
      ⟨submissionAt, submissionFound, sink, multiplier, most, mortality⟩, _,
      ⟨finalityAt, finalityFound, mode, blocks, interval, wait, failures, base, ceiling⟩, _,
      ⟨workersAt, workersFound, threads⟩, _, ⟨observabilityAt, observabilityFound, level, address⟩, rfl⟩

/-- Every field that is present has a value of its type and range. -/
structure Typed (table : TomlTable) : Prop where
  sections : HasSections table
  fields : ∀ field ∈ schema, ∀ written, field.written? table = some written →
    ∃ value, field.Means written value

theorem overlays_exists (typed : Typed table) : ∃ config, Overlays table config := by
  have given : ∀ field ∈ schema, ∃ value,
      Given field.Means (field.written? table) (field.value {}) value := by
    intro field listed
    cases found : field.written? table with
    | none => exact ⟨_, rfl⟩
    | some written => exact typed.fields field listed written found
  simp only [schema, List.forall_mem_cons] at given
  obtain ⟨⟨failoverUrls, urls⟩, ⟨chainId, chain⟩, ⟨timeoutSecs, timeout⟩, ⟨verifyOnConnect, verified⟩,
    ⟨sinkAddress, sink⟩, ⟨gasPriceMultiplier, multiplier⟩, ⟨maxGasPriceGwei, most⟩,
    ⟨mortalityBlocks, mortality⟩, ⟨mode, named⟩, ⟨confirmationBlocks, blocks⟩,
    ⟨pollIntervalMs, interval⟩, ⟨waitSecs, wait⟩, ⟨maxRpcFailures, failures⟩, ⟨backoffBaseMs, base⟩,
    ⟨backoffMaxMs, ceiling⟩, ⟨workerThreads, threads⟩, ⟨logLevel, level⟩, ⟨metricsAddress, address⟩,
    -⟩ := given
  let finality : Finality :=
    { mode, confirmationBlocks, pollIntervalMs, timeoutSecs := waitSecs, maxRpcFailures,
      backoffBaseMs, backoffMaxMs }
  refine ⟨{
    rpc := { failoverUrls, chainId, timeoutSecs, verifyOnConnect }
    submission := { sinkAddress, gasPriceMultiplier, maxGasPriceGwei, mortalityBlocks }
    finality
    workers := { workerThreads }
    observability := { logLevel, metricsAddress } }, ?_⟩
  simp only [Overlays, schema, List.forall_mem_cons]
  exact ⟨urls, chain, timeout, verified, sink, multiplier, most, mortality, named, blocks, interval, wait,
    failures, base, ceiling, threads, level, address, nofun⟩

theorem typed_of_overlays (sections : HasSections table) (overlays : Overlays table config) :
    Typed table := by
  refine ⟨sections, fun field listed written found => ⟨field.value config, ?_⟩⟩
  have given := overlays field listed
  rwa [found] at given

/-- The same of every field, whatever else there is and in whatever order. -/
structure Agree (left right : TomlTable) : Prop where
  sections : ∀ field ∈ schema,
    (sectionAt left field.heading).isSome = (sectionAt right field.heading).isSome
  fields : ∀ field ∈ schema, field.written? left = field.written? right

theorem Agree.ofTable?_eq {left right : TomlTable} (agree : Agree left right) :
    ofTable? left = ofTable? right := by
  have sections : HasSections left ↔ HasSections right :=
    forall₂_congr fun field listed => by rw [agree.sections field listed]
  have overlays : ∀ config, Overlays left config ↔ Overlays right config := fun config =>
    forall₂_congr fun field listed => by rw [agree.fields field listed]
  apply Option.ext
  intro config
  rw [ofTable?_iff, ofTable?_iff, sections, overlays]

theorem parse_of_ofTable? {text : String} (document : TomlDocument.parse? text = some table)
    (read : ofTable? table = some config) :
    (config.validate = .ok () → parse text = .ok config) ∧
      ∀ problems, config.validate = .error problems → parse text = .error (.invalid problems) := by
  have bound : (TomlDocument.parse? text).bind ofTable? = some config := by
    rw [document, Option.bind_some, read]
  refine ⟨fun valid => ?_, fun problems refused => ?_⟩
  · simp only [parse, bound, valid]
  · simp only [parse, bound, refused]

/-- A document whose fields have values of their types gives the one overlay of them on the defaults, or
the problems of that overlay; documents with the same fields give the same. -/
theorem documents_overlay_the_defaults :
    (∀ text table, TomlDocument.parse? text = some table → Typed table →
      ∃ config, (∀ other, Overlays table other ↔ other = config) ∧
        (config.validate = .ok () → parse text = .ok config) ∧
        ∀ problems, config.validate = .error problems → parse text = .error (.invalid problems)) ∧
    ∀ left right leftTable rightTable, TomlDocument.parse? left = some leftTable →
      TomlDocument.parse? right = some rightTable → Agree leftTable rightTable →
      parse left = parse right := by
  refine ⟨?_, ?_⟩
  · intro text table document typed
    obtain ⟨config, overlays⟩ := overlays_exists typed
    have read := ofTable?_iff.mpr ⟨typed.sections, overlays⟩
    refine ⟨config, fun other => ⟨fun lies => ?_, fun same => same ▸ overlays⟩,
      parse_of_ofTable? document read⟩
    have again := ofTable?_iff.mpr ⟨typed.sections, lies⟩
    exact Option.some.inj (again.symm.trans read)
  · intro left right leftTable rightTable leftDocument rightDocument agree
    simp only [parse, leftDocument, rightDocument, Option.bind_some, agree.ofTable?_eq]

/-- Two fields of two sections. -/
def sparse : String := "[finality]\nmode = \"confirmations\"\n[rpc]\nchain_id = 31337\n"

/-- The same fields in another order, with keys and sections that name no field. -/
def crowded : String :=
  "extra = 1\n[rpc]\nunknown = [2]\nchain_id = 31337\n[other]\n[finality]\nmode = \"confirmations\"\n[runtime]\n"

def sparseTable : TomlTable :=
  [("finality", .table .header [("mode", .string "confirmations")]),
    ("rpc", .table .header [("chain_id", .integer 31337)])]

def crowdedTable : TomlTable :=
  [("extra", .integer 1),
    ("rpc", .table .header [("unknown", .array [.integer 2]), ("chain_id", .integer 31337)]),
    ("other", .table .header []), ("finality", .table .header [("mode", .string "confirmations")]),
    ("runtime", .table .header [])]

def sparseConfig : Config where
  rpc := { chainId := some 31337 }
  finality := { mode := .confirmations }

theorem crowded_document_gives_the_same :
    TomlDocument.parse? sparse = some sparseTable ∧ Typed sparseTable ∧
      TomlDocument.parse? crowded = some crowdedTable ∧ Agree sparseTable crowdedTable ∧
      parse sparse = .ok sparseConfig ∧ parse crowded = .ok sparseConfig := by
  have sparseRead : TomlDocument.parse? sparse = some sparseTable := by cbv
  have crowdedRead : TomlDocument.parse? crowded = some crowdedTable := by cbv
  have taken : ofTable? sparseTable = some sparseConfig := rfl
  have valid : sparseConfig.validate = .ok () := by cbv
  obtain ⟨sections, overlays⟩ := ofTable?_iff.mp taken
  have typed := typed_of_overlays sections overlays
  have agree : Agree sparseTable crowdedTable :=
    ⟨List.map_inj_left.mp rfl, List.map_inj_left.mp rfl⟩
  obtain ⟨overlaid, same⟩ := documents_overlay_the_defaults
  obtain ⟨config, exactly, accepted, -⟩ := overlaid sparse sparseTable sparseRead typed
  cases (exactly sparseConfig).mp overlays
  refine ⟨sparseRead, typed, crowdedRead, agree, accepted valid, ?_⟩
  rw [← same sparse crowded sparseTable crowdedTable sparseRead crowdedRead agree]
  exact accepted valid

end Notary.Config
