import Mainboard.Configuration.Reading
import Mainboard.Proofs.Document.Regularity

/-!
# Configurations laid over their defaults

For each record of a configuration, what its parts are in terms of the document
that it is read from: what the value of a field means, or what the part is in the
default.  Parts that are records themselves are laid over their defaults in turn.
-/

namespace Mainboard

namespace Document

variable {α β : Type}

/-- A value that may be `null`. -/
inductive Optionally (means : Nat → Value → β → Prop) (depth : Nat) : Value → Option β → Prop
  | none : Optionally means depth .null none
  | some {value : Value} {result : β} (notNull : value ≠ .null)
      (isMeant : means depth value result) : Optionally means depth value (some result)

/-- A list of values, in order. -/
def Each (means : Nat → Value → β → Prop) (depth : Nat) (value : Value) (results : List β) : Prop :=
  ∃ items, value = .list items none ∧ List.Forall₂ (means (depth + 1)) items results

section Means

variable {reader : Reader β} {depth : Nat} {means weaker : Nat → Value → β → Prop} {value : Value}

theorem LaidOver.imp {fields : List (RecordField α)} {document : Value} {standard result : α}
    {name : String} {part : α → β}
    (stronger : ∀ {depth value result}, means depth value result → weaker depth value result)
    (laid : LaidOver fields depth document standard result name means part) :
    LaidOver fields depth document standard result name weaker part :=
  Overlays.imp laid fun _ _ => stronger

theorem Optionally.of_reads {result : Option β}
    (meant : ∀ {depth value result}, Reads reader depth value result → means depth value result)
    (reads : Reads (readOptional reader) depth value result) :
    Optionally means depth value result := by
  by_cases isNull : value = .null
  · subst isNull
    obtain rfl := Except.ok.inj reads
    exact .none
  · rw [reads_readOptional_iff isNull] at reads
    obtain ⟨origin, read, rfl⟩ := Except.map_eq_ok_iff.mp reads
    exact .some isNull (meant read)

theorem Each.of_reads {results : List β}
    (meant : ∀ {depth value result}, Reads reader depth value result → means depth value result)
    (reads : Reads (readList reader) depth value results) : Each means depth value results := by
  obtain ⟨items, rfl, each⟩ := readList_eq_ok_iff.mp reads
  exact ⟨items, rfl, each.imp fun {_ _} => meant⟩

end Means

end Document

open Document

variable {depth : Nat} {document : Value}

structure AddressRange.Overlaid (depth : Nat) (document : Value) (range : AddressRange) : Prop where
  reads : Reads (readRecord record) depth document range
  start : Demanded record.fields depth document range "start" (Reads readUInt64) (·.start)
  size : Demanded record.fields depth document range "size" (Reads readUInt64) (·.size)

theorem AddressRange.overlaid_of_reads {range : AddressRange}
    (reads : Reads (readRecord record) depth document range) : range.Overlaid depth document := by
  constructor
  case reads => exact reads
  all_goals exact demanded_of_readRecord (by simp [record]) (by simp [record]) reads

structure PredictorRequest.Overlaid (depth : Nat) (document : Value) (request : PredictorRequest) :
    Prop where
  reads : Reads (readRecord record) depth document request
  kind : LaidOver record.fields depth document {} request "kind"
    (Reads (readName PredictorKind.spellings)) (·.kind)
  targetEntries : LaidOver record.fields depth document {} request "btb_entries"
    (Reads (readOptional readUInt64)) (·.targetEntries)
  indirect : LaidOver record.fields depth document {} request "indirect"
    (Reads (readName IndirectPredictorKind.spellings)) (·.indirect)

theorem PredictorRequest.overlaid_of_reads {request : PredictorRequest}
    (reads : Reads (readRecord record) depth document request) :
    request.Overlaid depth document := by
  constructor
  case reads => exact reads
  all_goals exact laidOver_of_readRecord (by simp [record]) rfl reads

structure FetchFeatures.Overlaid (depth : Nat) (document : Value) (features : FetchFeatures) :
    Prop where
  reads : Reads (readRecord record) depth document features
  directedPrefetch : LaidOver record.fields depth document {} features "fdip" (Reads readBoolean)
    (·.directedPrefetch)
  perfectCache : LaidOver record.fields depth document {} features "perfect_icache"
    (Reads readBoolean) (·.perfectCache)
  queueSize : LaidOver record.fields depth document {} features "fetch_queue_size"
    (Reads (readOptional readUInt32)) (·.queueSize)
  targetQueueSize : LaidOver record.fields depth document {} features "ftq_size"
    (Reads (readOptional readUInt32)) (·.targetQueueSize)
  targetInstructions : LaidOver record.fields depth document {} features "ftq_inst"
    (Reads (readOptional readUInt32)) (·.targetInstructions)

theorem FetchFeatures.overlaid_of_reads {features : FetchFeatures}
    (reads : Reads (readRecord record) depth document features) :
    features.Overlaid depth document := by
  constructor
  case reads => exact reads
  all_goals exact laidOver_of_readRecord (by simp [record]) rfl reads

structure StarvationFeatures.Overlaid (depth : Nat) (document : Value)
    (features : StarvationFeatures) : Prop where
  reads : Reads (readRecord record) depth document features
  minimumCount : LaidOver record.fields depth document {} features "starve_at_least"
    (Reads (readOptional readUInt32)) (·.minimumCount)
  random : LaidOver record.fields depth document {} features "random_starve" (Reads readBoolean)
    (·.random)
  randomness : LaidOver record.fields depth document {} features "starve_randomness"
    (Reads (readOptional readUInt32)) (·.randomness)
  pureRandom : LaidOver record.fields depth document {} features "pure_random" (Reads readBoolean)
    (·.pureRandom)
  randomHistory : LaidOver record.fields depth document {} features "hist_random"
    (Reads readBoolean) (·.randomHistory)
  oracle : LaidOver record.fields depth document {} features "oracle_emissary" (Reads readBoolean)
    (·.oracle)
  oracleFile : LaidOver record.fields depth document {} features "oracle_starvations_file"
    (Reads (readOptional readPath)) (·.oracleFile)
  oracleThreshold : LaidOver record.fields depth document {} features
    "oracle_starvation_count_threshold" (Reads (readOptional readUInt32)) (·.oracleThreshold)

theorem StarvationFeatures.overlaid_of_reads {features : StarvationFeatures}
    (reads : Reads (readRecord record) depth document features) :
    features.Overlaid depth document := by
  constructor
  case reads => exact reads
  all_goals exact laidOver_of_readRecord (by simp [record]) rfl reads

structure InstructionLimits.Overlaid (depth : Nat) (document : Value) (limits : InstructionLimits) :
    Prop where
  reads : Reads (readRecord record) depth document limits
  perThread : LaidOver record.fields depth document {} limits "max_insts"
    (Reads (readOptional readUInt64)) (·.perThread)
  total : LaidOver record.fields depth document {} limits "total_sim_insts"
    (Reads (readOptional readUInt64)) (·.total)

theorem InstructionLimits.overlaid_of_reads {limits : InstructionLimits}
    (reads : Reads (readRecord record) depth document limits) : limits.Overlaid depth document := by
  constructor
  case reads => exact reads
  all_goals exact laidOver_of_readRecord (by simp [record]) rfl reads

structure CoreFeatures.Overlaid (depth : Nat) (document : Value) (features : CoreFeatures) :
    Prop where
  reads : Reads (readRecord record) depth document features
  fetch : LaidOver record.fields depth document {} features "fetch" FetchFeatures.Overlaid (·.fetch)
  starvation : LaidOver record.fields depth document {} features "starvation"
    StarvationFeatures.Overlaid (·.starvation)
  predictor : LaidOver record.fields depth document {} features "branch_predictor"
    (Optionally PredictorRequest.Overlaid) (·.predictor)
  confidenceThreshold : LaidOver record.fields depth document {} features "btb_conf_threshold"
    (Reads (readOptional readUInt32)) (·.confidenceThreshold)
  confidenceMinimum : LaidOver record.fields depth document {} features "btb_conf_min_inst"
    (Reads (readOptional readUInt64)) (·.confidenceMinimum)
  dumpConfidence : LaidOver record.fields depth document {} features "dump_btb_conf"
    (Reads readBoolean) (·.dumpConfidence)
  dumpStarvation : LaidOver record.fields depth document {} features "dump_tms" (Reads readBoolean)
    (·.dumpStarvation)
  limits : LaidOver record.fields depth document {} features "limits" InstructionLimits.Overlaid
    (·.limits)
  sets : LaidOver record.fields depth document {} features "num_sets"
    (Reads (readOptional readUInt32)) (·.sets)

theorem CoreFeatures.overlaid_of_reads {features : CoreFeatures}
    (reads : Reads (readRecord record) depth document features) :
    features.Overlaid depth document := by
  constructor
  case reads => exact reads
  case' fetch => apply LaidOver.imp FetchFeatures.overlaid_of_reads
  case' starvation => apply LaidOver.imp StarvationFeatures.overlaid_of_reads
  case' predictor => apply LaidOver.imp (.of_reads PredictorRequest.overlaid_of_reads)
  case' limits => apply LaidOver.imp InstructionLimits.overlaid_of_reads
  all_goals exact laidOver_of_readRecord (by simp [record]) rfl reads

structure CacheRequest.Overlaid (depth : Nat) (document : Value) (request : CacheRequest) :
    Prop where
  reads : Reads reader depth document request
  policy : LaidOver (record.fields ++ policyFields) depth document {} request "replacement_policy"
    (Reads (readOptional PolicyKind.reader)) (·.policy)
  preserveWays : LaidOver (record.fields ++ policyFields) depth document {} request "preserve_ways"
    (Reads (readOptional readUInt32)) (·.parameters.preserveWays)
  size : LaidOver (record.fields ++ policyFields) depth document {} request "size"
    (Reads (readOptional (readAmount ByteSize.form))) (·.size)
  ways : LaidOver (record.fields ++ policyFields) depth document {} request "assoc"
    (Reads (readOptional readUInt32)) (·.ways)
  flushPeriodCycles : LaidOver (record.fields ++ policyFields) depth document {} request
    "flush_period_cycles" (Reads (readOptional readUInt64)) (·.parameters.flushPeriodCycles)
  bypassProbability : LaidOver (record.fields ++ policyFields) depth document {} request
    "bypass_probability" (Reads (readOptional readUInt8)) (·.parameters.bypassProbability)

theorem CacheRequest.overlaid_of_reads {request : CacheRequest}
    (reads : Reads reader depth document request) : request.Overlaid depth document := by
  constructor
  case reads => exact reads
  case flushPeriodCycles =>
    exact laidOver_of_readNested_inner (by simp [record]) (by simp [policyFields]) rfl reads
  case bypassProbability =>
    exact laidOver_of_readNested_inner (by simp [record]) (by simp [policyFields]) rfl reads
  all_goals exact laidOver_of_readNested (by simp [record]) (by simp [policyFields]) rfl reads

structure HierarchyRequest.Overlaid (depth : Nat) (document : Value) (requests : HierarchyRequest) :
    Prop where
  reads : Reads (readRecord record) depth document requests
  l1i : LaidOver record.fields depth document {} requests "l1i" CacheRequest.Overlaid (·.l1i)
  l1d : LaidOver record.fields depth document {} requests "l1d" CacheRequest.Overlaid (·.l1d)
  l2 : LaidOver record.fields depth document {} requests "l2" CacheRequest.Overlaid (·.l2)
  analysis : LaidOver record.fields depth document {} requests "opt" (Reads readBoolean)
    (·.analysis)

theorem HierarchyRequest.overlaid_of_reads {requests : HierarchyRequest}
    (reads : Reads (readRecord record) depth document requests) :
    requests.Overlaid depth document := by
  constructor
  case reads => exact reads
  case' l1i => apply LaidOver.imp CacheRequest.overlaid_of_reads
  case' l1d => apply LaidOver.imp CacheRequest.overlaid_of_reads
  case' l2 => apply LaidOver.imp CacheRequest.overlaid_of_reads
  all_goals exact laidOver_of_readRecord (by simp [record]) rfl reads

structure ClusterConfiguration.Overlaid (depth : Nat) (document : Value)
    (cluster : ClusterConfiguration) : Prop where
  reads : Reads (readRecord record) depth document cluster
  cores : LaidOver record.fields depth document {} cluster "cores" (Reads readCount) (·.cores)
  model : LaidOver record.fields depth document {} cluster "cpu_model" (Reads CoreModel.reader)
    (·.model)
  clock : LaidOver record.fields depth document {} cluster "clock"
    (Reads (readAmount Frequency.form)) (·.clock)
  voltage : LaidOver record.fields depth document {} cluster "voltage"
    (Reads (readAmount Voltage.form)) (·.voltage)
  caches : LaidOver record.fields depth document {} cluster "caches" HierarchyRequest.Overlaid
    (·.caches)
  features : LaidOver record.fields depth document {} cluster "features" CoreFeatures.Overlaid
    (·.features)
  threads : LaidOver record.fields depth document {} cluster "threads_per_core" (Reads readUInt32)
    (·.threads)
  monitorInterrupts : LaidOver record.fields depth document {} cluster "pmu_interrupts"
    (Reads (readOptional (readList readUInt32))) (·.monitorInterrupts)
  monitorEvents : LaidOver record.fields depth document {} cluster "pmu_events"
    (Reads (readList readText)) (·.monitorEvents)

theorem ClusterConfiguration.overlaid_of_reads {cluster : ClusterConfiguration}
    (reads : Reads (readRecord record) depth document cluster) :
    cluster.Overlaid depth document := by
  constructor
  case reads => exact reads
  case' caches => apply LaidOver.imp HierarchyRequest.overlaid_of_reads
  case' features => apply LaidOver.imp CoreFeatures.overlaid_of_reads
  all_goals exact laidOver_of_readRecord (by simp [record]) rfl reads

structure SwitchingConfiguration.Overlaid (depth : Nat) (document : Value)
    (switching : SwitchingConfiguration) : Prop where
  reads : Reads (readRecord record) depth document switching
  sequence : LaidOver record.fields depth document {} switching "sequence"
    (Reads (readList CoreModel.reader)) (·.sequence)
  instructionCap : LaidOver record.fields depth document {} switching "max_insts"
    (Reads (readOptional readUInt64)) (·.instructionCap)
  checker : LaidOver record.fields depth document {} switching "checker" (Reads readBoolean)
    (·.checker)

theorem SwitchingConfiguration.overlaid_of_reads {switching : SwitchingConfiguration}
    (reads : Reads (readRecord record) depth document switching) :
    switching.Overlaid depth document := by
  constructor
  case reads => exact reads
  all_goals exact laidOver_of_readRecord (by simp [record]) rfl reads

structure Phase.Overlaid (depth : Nat) (document : Value) (phase : Phase) : Prop where
  reads : Reads (readRecord record) depth document phase
  fidelity : Demanded record.fields depth document phase "fidelity" (Reads CoreModel.reader)
    (·.fidelity)
  ticks : LaidOver record.fields depth document { fidelity := .atomic } phase "ticks"
    (Reads (readOptional readUInt64)) (·.ticks)

theorem Phase.overlaid_of_reads {phase : Phase}
    (reads : Reads (readRecord record) depth document phase) : phase.Overlaid depth document := by
  constructor
  case reads => exact reads
  case fidelity => exact demanded_of_readRecord (by simp [record]) (by simp [record]) reads
  all_goals exact laidOver_of_readRecord (by simp [record]) rfl reads

structure RunConfiguration.Overlaid (depth : Nat) (document : Value) (run : RunConfiguration) :
    Prop where
  reads : Reads (readRecord record) depth document run
  directory : LaidOver record.fields depth document {} run "outdir" (Reads readPath) (·.directory)
  warmupInstructions : LaidOver record.fields depth document {} run "warmup_insts"
    (Reads (readOptional readUInt64)) (·.warmupInstructions)
  warmupQuantum : LaidOver record.fields depth document {} run "warmup_quantum_ticks"
    (Reads readUInt64) (·.warmupQuantum)
  standardWarmup : LaidOver record.fields depth document {} run "warmup_threshold_default"
    (Reads readUInt64) (·.standardWarmup)
  restore : LaidOver record.fields depth document {} run "restore" (Reads (readOptional readPath))
    (·.restore)
  revertBeforeCheckpoint : LaidOver record.fields depth document {} run "revert_before_checkpoint"
    (Reads readBoolean) (·.revertBeforeCheckpoint)
  phases : LaidOver record.fields depth document {} run "phases" (Each Phase.Overlaid) (·.phases)

theorem RunConfiguration.overlaid_of_reads {run : RunConfiguration}
    (reads : Reads (readRecord record) depth document run) : run.Overlaid depth document := by
  constructor
  case reads => exact reads
  case' phases => apply LaidOver.imp (.of_reads Phase.overlaid_of_reads)
  all_goals exact laidOver_of_readRecord (by simp [record]) rfl reads

structure BootConfiguration.Overlaid (depth : Nat) (document : Value) (boot : BootConfiguration) :
    Prop where
  reads : Reads (readRecord record) depth document boot
  rootDevice : LaidOver record.fields depth document {} boot "root_device" (Reads readText)
    (·.rootDevice)
  console : LaidOver record.fields depth document {} boot "console" (Reads readText) (·.console)
  loopsPerJiffy : LaidOver record.fields depth document {} boot "lpj" (Reads readUInt64)
    (·.loopsPerJiffy)
  extra : LaidOver record.fields depth document {} boot "extra" (Reads (readList readText))
    (·.extra)

theorem BootConfiguration.overlaid_of_reads {boot : BootConfiguration}
    (reads : Reads (readRecord record) depth document boot) : boot.Overlaid depth document := by
  constructor
  case reads => exact reads
  all_goals exact laidOver_of_readRecord (by simp [record]) rfl reads

structure Configuration.Overlaid (document : Value) (configuration : Configuration) :
    Prop where
  reads : Reads (readRecord record) 0 document configuration
  platform : LaidOver record.fields 0 document {} configuration "platform"
    (Reads (readName PlatformKind.spellings)) (·.platform)
  regions : LaidOver record.fields 0 document {} configuration "mem_regions"
    (Optionally (Each AddressRange.Overlaid)) (·.regions)
  memorySize : LaidOver record.fields 0 document {} configuration "mem_size"
    (Reads (readAmount ByteSize.form)) (·.memorySize)
  cachesEnabled : LaidOver record.fields 0 document {} configuration "caches_enabled"
    (Reads readBoolean) (·.cachesEnabled)
  depth : LaidOver record.fields 0 document {} configuration "hierarchy_depth" (Reads readUInt8)
    (·.depth)
  clusters : LaidOver record.fields 0 document {} configuration "clusters"
    (Each ClusterConfiguration.Overlaid) (·.clusters)
  switching : LaidOver record.fields 0 document {} configuration "switching"
    SwitchingConfiguration.Overlaid (·.switching)
  run : LaidOver record.fields 0 document {} configuration "run" RunConfiguration.Overlaid
    (·.run)
  boot : LaidOver record.fields 0 document {} configuration "boot" BootConfiguration.Overlaid
    (·.boot)

theorem Configuration.overlaid_of_reads {configuration : Configuration}
    (reads : Reads (readRecord record) 0 document configuration) :
    configuration.Overlaid document := by
  constructor
  case reads => exact reads
  case' regions => apply LaidOver.imp (.of_reads (.of_reads AddressRange.overlaid_of_reads))
  case' clusters => apply LaidOver.imp (.of_reads ClusterConfiguration.overlaid_of_reads)
  case' switching => apply LaidOver.imp SwitchingConfiguration.overlaid_of_reads
  case' run => apply LaidOver.imp RunConfiguration.overlaid_of_reads
  case' boot => apply LaidOver.imp BootConfiguration.overlaid_of_reads
  all_goals exact laidOver_of_readRecord (by simp [record]) rfl reads

end Mainboard
