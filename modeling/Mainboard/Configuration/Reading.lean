import Mainboard.Configuration.Basic
import Mainboard.Document.Record

/-!
# Reading configurations

The records of a configuration document, each with the names of its fields and
with what they are when the document does not give them, and the configuration
that the text of a file stands for.
-/

namespace Mainboard

open Document

def ByteSize.form : AmountForm ByteSize where
  noun := measure.noun
  expected := "a byte count or a size string such as \"32kB\""
  ofText? := read?
  ofWhole? count := some ⟨count⟩

def Frequency.form : AmountForm Frequency where
  noun := measure.noun
  expected := "a frequency in Hz or a string such as \"2GHz\""
  ofText? := read?
  ofWhole? hertz := if hertz = 0 then none else some ⟨hertz⟩

def Voltage.form : AmountForm Voltage where
  noun := measure.noun
  expected := "a voltage in mV or a string such as \"1.0V\""
  ofText? := read?
  ofWhole? := ofMillivolts?

def CoreModel.reader : Reader CoreModel := readName spellings

def AddressRange.record : Record AddressRange where
  name := "AddrRange"
  default := ⟨0, 0⟩
  fields :=
    [.mandatory "start" readUInt64 fun start range => { range with start },
      .mandatory "size" readUInt64 fun size range => { range with size }]

def PredictorRequest.record : Record PredictorRequest where
  name := "BranchPredictorConfig"
  default := {}
  fields :=
    [.optional "kind" (readName PredictorKind.spellings)
        fun kind request => { request with kind },
      .optional "btb_entries" (readOptional readUInt64)
        fun targetEntries request => { request with targetEntries },
      .optional "indirect" (readName IndirectPredictorKind.spellings)
        fun indirect request => { request with indirect }]

def FetchFeatures.record : Record FetchFeatures where
  name := "FetchFeatures"
  default := {}
  fields :=
    [.optional "fdip" readBoolean
        fun directedPrefetch features => { features with directedPrefetch },
      .optional "perfect_icache" readBoolean
        fun perfectCache features => { features with perfectCache },
      .optional "fetch_queue_size" (readOptional readUInt32)
        fun queueSize features => { features with queueSize },
      .optional "ftq_size" (readOptional readUInt32)
        fun targetQueueSize features => { features with targetQueueSize },
      .optional "ftq_inst" (readOptional readUInt32)
        fun targetInstructions features => { features with targetInstructions }]

def StarvationFeatures.record : Record StarvationFeatures where
  name := "StarvationFeatures"
  default := {}
  fields :=
    [.optional "starve_at_least" (readOptional readUInt32)
        fun minimumCount features => { features with minimumCount },
      .optional "random_starve" readBoolean
        fun random features => { features with random },
      .optional "starve_randomness" (readOptional readUInt32)
        fun randomness features => { features with randomness },
      .optional "pure_random" readBoolean
        fun pureRandom features => { features with pureRandom },
      .optional "hist_random" readBoolean
        fun randomHistory features => { features with randomHistory },
      .optional "oracle_emissary" readBoolean
        fun oracle features => { features with oracle },
      .optional "oracle_starvations_file" (readOptional readPath)
        fun oracleFile features => { features with oracleFile },
      .optional "oracle_starvation_count_threshold" (readOptional readUInt32)
        fun oracleThreshold features => { features with oracleThreshold }]

def InstructionLimits.record : Record InstructionLimits where
  name := "InstructionLimits"
  default := {}
  fields :=
    [.optional "max_insts" (readOptional readUInt64)
        fun perThread limits => { limits with perThread },
      .optional "total_sim_insts" (readOptional readUInt64)
        fun total limits => { limits with total }]

def CoreFeatures.record : Record CoreFeatures where
  name := "CoreFeatureSet"
  default := {}
  fields :=
    [.optional "fetch" (readRecord FetchFeatures.record)
        fun fetch features => { features with fetch },
      .optional "starvation" (readRecord StarvationFeatures.record)
        fun starvation features => { features with starvation },
      .optional "branch_predictor" (readOptional (readRecord PredictorRequest.record))
        fun predictor features => { features with predictor },
      .optional "btb_conf_threshold" (readOptional readUInt32)
        fun confidenceThreshold features => { features with confidenceThreshold },
      .optional "btb_conf_min_inst" (readOptional readUInt64)
        fun confidenceMinimum features => { features with confidenceMinimum },
      .optional "dump_btb_conf" readBoolean
        fun dumpConfidence features => { features with dumpConfidence },
      .optional "dump_tms" readBoolean
        fun dumpStarvation features => { features with dumpStarvation },
      .optional "limits" (readRecord InstructionLimits.record)
        fun limits features => { features with limits },
      .optional "num_sets" (readOptional readUInt32)
        fun sets features => { features with sets }]

/-- A policy's name in documents.  Every text names a policy. -/
def PolicyKind.reader : Reader PolicyKind := fun depth value =>
  (readText depth value).map ofName

def CacheRequest.record : Record CacheRequest where
  name := "CacheLevelRequest"
  default := {}
  fields :=
    [.optional "replacement_policy" (readOptional PolicyKind.reader)
        fun policy request => { request with policy },
      .optional "preserve_ways" (readOptional readUInt32)
        fun preserveWays request =>
          { request with parameters := { request.parameters with preserveWays } },
      .optional "size" (readOptional (readAmount ByteSize.form))
        fun size request => { request with size },
      .optional "assoc" (readOptional readUInt32)
        fun ways request => { request with ways }]

def CacheRequest.policyFields : List (RecordField CacheRequest) :=
  [.optional "flush_period_cycles" (readOptional readUInt64)
      fun flushPeriodCycles request =>
        { request with parameters := { request.parameters with flushPeriodCycles } },
    .optional "bypass_probability" (readOptional readUInt8)
      fun bypassProbability request =>
        { request with parameters := { request.parameters with bypassProbability } }]

def CacheRequest.reader : Reader CacheRequest := readNested record policyFields

def HierarchyRequest.record : Record HierarchyRequest where
  name := "CacheRequests"
  default := {}
  fields :=
    [.optional "l1i" CacheRequest.reader fun l1i requests => { requests with l1i },
      .optional "l1d" CacheRequest.reader fun l1d requests => { requests with l1d },
      .optional "l2" CacheRequest.reader fun l2 requests => { requests with l2 },
      .optional "opt" readBoolean fun analysis requests => { requests with analysis }]

def ClusterConfiguration.record : Record ClusterConfiguration where
  name := "ClusterConfig"
  default :=
    { cores := 1, model := .atomic, clock := .ghz 2, voltage := .standard, caches := {},
      features := {}, threads := 1, monitorInterrupts := none, monitorEvents := [] }
  fields :=
    [.optional "cores" readCount fun cores cluster => { cluster with cores },
      .optional "cpu_model" CoreModel.reader fun model cluster => { cluster with model },
      .optional "clock" (readAmount Frequency.form)
        fun clock cluster => { cluster with clock },
      .optional "voltage" (readAmount Voltage.form)
        fun voltage cluster => { cluster with voltage },
      .optional "caches" (readRecord HierarchyRequest.record)
        fun caches cluster => { cluster with caches },
      .optional "features" (readRecord CoreFeatures.record)
        fun features cluster => { cluster with features },
      .optional "threads_per_core" readUInt32
        fun threads cluster => { cluster with threads },
      .optional "pmu_interrupts" (readOptional (readList readUInt32))
        fun monitorInterrupts cluster => { cluster with monitorInterrupts },
      .optional "pmu_events" (readList readText)
        fun monitorEvents cluster => { cluster with monitorEvents }]

def SwitchingConfiguration.record : Record SwitchingConfiguration where
  name := "SwitchingConfig"
  default :=
    { sequence := [.atomic, .timing, .outOfOrder], instructionCap := none, checker := false }
  fields :=
    [.optional "sequence" (readList CoreModel.reader)
        fun sequence switching => { switching with sequence },
      .optional "max_insts" (readOptional readUInt64)
        fun instructionCap switching => { switching with instructionCap },
      .optional "checker" readBoolean
        fun checker switching => { switching with checker }]

def Phase.record : Record Phase where
  name := "PhaseConfig"
  default := { fidelity := .atomic }
  fields :=
    [.mandatory "fidelity" CoreModel.reader fun fidelity phase => { phase with fidelity },
      .optional "ticks" (readOptional readUInt64) fun ticks phase => { phase with ticks }]

def RunConfiguration.record : Record RunConfiguration where
  name := "RunConfig"
  default :=
    { directory := "m5out", warmupInstructions := none, warmupQuantum := 250000000,
      standardWarmup := 5000000, restore := none, revertBeforeCheckpoint := true, phases := [] }
  fields :=
    [.optional "outdir" readPath fun directory run => { run with directory },
      .optional "warmup_insts" (readOptional readUInt64)
        fun warmupInstructions run => { run with warmupInstructions },
      .optional "warmup_quantum_ticks" readUInt64
        fun warmupQuantum run => { run with warmupQuantum },
      .optional "warmup_threshold_default" readUInt64
        fun standardWarmup run => { run with standardWarmup },
      .optional "restore" (readOptional readPath) fun restore run => { run with restore },
      .optional "revert_before_checkpoint" readBoolean
        fun revertBeforeCheckpoint run => { run with revertBeforeCheckpoint },
      .optional "phases" (readList (readRecord Phase.record))
        fun phases run => { run with phases }]

def BootConfiguration.record : Record BootConfiguration where
  name := "BootConfig"
  default :=
    { rootDevice := "/dev/vda", console := "ttyAMA0", loopsPerJiffy := 19988480, extra := [] }
  fields :=
    [.optional "root_device" readText fun rootDevice boot => { boot with rootDevice },
      .optional "console" readText fun console boot => { boot with console },
      .optional "lpj" readUInt64 fun loopsPerJiffy boot => { boot with loopsPerJiffy },
      .optional "extra" (readList readText) fun extra boot => { boot with extra }]

namespace Configuration

def record : Record Configuration where
  name := "SimConfig"
  default :=
    { platform := .standard, regions := none, memorySize := .gib 2, cachesEnabled := true,
      depth := 3, clusters := [{}], switching := {}, run := {}, boot := {} }
  fields :=
    [.optional "platform" (readName PlatformKind.spellings)
        fun platform configuration => { configuration with platform },
      .optional "mem_regions" (readOptional (readList (readRecord AddressRange.record)))
        fun regions configuration => { configuration with regions },
      .optional "mem_size" (readAmount ByteSize.form)
        fun memorySize configuration => { configuration with memorySize },
      .optional "caches_enabled" readBoolean
        fun cachesEnabled configuration => { configuration with cachesEnabled },
      .optional "hierarchy_depth" readUInt8
        fun depth configuration => { configuration with depth },
      .optional "clusters" (readList (readRecord ClusterConfiguration.record))
        fun clusters configuration => { configuration with clusters },
      .optional "switching" (readRecord SwitchingConfiguration.record)
        fun switching configuration => { configuration with switching },
      .optional "run" (readRecord RunConfiguration.record)
        fun run configuration => { configuration with run },
      .optional "boot" (readRecord BootConfiguration.record)
        fun boot configuration => { configuration with boot }]

def ofText (text : String) : Except Error Configuration :=
  (readDocument (readRecord record) text).mapError .document

/-- A file: absent, or with its bytes. -/
inductive File
  | absent
  | present (bytes : ByteArray)

/-- The configuration of a file, which holds UTF-8 text. -/
def ofFile : File → Except Error Configuration
  | .absent => .error (.file .absent)
  | .present bytes =>
      match String.fromUTF8? bytes with
      | none => .error (.file .notText)
      | some text => ofText text

end Configuration

end Mainboard
