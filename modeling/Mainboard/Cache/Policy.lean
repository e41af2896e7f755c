/-!
# Replacement policies

A cache is built with one replacement policy and the parameters that policy
takes.  A parameter given to a policy that does not take it is ignored and
reported.
-/

namespace Mainboard

/-- The families of replacement policies. -/
inductive PolicyKind
  | lru
  | bip
  | sbip
  | lip
  | opt
  | mlpLinear
  | emissaryLru
  deriving DecidableEq

namespace PolicyKind

def name : PolicyKind → String
  | lru => "LRU"
  | bip => "BIP"
  | sbip => "SBIP"
  | lip => "LIP"
  | opt => "OPT"
  | mlpLinear => "MLP-Linear"
  | emissaryLru => "Emissary-LRU"

def engineClass : PolicyKind → String
  | lru => "LRURP"
  | bip => "BIPRP"
  | sbip => "SBIPRP"
  | lip => "LIPRP"
  | opt => "OPTRP"
  | mlpLinear => "MLPLINRP"
  | emissaryLru => "LRUEmissaryRP"

/-- The family of a name.  Names are case-sensitive, two families have a second
name, and every other name stands for least recently used. -/
def ofName (name : String) : PolicyKind :=
  if name = "Emissary-LRU" ∨ name = "LRUEmissary" then emissaryLru
  else if name = "OPT" then opt
  else if name = "LIP" then lip
  else if name = "SBIP" then sbip
  else if name = "BIP" then bip
  else if name = "MLP-Linear" ∨ name = "MLP" then mlpLinear
  else lru

/-- Whether caches of the family are built with the geometry of the oracle baseline. -/
def usesBaseline (kind : PolicyKind) : Bool := kind = opt

end PolicyKind

/-- The parameters that some policy takes. -/
inductive PolicyParameter
  | preserveWays
  | flushPeriodCycles
  | bypassProbability
  deriving DecidableEq

def PolicyParameter.name : PolicyParameter → String
  | preserveWays => "preserve_ways"
  | flushPeriodCycles => "flush_period_cycles"
  | bypassProbability => "bypass_probability"

def PolicyKind.takes (kind : PolicyKind) : PolicyParameter → Bool
  | .preserveWays | .flushPeriodCycles => kind = emissaryLru
  | .bypassProbability => kind = bip

/-- The parameters given along with a policy. -/
structure PolicyParameters where
  preserveWays : Option UInt32 := none
  flushPeriodCycles : Option UInt64 := none
  bypassProbability : Option UInt8 := none
  deriving DecidableEq

namespace PolicyParameters

def gives (parameters : PolicyParameters) : PolicyParameter → Bool
  | .preserveWays => parameters.preserveWays.isSome
  | .flushPeriodCycles => parameters.flushPeriodCycles.isSome
  | .bypassProbability => parameters.bypassProbability.isSome

end PolicyParameters

/-- A parameter given to a policy that does not take it. -/
structure PolicyMismatch where
  policy : PolicyKind
  parameter : PolicyParameter
  deriving DecidableEq

def PolicyMismatch.message (mismatch : PolicyMismatch) : String :=
  "parameter `" ++ mismatch.parameter.name ++ "` does not apply to the " ++
    mismatch.policy.name ++ " policy; ignored"

/-- A replacement policy with the parameters it takes. -/
inductive Policy
  | lru
  /-- Inserts a line as most recently used with a probability in percent. -/
  | bip (bypassProbability : UInt8)
  | sbip
  | lip
  | opt
  | mlpLinear
  /-- Keeps some ways for preserved lines and the rest for the least recently used. -/
  | emissaryLru (preserveWays lruWays : UInt32) (flushPeriodCycles : Option UInt64)
  deriving DecidableEq

namespace Policy

def kind : Policy → PolicyKind
  | lru => .lru
  | bip .. => .bip
  | sbip => .sbip
  | lip => .lip
  | opt => .opt
  | mlpLinear => .mlpLinear
  | emissaryLru .. => .emissaryLru

def standardBypassProbability : UInt8 := 3

def standardPreserveWays : UInt32 := 6

/-- The bimodal policy; a probability above 100 percent is held there. -/
def bimodal (bypassProbability : Option UInt8) : Policy :=
  bip (min (bypassProbability.getD standardBypassProbability) 100)

/-- The policy that splits the ways of a cache.  One way at least stays with
the least recently used lines, unless the cache has none. -/
def splitWays (ways : UInt32) (preserveWays : Option UInt32)
    (flushPeriodCycles : Option UInt64) : Policy :=
  let ceiling := if ways = 0 then 0 else ways - 1
  let preserved := min (preserveWays.getD standardPreserveWays) ceiling
  emissaryLru preserved (ways - preserved) flushPeriodCycles

def ofKind (kind : PolicyKind) (ways : UInt32) (parameters : PolicyParameters) : Policy :=
  match kind with
  | .lru => lru
  | .bip => bimodal parameters.bypassProbability
  | .sbip => sbip
  | .lip => lip
  | .opt => opt
  | .mlpLinear => mlpLinear
  | .emissaryLru => splitWays ways parameters.preserveWays parameters.flushPeriodCycles

@[simp]
theorem kind_ofKind (kind : PolicyKind) (ways : UInt32) (parameters : PolicyParameters) :
    (ofKind kind ways parameters).kind = kind := by
  cases kind <;> rfl

end Policy

/-- The policy chosen for one cache, whether it asks for the oracle baseline,
and the parameters that were ignored. -/
structure PolicyChoice where
  policy : Policy
  baseline : Bool
  ignored : List PolicyMismatch
  deriving DecidableEq

namespace PolicyChoice

def reported : List PolicyParameter := [.preserveWays, .flushPeriodCycles, .bypassProbability]

def ofKind (kind : PolicyKind) (ways : UInt32) (parameters : PolicyParameters) : PolicyChoice where
  policy := Policy.ofKind kind ways parameters
  baseline := kind.usesBaseline
  ignored :=
    (reported.filter fun parameter => parameters.gives parameter && !kind.takes parameter).map
      fun parameter => ⟨kind, parameter⟩

def ofName (name : String) (ways : UInt32) (parameters : PolicyParameters) : PolicyChoice :=
  ofKind (PolicyKind.ofName name) ways parameters

end PolicyChoice

end Mainboard
