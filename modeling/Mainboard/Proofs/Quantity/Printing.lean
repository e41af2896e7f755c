import Mainboard.BootArguments
import Mainboard.Proofs.Memory.Addresses
import Mainboard.Proofs.Quantity.WholeNumbers

/-!
# Printed sizes

A size is printed as a whole number of the largest unit that divides it, and so
it is read back, in whichever of the two ways of writing units it is printed.
What the kernel is told of the memory is read back as all of the memory.
-/

namespace Mainboard

/-- Digits are no blanks. -/
theorem Text.isSolid_toString (count : Nat) : IsSolid (toString count).toList := by
  rw [Nat.toString_eq_ofList_toDigits, String.toList_ofList]
  intro digit member
  have isDigit := Nat.isDigit_of_mem_toDigits (by decide) (by decide) member
  exact Measure.isBlank_of_isNumeric (Measure.isNumeric_of_isDigit isDigit)

namespace ByteSize

/-- Suffixes of the powers of 1024, each with its own. -/
structure Units.AreSuffixes (units : Units) : Prop where
  zero : units.zero = "0" ++ units.one
  one : (units.one, 1) ∈ measure.suffixes
  kilo : (units.kilo, 1024) ∈ measure.suffixes
  mega : (units.mega, 1048576) ∈ measure.suffixes
  giga : (units.giga, 1073741824) ∈ measure.suffixes

variable {units : Units}

/-- A size is printed as a whole number of a unit that divides it. -/
theorem exists_inUnits_eq (areSuffixes : units.AreSuffixes) (size : ByteSize) :
    ∃ count suffix multiplier, (suffix, multiplier) ∈ measure.suffixes ∧
      count * multiplier = size.bytes.toNat ∧
      size.inUnits units = toString count ++ suffix := by
  have divides : ∀ {multiplier : Nat}, size.bytes.toNat % multiplier = 0 →
      size.bytes.toNat / multiplier * multiplier = size.bytes.toNat :=
    fun whole => Nat.div_mul_cancel (Nat.dvd_of_mod_eq_zero whole)
  rw [inUnits]
  split
  next zero => exact ⟨0, units.one, 1, areSuffixes.one, zero.symm, areSuffixes.zero⟩
  next =>
    split
    next whole => exact ⟨_, units.giga, _, areSuffixes.giga, divides whole, rfl⟩
    next =>
      split
      next whole => exact ⟨_, units.mega, _, areSuffixes.mega, divides whole, rfl⟩
      next =>
        split
        next whole => exact ⟨_, units.kilo, _, areSuffixes.kilo, divides whole, rfl⟩
        next => exact ⟨_, units.one, 1, areSuffixes.one, Nat.mul_one _, rfl⟩

theorem read?_inUnits (areSuffixes : units.AreSuffixes) (size : ByteSize) :
    read? (size.inUnits units) = some size := by
  obtain ⟨count, suffix, multiplier, member, amount, printed⟩ := exists_inUnits_eq areSuffixes size
  have fits : count * multiplier < 2 ^ 64 := amount ▸ size.bytes.toNat_lt
  have read := (Measure.WholeNumber.printed count member).read?_eq isLegible_measure
  rw [Measure.WholeNumber.text_printed, Measure.WholeNumber.amount_printed, if_pos fits] at read
  rw [printed, read?, read, amount, UInt64.ofNat_toNat]
  rfl

/-- What is printed of a size has no blanks. -/
theorem isSolid_inUnits (areSuffixes : units.AreSuffixes) (size : ByteSize) :
    Text.IsSolid (size.inUnits units).toList := by
  obtain ⟨count, suffix, multiplier, member, -, printed⟩ := exists_inUnits_eq areSuffixes size
  rw [printed, String.toList_append]
  exact List.forall_mem_append.mpr
    ⟨Text.isSolid_toString count, isLegible_measure.isSolid _ member⟩

theorem areSuffixes_binary : Units.AreSuffixes ⟨"0B", "B", "KiB", "MiB", "GiB"⟩ :=
  ⟨by decide, by decide, by decide, by decide, by decide⟩

theorem areSuffixes_kernel : Units.AreSuffixes ⟨"0", "", "K", "M", "G"⟩ :=
  ⟨by decide, by decide, by decide, by decide, by decide⟩

end ByteSize

namespace BootConfiguration

variable {separator : Char → Bool} {boot : BootConfiguration}

/-- The six arguments before those that are configured are one word each, as long as the devices
are. -/
theorem exists_words_commandLine (parts : Text.PartsWords separator)
    (console : ∀ character ∈ boot.console.toList, separator character = false)
    (rootDevice : ∀ character ∈ boot.rootDevice.toList, separator character = false)
    (topology : Topology) :
    ∃ others, Text.words separator (boot.commandLine topology) =
      ["console=" ++ boot.console, "lpj=" ++ toString boot.loopsPerJiffy.toNat, "norandmaps",
        "root=" ++ boot.rootDevice, "rw",
        "mem=" ++ topology.requestedMemory.toKernelArgument] ++ others := by
  have count := parts.unparted (Text.isSolid_toString boot.loopsPerJiffy.toNat)
  have memory := parts.unparted
    (ByteSize.isSolid_inUnits ByteSize.areSuffixes_kernel topology.requestedMemory)
  refine Text.exists_words_intercalate parts.space ?_ boot.extra
  simp only [List.forall_mem_cons]
  exact ⟨parts.isWord_append (by decide) (by decide) console,
    parts.isWord_append (by decide) (by decide) count, parts.isWord (by decide) (by decide),
    parts.isWord_append (by decide) (by decide) rootDevice, parts.isWord (by decide) (by decide),
    parts.isWord_append (by decide) (by decide) memory, List.forall_mem_nil _⟩

end BootConfiguration

/-- Sizes are read back from what is printed of them.  The sixth word of a kernel's command line is
the memory of the machine, and is read back as all that its ranges hold. -/
theorem ByteSize.survives_printing :
    (∀ size : ByteSize, read? size.toText = some size ∧ read? size.toKernelArgument = some size) ∧
    ∀ (configuration : Configuration) (topology : Topology) (boot : BootConfiguration)
      (separator : Char → Bool), configuration.topology = .ok topology →
      Text.PartsWords separator →
      (∀ character ∈ boot.console.toList, separator character = false) →
      (∀ character ∈ boot.rootDevice.toList, separator character = false) →
      ∃ value, (Text.words separator (boot.commandLine topology))[5]? = some ("mem=" ++ value) ∧
        read? value = some ⟨Memory.total topology.memoryRanges⟩ ∧
        (Memory.total topology.memoryRanges).toNat = Memory.supply topology.memoryRanges := by
  have readsKernel : ∀ size : ByteSize, read? size.toKernelArgument = some size :=
    read?_inUnits areSuffixes_kernel
  refine ⟨fun size => ⟨read?_inUnits areSuffixes_binary size, readsKernel size⟩, ?_⟩
  intro configuration topology boot separator accepted parts console rootDevice
  obtain ⟨others, words⟩ :=
    BootConfiguration.exists_words_commandLine parts console rootDevice topology
  obtain ⟨requested, allocated⟩ := Configuration.allocate_of_topology accepted
  have total := Memory.total_of_allocate allocated
  refine ⟨topology.requestedMemory.toKernelArgument, by rw [words]; rfl, ?_, ?_⟩
  · rw [readsKernel, requested, total]
  · rw [total, Memory.supply_of_allocate allocated]

/-- The memory of the machine that comes without a configuration. -/
theorem ByteSize.survives_printing_standard :
    ∃ topology, ({} : Configuration).topology = .ok topology ∧
      ∃ value, (Text.words Text.isBlank (({} : BootConfiguration).commandLine topology))[5]? =
          some ("mem=" ++ value) ∧ read? value = some ⟨2147483648⟩ := by
  have composed : ∃ topology, ({} : Configuration).topology = .ok topology ∧
      Memory.total topology.memoryRanges = 2147483648 := ⟨_, rfl, rfl⟩
  obtain ⟨topology, accepted, total⟩ := composed
  obtain ⟨value, sixth, read, -⟩ := survives_printing.2 {} topology {} Text.isBlank accepted
    Text.partsWords_isBlank (Text.partsWords_isBlank.unparted (by decide))
    (Text.partsWords_isBlank.unparted (by decide))
  exact ⟨topology, accepted, value, sixth, total ▸ read⟩

end Mainboard
