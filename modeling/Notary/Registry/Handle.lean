namespace Notary

/-!
Handles: numbers that stand for objects outside the library. A handle packs the index of a slot into
its low bits and the generation of the slot into the next ones; the sign bit stays clear.
-/

structure Handle where
  raw : Int
  deriving DecidableEq, Repr, Inhabited

namespace Handle

def indexBits : Nat := 20

def generationBits : Nat := 11

def slots : Nat := 1 <<< indexBits

def lastGeneration : Nat := (1 <<< generationBits) - 1

def pack (index generation : Nat) : Handle :=
  ⟨generation * slots + index⟩

def bits (handle : Handle) : Nat :=
  (handle.raw % 0x1_0000_0000).toNat

def index (handle : Handle) : Nat :=
  handle.bits % slots

def generation (handle : Handle) : Nat :=
  handle.bits / slots

theorem index_pack {index : Nat} (fits : index < slots) (generation : Nat) :
    (pack index generation).index = index := by
  simp only [pack, Handle.index, bits, slots, indexBits, Nat.reduceShiftLeft] at *
  omega

theorem generation_pack {index generation : Nat} (indexFits : index < slots)
    (generationFits : generation ≤ lastGeneration) :
    (pack index generation).generation = generation := by
  simp only [pack, Handle.generation, bits, slots, indexBits, lastGeneration, generationBits,
    Nat.reduceShiftLeft] at *
  omega

end Handle

end Notary
