import Rdfa.Text.Basic

-- What a host may choose about a run.
namespace Rdfa

structure Processing where
  -- Declared prefixes are announced to the consumer.
  announcePrefixes : Bool := true
  -- Warnings go to the processor graph.
  announceWarnings : Bool := true
  -- Elements such as `br` need no end tag.
  voidElements : Bool := true
  -- How many elements may be open at once.
  maxDepth : Nat := 512
deriving Repr, DecidableEq

structure Settings where
  -- The most bytes asked for at once.
  chunkCapacity : Nat := 4096
  -- What is laid over the part of a buffer that no input filled.
  padByte : Option UInt8 := none
  processing : Processing := {}
deriving Repr, DecidableEq

namespace Settings

inductive Problem where
  | noCapacity
  | noDepth
deriving Repr, DecidableEq

def Problem.message : Problem → Text
  | noCapacity => "invalid config: chunk_capacity must be at least 1".toList
  | noDepth => "invalid config: engine.max_depth must be at least 1".toList

def problem? (settings : Settings) : Option Problem :=
  if settings.chunkCapacity = 0 then some .noCapacity
  else if settings.processing.maxDepth = 0 then some .noDepth
  else none

theorem problem?_eq_none_iff {settings : Settings} :
    settings.problem? = none ↔ 0 < settings.chunkCapacity ∧ 0 < settings.processing.maxDepth := by
  by_cases capacity : settings.chunkCapacity = 0 <;>
    by_cases depth : settings.processing.maxDepth = 0 <;>
      simp [problem?, capacity, depth, Nat.pos_iff_ne_zero]

end Settings
end Rdfa
