import Mathlib.Data.Int.Order.Basic
import Mathlib.Logic.Function.Basic
import ReverseProxy.Library.SortedVec

/-!
# Registries of upstream pools

`H1PoolRegistry` and `H2PoolRegistry` run the same code: `ensure_pool` makes the
pool of a location once, and `drain_unused` shuts the pools of unused locations
down and forgets them.
-/

namespace ReverseProxy

open Library SortedVec

/-- The pools made so far with their numbers, and the numbers by location id.
A pool that was forgotten lives on as long as someone uses it. -/
structure PoolRegistry (π : Type) where
  pools : Nat → π
  made : Nat := 0
  registry : SortedVec Int Nat := .empty

namespace PoolRegistry

variable {π : Type} {system : PoolRegistry π}

/-- `ensure_pool`: the number of the pool, and the state after it. -/
def ensurePool (system : PoolRegistry π) (locationId : Int) (pool : π) : Nat × PoolRegistry π :=
  match system.registry.get locationId with
  | some number => (number, system)
  | none =>
    (system.made,
      { pools := Function.update system.pools system.made pool
        made := system.made + 1
        registry := (fromIterator system.registry.items
          ).insertOrReplace locationId system.made })

/-- The pools that a drain with these locations in use gives up. -/
def givesUp (system : PoolRegistry π) (active : Int → Bool) (number : Nat) :
    Bool :=
  system.registry.items.any fun item => item.2 = number && !active item.1

/-- `drain_unused`. -/
def drainUnused (system : PoolRegistry π) (shutDown : π → π)
    (active : Int → Bool) : PoolRegistry π :=
  { system with
    pools := fun number =>
      if system.givesUp active number then shutDown (system.pools number)
      else system.pools number
    registry := fromIterator (system.registry.items.filter (active ·.1)) }

theorem mem_drainUnused (shutDown : π → π) (active : Int → Bool) (item : Int × Nat) :
    item ∈ (system.drainUnused shutDown active).registry.items ↔
      item ∈ system.registry.items ∧ active item.1 = true := by
  simp only [drainUnused]
  rw [fromIterator_items (system.registry.sorted.filter _), List.mem_filter]

theorem drainUnused_pools (shutDown : π → π) {active : Int → Bool}
    {item : Int × Nat} (member : item ∈ system.registry.items)
    (unused : active item.1 = false) :
    (system.drainUnused shutDown active).pools item.2 = shutDown (system.pools item.2) := by
  have given : system.givesUp active item.2 = true := by
    apply List.any_eq_true.mpr
    exact ⟨item, member, by simp [unused]⟩
  simp [drainUnused, given]

theorem mem_ensurePool (locationId : Int) (pool : π) :
    (locationId, (system.ensurePool locationId pool).1) ∈
      (system.ensurePool locationId pool).2.registry.items := by
  unfold ensurePool
  split
  case h_1 number found => exact get_eq_some_iff.mp found
  case h_2 _ => exact mem_insertItem_self _ _ _

theorem mem_ensurePool_of_mem {locationId : Int} {pool : π}
    {item : Int × Nat} (member : item ∈ system.registry.items) :
    item ∈ (system.ensurePool locationId pool).2.registry.items := by
  unfold ensurePool
  split
  case h_1 _ _ => exact member
  case h_2 missing =>
    apply mem_insertItem_of_ne
    · rw [fromIterator_items system.registry.sorted]
      exact member
    · rintro rfl
      rw [get_eq_some_iff.mpr member] at missing
      exact absurd missing (by simp)

end PoolRegistry

end ReverseProxy
