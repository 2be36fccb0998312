import Mathlib.Data.List.Rotate
import ReverseProxy.Rust.Outcome
import ReverseProxy.UpstreamPools.H2Pool

/-!
# The scans for a connection

Both pools look for an entry from the slot of the round robin on.  A scan goes
round the whole list, but the remainder for its first slot panics when the list
of a pool of size 0 is empty.
-/

namespace ReverseProxy

open Library H1Pool

/-- The scan goes through the slots in their order, begun elsewhere. -/
theorem H1Pool.scanOrder_perm (start len : Nat) :
    (scanOrder start len).Perm (List.range len) := by
  have rotated : scanOrder start len = (List.range len).rotate start := by
    apply List.ext_getElem
    · simp [scanOrder]
    · intro index _ _
      simp [scanOrder, List.getElem_rotate, Nat.add_comm]
  rw [rotated]
  exact List.rotate_perm _ _

/-- `overriden_by` and `resolve`: a location overrides its endpoint, which
overrides the global settings. -/
def resolvePoolSize (global endpoint location : Option UInt8) : UInt8 :=
  (location.or (endpoint.or global)).getD 5

/-- The slots that `get_connection` of both pools asks for before it gives up.
A pool below its size grows instead, and the remainder by 0 panics. -/
def visitedSlots (poolSize : UInt8) (len : Nat) (next : UInt64) : Outcome (List Nat) :=
  if len < poolSize.toNat then .ret []
  else if len = 0 then .panic
  else .ret (scanOrder (next.toNat % len) len)

/-- A call of the HTTP/1 pool rents the first visited slot that is free. -/
theorem H1Pool.enter_rents_iff {pool : H1Pool} {visited : List Nat} (runs : pool.shutdown = false)
    (visits : visitedSlots pool.params.poolSize pool.clients.length pool.next = .ret visited)
    (counter : Nat) (expired : Bool) (slot : Nat) :
    (∃ stage ∈ (pool.enter counter expired).2.2, stage.rents slot) ↔
      visited.find? (!pool.isRented ·) = some slot := by
  unfold visitedSlots at visits
  unfold enter
  simp only [runs, Bool.false_eq_true, if_false]
  split at visits
  · cases visits
    simp [*, H1Stage.rents]
  · split at visits
    · cases visits
    · cases visits
      simp only [*, if_false]
      split
      · next found =>
          change (scanOrder _ _).find? (!pool.isRented ·) = _ at found
          rw [found]
          split <;> simp [H1Stage.rents]
      · next rented =>
          change (scanOrder _ _).find? (!pool.isRented ·) = _ at rented
          rw [rented]
          split
          · simp [H1Stage.rents]
          · split <;> simp [H1Stage.rents]

/-- A call of the HTTP/2 pool scans the visited slots, and revives the first of
them if no client is alive. -/
theorem H2Pool.enter_eq_scan {pool : H2Pool} {first : Nat} {rest : List Nat}
    (visits : visitedSlots pool.params.poolSize pool.clients.length pool.next =
      .ret (first :: rest)) (around : H2Surroundings) :
    pool.enter around =
      let (scanned, stages, found) := { pool with next := pool.next + 1 }.scan around
        (first :: rest)
      (scanned, stages ++ if found then [] else [.reviving first .locking]) := by
  unfold visitedSlots at visits
  unfold enter
  split at visits
  · cases visits
  · split at visits
    · cases visits
    · next nonempty =>
        have order := Outcome.ret.inj visits
        have starts : first = pool.next.toNat % pool.clients.length := by
          have head := congrArg List.head? order
          simpa [scanOrder, nonempty, List.head?_range, eq_comm] using head
        simp only [*, if_false]

/-- Exactly if the pool size is not 0 no scan panics and each visits every slot
once, whatever the loaded list and the counter are; the second scan for HTTP/2
begins at the slot of the first one in a list that may have changed. -/
theorem scans_cover_iff (global endpoint location : Option UInt8) :
    (∀ len next, ∃ visited,
      visitedSlots (resolvePoolSize global endpoint location) len next = .ret visited ∧
      ((resolvePoolSize global endpoint location).toNat ≤ len →
        visited.Perm (List.range len) ∧
        ∀ later, (scanOrder (next.toNat % len) later).Perm (List.range later))) ↔
      resolvePoolSize global endpoint location ≠ 0 := by
  generalize resolvePoolSize global endpoint location = size
  constructor
  · rintro covers rfl
    obtain ⟨visited, panics, _⟩ := covers 0 0
    contradiction
  · intro nonzero len next
    have positive : 0 < size.toNat :=
      Nat.pos_of_ne_zero fun zero => nonzero (UInt8.toNat_inj.mp zero)
    unfold visitedSlots
    by_cases grows : len < size.toNat
    · exact ⟨[], if_pos grows, by omega⟩
    · rw [if_neg grows, if_neg (by omega)]
      exact ⟨_, rfl, fun _ => ⟨scanOrder_perm _ _, scanOrder_perm _⟩⟩

/-- A location with the pool size 0 has pools, and their scans panic. -/
theorem empty_pool_panics : ∃ (h1 : H1Pools) (h2 : H2Pools),
    Run H1Pools.Step (fun _ _ => True) {} h1 ∧ Run H2Pools.Step (fun _ _ => True) {} h2 ∧
      (h1.pools 0).params.poolSize = resolvePoolSize none none (some 0) ∧
      visitedSlots (h1.pools 0).params.poolSize (h1.pools 0).clients.length (h1.pools 0).next =
        .panic ∧
      visitedSlots (h2.pools 0).params.poolSize (h2.pools 0).clients.length (h2.pools 0).next =
        .panic :=
  ⟨_, _, .step (.start _) trivial (.poolEnsured _ 0 { poolSize := 0 }),
    .step (.start _) trivial (.poolEnsured _ 0 { poolSize := 0 }), rfl, rfl, rfl⟩

end ReverseProxy
