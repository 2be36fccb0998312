import ReverseProxy.H1ProxyServer.CompileHeaders

/-!
# Countries of addresses

The rows of the generated table are in order and do not overlap, and their codes
are capital letters.  The database for IPv6 is third-party code.
-/

namespace ReverseProxy

open List

structure CountryRange where
  start : BitVec 32
  stop : BitVec 32
  code : UInt8 × UInt8
deriving DecidableEq, Repr

/-- Both octets are capital letters. -/
def IsCountryCode (code : UInt8 × UInt8) : Prop :=
  (65 ≤ code.1 ∧ code.1 ≤ 90) ∧ (65 ≤ code.2 ∧ code.2 ≤ 90)
deriving Decidable

/-- `IPV4_RANGES`. -/
structure Ipv4Ranges where
  rows : List CountryRange
  proper : ∀ row ∈ rows, row.start ≤ row.stop
  disjoint : rows.Pairwise (·.stop < ·.start)
  letters : ∀ row ∈ rows, IsCountryCode row.code

variable (table : Ipv4Ranges)

def lookupCountryV4 (key : BitVec 32) : Option (UInt8 × UInt8) :=
  -- `partition_point`
  let idx := (table.rows.takeWhile (·.start ≤ key)).length
  if idx = 0 then none
  else
    (table.rows[idx - 1]?).bind fun row =>
      if key ≥ row.start ∧ key ≤ row.stop then some row.code else none

/-- A row with the address in it stands right in front of the partition point:
earlier rows start earlier, and later ones start behind the address. -/
theorem partitionPoint_of_mem {rows : List CountryRange} {key : BitVec 32} {row : CountryRange}
    (proper : ∀ row ∈ rows, row.start ≤ row.stop) (disjoint : rows.Pairwise (·.stop < ·.start))
    (member : row ∈ rows) (starts : row.start ≤ key) (stops : key ≤ row.stop) :
    ∃ before, (rows.takeWhile (·.start ≤ key)).length = before + 1 ∧ rows[before]? = some row := by
  induction rows with
  | nil => cases member
  | cons first rows ih =>
    obtain ⟨apart, disjoint⟩ := pairwise_cons.mp disjoint
    rcases mem_cons.mp member with rfl | later
    · refine ⟨0, ?_, rfl⟩
      rw [takeWhile_cons_of_pos (by simpa using starts)]
      cases rows with
      | nil => rfl
      | cons next rows =>
        have := apart next mem_cons_self
        rw [takeWhile_cons_of_neg (by simp; bv_omega)]
        rfl
    · have := apart row later
      have := proper first mem_cons_self
      obtain ⟨before, length, found⟩ :=
        ih (fun row inside => proper row (mem_cons_of_mem _ inside)) disjoint later
      refine ⟨before + 1, ?_, found⟩
      rw [takeWhile_cons_of_pos (by simp; bv_omega), length_cons, length]

variable {table} in
theorem exists_row_of_lookupCountryV4 {key : BitVec 32} {code : UInt8 × UInt8}
    (found : lookupCountryV4 table key = some code) :
    ∃ row ∈ table.rows, row.start ≤ key ∧ key ≤ row.stop ∧ row.code = code := by
  simp only [lookupCountryV4] at found
  split at found
  · cases found
  obtain ⟨row, read, checked⟩ := Option.bind_eq_some_iff.mp found
  split at checked
  · next inside =>
      exact ⟨row, mem_of_getElem? read, inside.1, inside.2, by simpa using checked⟩
  · cases checked

/-- The country of an address is that of the row it lies in. -/
theorem lookupCountryV4_eq_some_iff {key : BitVec 32} {code : UInt8 × UInt8} :
    lookupCountryV4 table key = some code ↔
      ∃ row ∈ table.rows, row.start ≤ key ∧ key ≤ row.stop ∧ row.code = code := by
  constructor
  · exact exists_row_of_lookupCountryV4
  · rintro ⟨row, member, starts, stops, rfl⟩
    obtain ⟨before, length, found⟩ :=
      partitionPoint_of_mem table.proper table.disjoint member starts stops
    simp [lookupCountryV4, length, found, starts, stops]

/-- The first rows of the generated table. -/
def firstRanges : Ipv4Ranges :=
  { rows := [⟨0x01000000, 0x010000ff, (65, 85)⟩, ⟨0x01000100, 0x010001ff, (67, 78)⟩,
      ⟨0x01000200, 0x010003ff, (67, 78)⟩, ⟨0x01000400, 0x010007ff, (65, 85)⟩]
    proper := by decide
    disjoint := by decide
    letters := by decide }

theorem lookupCountryV4_eq_some_iff_third :
    lookupCountryV4 firstRanges 0x010002a0 = some (67, 78) :=
  (lookupCountryV4_eq_some_iff firstRanges).mpr
    ⟨⟨0x01000200, 0x010003ff, (67, 78)⟩, by decide, by decide, by decide, rfl⟩

/-! ## The lookup of the platform -/

variable (shortName : BitVec 128 → Option (List UInt8))

def lookupCountryV6 (address : BitVec 128) : Option (UInt8 × UInt8) :=
  match shortName address with
  | some [first, second] =>
    if IsCountryCode (first, second) then some (first, second) else none
  | _ => none

/-- A platform that looks countries up as the code does. -/
@[reducible] def Platform.withIpDb (base : Platform) : Platform :=
  { base with
    lookupCountry := fun
      | .v4 address => lookupCountryV4 table address
      | .v6 address => lookupCountryV6 shortName address
    lookupCountry_letters := by
      intro ip first second looked
      cases ip with
      | v4 address =>
        obtain ⟨row, member, _, _, code⟩ := exists_row_of_lookupCountryV4 looked
        have letters := table.letters row member
        rwa [code] at letters
      | v6 address =>
        simp only [lookupCountryV6] at looked
        split at looked
        · split at looked
          · next letters =>
              cases looked
              exact letters
          · cases looked
        · cases looked }

end ReverseProxy
