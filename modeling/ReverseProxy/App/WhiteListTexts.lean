import ReverseProxy.App.BlocklistHistory
import ReverseProxy.Rust.Path

/-!
# The texts of a white list

An entry is meant to spell one IPv4 address, or two in order with a dash between
them.  The reader also takes fewer parts, parts over 255, a plus sign, a wrong
order and whatever follows a second dash.
-/

namespace ReverseProxy

/-! ## Spelling -/

def spelledOctet (part : Str) : Option (BitVec 8) :=
  if part ≠ [] ∧ part.all isAsciiDigit ∧ decimal part ≤ 255 then
    some (BitVec.ofNat 8 (decimal part))
  else
    none

def spelledIp (text : Str) : Option (BitVec 32) :=
  match text.splitOn '.' with
  | [first, second, third, fourth] => do
    return (← spelledOctet first) ++ (← spelledOctet second) ++ (← spelledOctet third) ++
      (← spelledOctet fourth)
  | _ => none

def spelledEntry (item : Str) : Option WhitelistedIp :=
  match item.splitOn '-' with
  | [one] => return .singleIp (← spelledIp one)
  | [left, right] => do
    let ipFrom ← spelledIp left
    let ipTo ← spelledIp right
    if ipFrom ≤ ipTo then some (.range ipFrom ipTo) else none
  | _ => none

theorem parseU32_of_spelled {part : Str} {octet : BitVec 8}
    (spelled : spelledOctet part = some octet) : parseU32 part = some octet.toNat := by
  obtain ⟨⟨nonempty, digits, small⟩, ⟨⟩⟩ := Option.ite_none_right_eq_some.mp spelled
  have unsigned : ∀ rest, part ≠ '+' :: rest := by
    rintro rest rfl
    simp [isAsciiDigit] at digits
  have word : decimal part < usizeSize := Nat.lt_of_le_of_lt small (by decide)
  simp [parseU32, parseUsize, nonempty, digits, word, Option.filter_some]
  omega

theorem octets_or (first second third fourth : BitVec 8) :
    0#32 ||| BitVec.ofNat 32 first.toNat <<< 24 ||| BitVec.ofNat 32 second.toNat <<< 16 |||
        BitVec.ofNat 32 third.toNat <<< 8 ||| BitVec.ofNat 32 fourth.toNat <<< 0 =
      first ++ second ++ third ++ fourth := by
  have := first.isLt
  have := second.isLt
  have := third.isLt
  have := fourth.isLt
  apply BitVec.eq_of_toNat_eq
  simp only [BitVec.toNat_append, BitVec.toNat_or, Nat.shiftLeft_or_distrib, ← Nat.shiftLeft_add]
  simp (disch := omega) [Nat.shiftLeft_eq, Nat.mod_eq_of_lt]

theorem getTextIpValue_of_spelled {text : Str} {ip : BitVec 32}
    (spelled : spelledIp text = some ip) : getTextIpValue text = .ret ip := by
  unfold spelledIp at spelled
  split at spelled
  case h_1 first second third fourth split =>
    simp only [Option.bind_eq_bind, Option.pure_def, Option.bind_eq_some_iff] at spelled
    obtain ⟨_, first, _, second, _, third, _, fourth, equal⟩ := spelled
    cases equal
    simp only [getTextIpValue, split, readIpParts, parseU32_of_spelled first,
      parseU32_of_spelled second, parseU32_of_spelled third, parseU32_of_spelled fourth]
    exact congrArg _ (octets_or ..)
  case h_2 => cases spelled

theorem readWhitelistedIp_of_spelled {item : Str} {entry : WhitelistedIp}
    (spelled : spelledEntry item = some entry) : readWhitelistedIp item = .ret entry := by
  unfold spelledEntry at spelled
  split at spelled
  case h_1 split =>
    simp only [Option.bind_eq_bind, Option.pure_def, Option.bind_eq_some_iff] at spelled
    obtain ⟨ip, one, equal⟩ := spelled
    cases equal
    simp [readWhitelistedIp, split, getTextIpValue_of_spelled one]
  case h_2 split =>
    simp only [Option.bind_eq_bind, Option.bind_eq_some_iff] at spelled
    obtain ⟨ipFrom, left, ipTo, right, equal⟩ := spelled
    obtain ⟨_, ⟨⟩⟩ := Option.ite_none_right_eq_some.mp equal
    simp [readWhitelistedIp, split, getTextIpValue_of_spelled left,
      getTextIpValue_of_spelled right]
  case h_3 => cases spelled

/-! ## Printing -/

def toIp (ip : BitVec 32) : List (BitVec 8) :=
  [ip.extractLsb' 24 8, ip.extractLsb' 16 8, ip.extractLsb' 8 8, ip.extractLsb' 0 8]

/-- `Display for Ipv4Addr`. -/
def displayIpv4 (octets : List (BitVec 8)) : Str :=
  ['.'].intercalate (octets.map fun octet => Nat.toDigits 10 octet.toNat)

def WhitelistedIp.toString : WhitelistedIp → Str
  | singleIp ip => displayIpv4 (toIp ip)
  | range ipFrom ipTo => ['-'].intercalate [displayIpv4 (toIp ipFrom), displayIpv4 (toIp ipTo)]

theorem octet_digits : ∀ octet : BitVec 8,
    spelledOctet (Nat.toDigits 10 octet.toNat) = some octet ∧
      '.' ∉ Nat.toDigits 10 octet.toNat ∧ '-' ∉ Nat.toDigits 10 octet.toNat := by
  decide +kernel

theorem dash_notMem_displayIpv4 (octets : List (BitVec 8)) : '-' ∉ displayIpv4 octets := by
  induction octets with
  | nil => simp [displayIpv4]
  | cons octet octets ih =>
    cases octets with
    | nil => simpa [displayIpv4] using (octet_digits octet).2.2
    | cons next octets =>
      simp only [displayIpv4, List.map_cons, List.intercalate_cons_cons, List.mem_append] at ih ⊢
      simp [ih, (octet_digits octet).2.2]

theorem getTextIpValue_displayIpv4 (ip : BitVec 32) :
    getTextIpValue (displayIpv4 (toIp ip)) = .ret ip := by
  apply getTextIpValue_of_spelled
  have split : (displayIpv4 (toIp ip)).splitOn '.' = _ :=
    List.splitOn_intercalate '.' (by simp [octet_digits]) (by simp [toIp])
  have joined : ip.extractLsb' 24 8 ++ ip.extractLsb' 16 8 ++ ip.extractLsb' 8 8 ++
      ip.extractLsb' 0 8 = ip := by
    ext index bound
    simp
    grind
  rw [spelledIp, split]
  simp only [toIp, List.map_cons, List.map_nil, octet_digits, Option.bind_eq_bind, Option.bind_some]
  exact congrArg some joined

theorem readWhitelistedIp_toString (entry : WhitelistedIp) :
    readWhitelistedIp entry.toString = .ret entry := by
  cases entry with
  | singleIp ip =>
    rw [readWhitelistedIp, WhitelistedIp.toString, splitOn_of_not_mem (dash_notMem_displayIpv4 _)]
    simp [getTextIpValue_displayIpv4]
  | range ipFrom ipTo =>
    rw [readWhitelistedIp, WhitelistedIp.toString,
      List.splitOn_intercalate '-' (by simp [dash_notMem_displayIpv4]) (by simp)]
    simp [getTextIpValue_displayIpv4]

/-! ## What the reader takes -/

/-- Digits below 2^32, perhaps behind a plus sign. -/
def IsNumber (part : Str) : Prop :=
  ∃ digits, (part = digits ∨ part = '+' :: digits) ∧ digits ≠ [] ∧
    digits.all isAsciiDigit ∧ decimal digits < 2 ^ 32

/-- One to four numbers with dots between them. -/
def IsDotted (text : Str) : Prop :=
  (text.splitOn '.').length ≤ 4 ∧ ∀ part ∈ text.splitOn '.', IsNumber part

/-- What stands before the first dash and up to the second one is dotted. -/
def IsReadable (item : Str) : Prop := ∀ text ∈ (item.splitOn '-').take 2, IsDotted text

theorem exists_parseU32_iff (part : Str) :
    (∃ value, parseU32 part = some value) ↔ IsNumber part := by
  have small : 2 ^ 32 ≤ usizeSize := by decide
  have number : ∀ digits : Str, (∃ value, ((if digits ≠ [] ∧ digits.all isAsciiDigit ∧
        decimal digits < usizeSize then some (decimal digits) else none).filter
          (· < 2 ^ 32)) = some value) ↔
      digits ≠ [] ∧ digits.all isAsciiDigit ∧ decimal digits < 2 ^ 32 := by
    intro digits
    split
    case isTrue reads => simp [Option.filter_some, reads]
    case isFalse refused =>
      simp only [Option.filter_none, reduceCtorEq, exists_false, false_iff]
      exact fun ⟨nonempty, digits, fits⟩ => refused ⟨nonempty, digits, fits.trans_le small⟩
  unfold parseU32 parseUsize
  dsimp only
  rw [number]
  constructor
  · intro reads
    refine ⟨_, ?_, reads⟩
    split <;> simp
  · rintro ⟨digits, rfl | rfl, reads⟩
    · split
      case h_1 => simp [isAsciiDigit] at reads
      case h_2 => exact reads
    · exact reads

theorem readIpParts_returns_iff {index : Nat} {parts : List Str} (inside : index ≤ 4)
    (result : BitVec 32) :
    (∃ ip, readIpParts index result parts = .ret ip) ↔
      index + parts.length ≤ 4 ∧ ∀ part ∈ parts, IsNumber part := by
  induction parts generalizing index result with
  | nil => simp [readIpParts, inside]
  | cons part parts ih =>
    rw [readIpParts]
    by_cases room : index < 4
    · rw [if_pos room, List.forall_mem_cons, ← exists_parseU32_iff]
      cases parseU32 part with
      | none => simp
      | some value =>
        simp only [ih room, List.length_cons, Option.some.injEq, exists_eq', true_and,
          Nat.succ_add_eq_add_succ]
    · rw [if_neg room]
      simp only [reduceCtorEq, exists_false, false_iff, List.length_cons]
      omega

theorem readWhitelistedIp_returns_iff (item : Str) :
    (∃ entry, readWhitelistedIp item = .ret entry) ↔ IsReadable item := by
  have dotted : ∀ text, (∃ ip, getTextIpValue text = .ret ip) ↔ IsDotted text := fun text => by
    rw [getTextIpValue, readIpParts_returns_iff (by decide), Nat.zero_add, IsDotted]
  unfold readWhitelistedIp IsReadable
  split
  case h_1 empty => exact absurd empty (List.splitOn_ne_nil _ _)
  case h_2 left split =>
    simp [Outcome.bind_eq_ret_iff, split, ← dotted]
  case h_3 left right rest split =>
    simp [Outcome.bind_eq_ret_iff, split, ← dotted]

/-- The loop of `WhiteListedIpList::new` ends with one entry for each text, or
panics at the first one it can not read. -/
theorem readEntries_eq_ret {src : List Str} {read items : List WhitelistedIp}
    (returned : List.mapM.loop readWhitelistedIp src read = .ret items) :
    items.length = read.length + src.length ∧ ∀ item ∈ src, IsReadable item := by
  induction src generalizing read with
  | nil =>
    cases returned
    simp
  | cons item src ih =>
    obtain ⟨entry, first, rest⟩ := Outcome.bind_eq_ret_iff.mp returned
    have later := ih rest
    refine ⟨by simp [later.1]; omega, ?_⟩
    exact List.forall_mem_cons.mpr ⟨(readWhitelistedIp_returns_iff item).mp ⟨entry, first⟩, later.2⟩

theorem readEntries_returns {src : List Str} (readable : ∀ item ∈ src, IsReadable item)
    (read : List WhitelistedIp) :
    ∃ items, List.mapM.loop readWhitelistedIp src read = .ret items := by
  induction src generalizing read with
  | nil => exact ⟨_, rfl⟩
  | cons item src ih =>
    have ⟨first, others⟩ := List.forall_mem_cons.mp readable
    obtain ⟨entry, returned⟩ := (readWhitelistedIp_returns_iff item).mpr first
    obtain ⟨items, rest⟩ := ih others (entry :: read)
    exact ⟨items, Outcome.bind_eq_ret_iff.mpr ⟨entry, returned, rest⟩⟩

theorem newWhiteListedIpList_nil_iff (src : List Str) :
    (∀ items, newWhiteListedIpList src = .ret items → items = []) ↔
      src = [] ∨ ∃ item ∈ src, ¬ IsReadable item := by
  constructor
  · intro empty
    by_contra readable
    simp only [not_or, not_exists, not_and, not_not] at readable
    obtain ⟨items, returned⟩ := readEntries_returns readable.2 []
    have size := (readEntries_eq_ret returned).1
    rw [empty items returned] at size
    exact readable.1 (List.length_eq_zero_iff.mp (by simpa using size.symm))
  · rintro (rfl | ⟨item, member, unreadable⟩) items returned
    · cases returned
      rfl
    · exact absurd ((readEntries_eq_ret returned).2 item member) unreadable

/-! ## What a white list means -/

/-- What the texts of a white list are meant to say about an address. -/
structure WhiteListSemantics (src : List Str) (ip : IpAddr) : Prop where
  denotes : ∀ item ∈ src, ∀ entry, readWhitelistedIp item = .ret entry →
    spelledEntry item = some entry
  printed : ∀ item ∈ src, ∀ entry, readWhitelistedIp item = .ret entry →
    readWhitelistedIp entry.toString = .ret entry
  answers : ∀ items, newWhiteListedIpList src = .ret items →
    ∃ answer, isWhitelisted items ip = .ret answer ∧
      (answer = true ↔ items = [] ∨ ∃ address, ip = .v4 address ∧
        ∃ entry ∈ items, entry.lists address)

/-- A white list means what it spells exactly if every text of numbers is well
formed, and the client has an IPv4 address or there is no list of entries. -/
theorem whiteList_semantics_iff (src : List Str) (ip : IpAddr) :
    WhiteListSemantics src ip ↔
      (∀ item ∈ src, IsReadable item → (spelledEntry item).isSome) ∧
      ((∃ address, ip = .v4 address) ∨ src = [] ∨ ∃ item ∈ src, ¬ IsReadable item) := by
  rw [← newWhiteListedIpList_nil_iff]
  simp only [← readWhitelistedIp_returns_iff]
  constructor
  · intro semantics
    refine ⟨fun item member ⟨entry, read⟩ => ?_, ?_⟩
    · simp [semantics.denotes item member entry read]
    · cases ip with
      | v4 address => exact .inl ⟨address, rfl⟩
      | v6 address =>
        refine .inr fun items read => ?_
        obtain ⟨answer, answered, _⟩ := semantics.answers items read
        cases items with
        | nil => rfl
        | cons item items => cases item <;> contradiction
  · rintro ⟨wellFormed, client⟩
    refine ⟨fun item member entry read => ?_, fun _ _ entry _ => readWhitelistedIp_toString entry,
      fun items read => ?_⟩
    · obtain ⟨spelled, equal⟩ := Option.isSome_iff_exists.mp (wellFormed item member ⟨entry, read⟩)
      have same := (readWhitelistedIp_of_spelled equal).symm.trans read
      cases same
      exact equal
    · rcases client with ⟨address, rfl⟩ | empty
      · exact ⟨_, isWhitelisted_v4 items address, by simp⟩
      · cases empty items read
        exact ⟨true, rfl, by simp⟩

/-- One octet is taken for the whole address, an octet of 300 for 44, ends in
the wrong order for a range, and a client of version 6 panics. -/
theorem malformed_entries_accepted :
    (readWhitelistedIp "1".toList = .ret (.singleIp 16777216) ∧ spelledEntry "1".toList = none) ∧
      (readWhitelistedIp "300.0.0.1".toList = .ret (.singleIp 738197505) ∧
        spelledEntry "300.0.0.1".toList = none) ∧
      (readWhitelistedIp "1.0.0.2-1.0.0.1".toList = .ret (.range 16777218 16777217) ∧
        spelledEntry "1.0.0.2-1.0.0.1".toList = none) ∧
      isWhitelisted [.singleIp 16777217] (.v6 1) = .panic := by
  decide +kernel

end ReverseProxy
