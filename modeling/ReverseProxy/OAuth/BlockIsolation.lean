import Mathlib.Data.List.Forall2
import ReverseProxy.Library.Runs
import ReverseProxy.OAuth.HandleOauthRequest
import ReverseProxy.OAuth.SigningKeyStorage

/-!
# Blocks are told apart by their key files

A token does not name its block, so one block refuses the tokens of another
exactly if their signing keys differ.  Blocks that pin no key are isolated, over
every history of loads, if their key files have different names.
-/

namespace ReverseProxy

open Function Library List
open Base64 OAuthHttpResponse SigningKeyFile SigningKeyJson TokenSigner
open OAuthCredentialsList OAuthServer

/-! ## Names of key files -/

/-- A character that ends up as an underscore in a file name. -/
def Blurred (symbol : Char) : Prop := isFileNameSymbol symbol = false ∨ symbol = '_'

/-- Two ids that differ only in characters that become underscores. -/
def SameFileName (left right : Str) : Prop := List.Forall₂ (fun first second =>
    first = second ∨ Blurred first ∧ Blurred second) left right

/-- The part of the file name that comes from the id. -/
def safeId (oauthId : Str) : Str :=
  oauthId.map fun symbol => if isFileNameSymbol symbol then symbol else '_'

theorem safeId_eq_iff {left right : Str} :
    safeId left = safeId right ↔ SameFileName left right := by
  have symbols : ∀ first second : Char, ((if isFileNameSymbol first then first else '_') =
          if isFileNameSymbol second then second else '_') ↔
        first = second ∨ Blurred first ∧ Blurred second := by
    intro first second
    have underscore : isFileNameSymbol '_' = true := by decide
    grind [Blurred]
  unfold safeId SameFileName
  rw [← forall₂_eq_eq_eq, forall₂_map_left_iff, forall₂_map_right_iff]
  simp only [symbols]

theorem safeId_symbols {oauthId : Str} {symbol : Char}
    (member : symbol ∈ safeId oauthId) : isFileNameSymbol symbol = true := by
  obtain ⟨source, _, rfl⟩ := mem_map.mp member
  split
  · assumption
  · decide

/-- The file of a block in the folder of the keys. -/
def keyFileName (oauthId : Str) : Str := safeId oauthId ++ ".json".toList

theorem keyFileName_isName (oauthId : Str) : IsName (keyFileName oauthId) := by
  have last : (keyFileName oauthId).getLast? = some 'n' := by
    unfold keyFileName
    rw [getLast?_append_of_ne_nil _ (by decide)]
    rfl
  refine ⟨?_, ?_, ?_, ?_⟩
  · intro empty
    rw [empty] at last
    exact absurd last (by decide)
  · intro dot
    rw [dot] at last
    exact absurd last (by decide)
  · intro dots
    rw [dots] at last
    exact absurd last (by decide)
  · intro slash
    rcases mem_append.mp slash with inId | inEnding
    · exact absurd (safeId_symbols inId) (by decide)
    · exact absurd inEnding (by decide)

section

variable [FileUtils]

/-- The key file of a block that pins none. -/
def keyPath (oauthId : Str) : Path := components (formatPath (defaultSigningKeyFile oauthId))

def keyFolder : Path := components (home ++ "/.my-reverse-proxy-oauth".toList)

theorem keyPath_eq (oauthId : Str) :
    keyPath oauthId = keyFolder ++ [.normal (keyFileName oauthId)] := by
  have tilde : '~' ∉ "/.my-reverse-proxy-oauth".toList ++ '/' :: keyFileName oauthId := by
    intro member
    rcases mem_append.mp member with inFolder | inName
    · exact absurd inFolder (by decide)
    rcases mem_cons.mp inName with slash | inName
    · exact absurd slash (by decide)
    rcases mem_append.mp inName with inId | inEnding
    · exact absurd (safeId_symbols inId) (by decide)
    · exact absurd inEnding (by decide)
  have file : defaultSigningKeyFile oauthId =
      '~' :: ("/.my-reverse-proxy-oauth".toList ++ '/' :: keyFileName oauthId) := by
    unfold defaultSigningKeyFile keyFileName safeId
    simp
  have isName := keyFileName_isName oauthId
  unfold keyPath keyFolder
  rw [file, FileUtils.formatPath_home _ tilde, ← append_assoc,
    components_append _ (by simp), splitOn_of_not_mem isName.noSlash]
  simp [isName.component]

variable {right : Str}

variable {left : Str}

theorem keyPath_eq_iff : keyPath left = keyPath right ↔ SameFileName left right := by
  rw [keyPath_eq, keyPath_eq, ← safeId_eq_iff]
  simp [keyFileName]

omit [FileUtils] in
theorem temporaryPath_concat (folder : Path) (name : Str) :
    temporaryPath (folder ++ [.normal name]) = folder ++ [.normal (name ++ ".tmp".toList)] := by
  have deeper : ¬ (folder ++ [.normal name] = [] ∨ folder ++ [.normal name] = [.rootDir]) := by
    rintro (empty | root)
    · simp at empty
    · have last := congrArg getLast? root
      simp at last
  unfold temporaryPath Path.parent Path.fileName
  rw [if_neg deeper]
  simp

theorem temporaryPath_keyPath_eq_iff :
    temporaryPath (keyPath left) = temporaryPath (keyPath right) ↔
      keyPath left = keyPath right := by
  rw [keyPath_eq, keyPath_eq, temporaryPath_concat, temporaryPath_concat]
  simp

theorem keyPath_ne_temporaryPath (left right : Str) :
    keyPath left ≠ temporaryPath (keyPath right) := by
  rw [keyPath_eq, keyPath_eq, temporaryPath_concat]
  intro same
  have names := append_cancel_left same
  simp only [List.cons.injEq, Component.normal.injEq, and_true] at names
  have last := congrArg getLast? names
  unfold keyFileName at last
  rw [getLast?_append_of_ne_nil _ (by decide),
    getLast?_append_of_ne_nil _ (by decide)] at last
  exact absurd last (by decide)

/-! ## Stored keys -/

variable [SigningKeyJson] [Base64]

/-- The key in the content of a file. -/
def storedKey (file : Option Bytes) : Option Bytes := do
  let content ← file
  guard (content ≠ [])
  let stored ← (fromKeyFile content).toOption
  let key ← stored.oauthSigningKey
  guard (trim key ≠ [])
  base64UrlDecode (trim key)

variable {disk : Disk}

variable {path : Str}

omit [FileUtils] in
theorem existingKey_eq_ok {found : Option Bytes}
    (existing : existingKey disk {} path = .ok found) :
    storedKey (disk (components path)) = found := by
  unfold existingKey load at existing
  unfold storedKey
  cases held : disk (components path) with
  | none =>
    simp only [held] at existing
    cases existing
    rfl
  | some content =>
    simp only [held] at existing
    by_cases empty : content = []
    · rw [if_pos empty] at existing
      cases existing
      simp [empty, guard]
    rw [if_neg empty] at existing
    cases parsed : fromKeyFile content with
    | error err =>
      rw [parsed] at existing
      cases existing
    | ok file =>
      rw [parsed] at existing
      have decided := existing
      simp only [bind, Except.bind] at decided
      cases stored : file.oauthSigningKey with
      | none =>
        simp only [stored] at decided
        cases decided
        simp [guard, empty, parsed, Except.toOption, stored]
      | some key =>
        simp only [stored] at decided
        by_cases blank : trim key = []
        · rw [if_pos blank] at decided
          cases decided
          simp [guard, empty, parsed, Except.toOption, stored, blank]
        rw [if_neg blank] at decided
        unfold decodeKey at decided
        cases decoded : base64UrlDecode (trim key) with
        | none =>
          simp only [decoded] at decided
          cases decided
        | some bytes =>
          simp only [decoded] at decided
          cases decided
          simp [guard, empty, parsed, Except.toOption, stored, blank, decoded]

omit [FileUtils] [SigningKeyJson] in
theorem trim_base64UrlEncode (bytes : Bytes) :
    trim (base64UrlEncode bytes) = base64UrlEncode bytes := by
  have visible : ∀ symbol ∈ base64UrlEncode bytes, isWhitespace symbol = false := by
    intro symbol member
    apply And.right
    apply isTokenSymbol_ascii
    simp [isTokenSymbol, base64UrlEncode_alphabet bytes symbol member]
  exact trim_eq_self (fun symbol first => visible symbol (mem_of_head? first))
    (fun symbol last => visible symbol (mem_of_getLast? last))

variable {key content : Bytes}

omit [FileUtils] in
theorem storedKey_written {other : Bytes}
    (written : toVecPretty { oauthSigningKey := some (base64UrlEncode key) } =
      .ok content) (stored : storedKey (some content) = some other) :
    other = key := by
  obtain ⟨same, result, kept, read⟩ := toVecPretty_ok
    { oauthSigningKey := some (base64UrlEncode key) }
  rw [written, Except.ok.injEq] at result
  subst result
  unfold storedKey at stored
  simp only [read, trim_base64UrlEncode, base64UrlDecode_encode,
    Except.toOption, Option.bind_eq_bind, Option.bind_some,
    Option.bind_eq_some_iff, Option.some.injEq] at stored
  obtain ⟨_, _, _, _, same⟩ := stored
  exact same.symm

omit [FileUtils] in
theorem existingKey_written (nonempty : key ≠ [])
    (written : toVecPretty { oauthSigningKey := some (base64UrlEncode key) } =
      .ok content) (held : disk (components path) = some content) :
    existingKey disk {} path = .ok (some key) := by
  obtain ⟨same, result, kept, read⟩ := toVecPretty_ok
    { oauthSigningKey := some (base64UrlEncode key) }
  rw [written, Except.ok.injEq] at result
  subst result
  have full := base64UrlEncode_ne_nil key nonempty
  unfold existingKey load decodeKey
  simp only [held, kept, if_false, read, bind, Except.bind,
    trim_base64UrlEncode, full, base64UrlDecode_encode]
  rfl

omit [FileUtils] [Base64] in
theorem save_eq_ok {file : SigningKeyFile} (disk : Disk)
    (path : Str) (written : toVecPretty file = .ok content) :
    file.save disk {} path =
      (replaceFile (writeTemporary disk (components path) content)
        (components path), .ok ()) := by
  unfold save
  simp only [written]
  split
  · contradiction
  · rfl


/-! ## Histories of loads -/

/-- How far a load of a block has come. -/
inductive LoadStage where
  | checked
  | generated (key : Bytes)
  | written (key : Bytes)
  | resolved (key : Bytes)

def LoadStage.key? : LoadStage → Option Bytes
  | checked => none
  | generated key => some key
  | written key => some key
  | resolved key => some key

structure Load where
  oauthId : Str
  settings : OAuthSettings
  stage : LoadStage

/-- Loads run side by side and meet on the disk.  `owners` lists the keys that
were generated with the file each was made for, and `minted` the tokens with
the block they were minted under: nothing reads them. -/
structure OAuthHost where
  disk : Disk
  loading : Nat → Option Load := fun _ => none
  credentials : OAuthCredentialsList := []
  owners : List (Bytes × Path) := []
  minted : List (Str × Str) := []

inductive HostLabel where
  | began (oauthId : Str)
  | drew (key : Bytes)
  | went

variable [Sha256] [SerdeJson]

/-- One step of a load, of a request that mints a token, or a restart.  A
failed load may leave its temporary file behind. -/
inductive HostStep : OAuthHost → HostLabel → OAuthHost → Prop where
  | began {host : OAuthHost} {task : Nat} {oauthId : Str} {settings : OAuthSettings}
      (idle : host.loading task = none)
      (valid : validateOauthSettings oauthId settings = .ok ())
      (outdated : host.credentials.isUpToDate oauthId settings = false)
      (noKey : pinnedKey settings = none)
      (noFile : settings.signingKeyFile = none) :
      HostStep host (.began oauthId)
        { host with
          loading := update host.loading task
            (some { oauthId, settings, stage := .checked }) }
  | found {host : OAuthHost} {task : Nat} {load : Load} {key : Bytes}
      (running : host.loading task = some load)
      (stage : load.stage = .checked)
      (existing : existingKey host.disk {}
        (signingKeyPath load.oauthId load.settings) = .ok (some key)) :
      HostStep host .went
        { host with
          loading := update host.loading task (some { load with stage := .resolved key }) }
  | drew {host : OAuthHost} {task : Nat} {load : Load} {key : Bytes}
      (running : host.loading task = some load)
      (stage : load.stage = .checked)
      (absent : existingKey host.disk {}
        (signingKeyPath load.oauthId load.settings) = .ok none)
      (length : key.length = signingKeyBytes) :
      HostStep host (.drew key)
        { host with
          loading := update host.loading task (some { load with stage := .generated key })
          owners := (key, keyPath load.oauthId) :: host.owners }
  | wrote {host : OAuthHost} {task : Nat} {load : Load} {key content : Bytes}
      (running : host.loading task = some load)
      (stage : load.stage = .generated key)
      (written : toVecPretty { oauthSigningKey := some (base64UrlEncode key) } = .ok content) :
      HostStep host .went
        { host with
          disk := writeTemporary host.disk
            (components (signingKeyPath load.oauthId load.settings)) content
          loading := update host.loading task (some { load with stage := .written key }) }
  | renamed {host : OAuthHost} {task : Nat} {load : Load} {key : Bytes}
      (running : host.loading task = some load)
      (stage : load.stage = .written key)
      (present : (host.disk (temporaryPath (components
        (signingKeyPath load.oauthId load.settings)))).isSome) :
      HostStep host .went
        { host with
          disk := replaceFile host.disk
            (components (signingKeyPath load.oauthId load.settings))
          loading := update host.loading task (some { load with stage := .resolved key }) }
  | failed {host : OAuthHost} {task : Nat} {load : Load} {left : Option Bytes}
      (running : host.loading task = some load)
      (empty : left = none ∨ left = some [] ∨ left = host.disk (temporaryPath (components
          (signingKeyPath load.oauthId load.settings)))) :
      HostStep host .went
        { host with
          disk := update host.disk (temporaryPath (components
            (signingKeyPath load.oauthId load.settings))) left
          loading := update host.loading task none }
  | installed {host : OAuthHost} {task : Nat} {load : Load} {key : Bytes}
      (running : host.loading task = some load)
      (stage : load.stage = .resolved key) :
      HostStep host .went
        { host with
          loading := update host.loading task none
          credentials := host.credentials.addOrUpdate load.oauthId (.new load.settings key) }
  | minted {host : OAuthHost} {oauthId : Str} {server : OAuthServer}
      {now ttlSec : Int} {kind : TokenKind} {scope token : Str}
      {audience : Option Str} {signer : TokenSigner}
      (live : (oauthId, server) ∈ host.credentials)
      (signed : server.signer.mint now kind scope audience ttlSec = (signer, .ok token)) :
      HostStep host .went { host with minted := (oauthId, token) :: host.minted }
  | restarted {host : OAuthHost} :
      HostStep host .went { host with loading := fun _ => none, credentials := [] }

/-- Only blocks with these ids are loaded.  A generated key has not occurred
before, and no message has one tag under it and under an earlier key. -/
def IdealKeys (ids : Set Str) (host : OAuthHost) : HostLabel → Prop
  | .began oauthId => oauthId ∈ ids
  | .drew key => ∀ owner ∈ host.owners, key ≠ owner.1 ∧
      ∀ message, hmacSha256 key message ≠ hmacSha256 owner.1 message
  | .went => True

/-- A block accepts a token at its gate or in exchange for new ones. -/
def OAuthServer.Accepts (server : OAuthServer) (now : Int) (token : Str) :
    Prop :=
  (∃ request : BearerGateRequest, bearerToken request.authorization = .ret (some token) ∧
        server.checkBearer now request = .ret .allowed) ∨
    ∃ (clock : Nat → Int) (parameters : Parameters), clock 0 = now ∧
      parameters.text "refresh_token" = token ∧ (refresh server clock parameters).2.statusCode = 200

/-- Over every history of loads, from a disk without key files, no block
accepts a token that was minted under another. -/
def BlocksIsolated (ids : Set Str) : Prop := ∀ (disk : Disk) (last : OAuthHost),
    (∀ oauthId, disk (keyPath oauthId) = none ∧ disk (temporaryPath (keyPath oauthId)) = none) →
    Run HostStep (IdealKeys ids) { disk } last →
    ∀ (oauthId token other : Str) (server : OAuthServer) (now : Int),
      (oauthId, token) ∈ last.minted → (other, server) ∈ last.credentials →
      other ≠ oauthId → ¬ server.Accepts now token

variable {server : OAuthServer}

omit [FileUtils] [SigningKeyJson] in
theorem OAuthServer.Accepts.verified {now : Int} {token : Str}
    (accepts : server.Accepts now token) :
    ∃ kind verified, server.signer.verify now token kind = some verified := by
  rcases accepts with ⟨request, presented, allowed⟩ | ⟨clock, parameters, rfl, presented, answered⟩
  · obtain ⟨read, verified, sameToken, accepted, _⟩ := checkBearer_allowed_iff.mp allowed
    rw [presented, Outcome.ret.injEq, Option.some.injEq] at sameToken
    rw [← sameToken] at accepted
    exact ⟨.access, verified, accepted⟩
  unfold refresh at answered
  dsimp only at answered
  split at answered
  · simp [oauthErrorResponse, json] at answered
  rw [presented] at answered
  cases accepted : server.signer.verify (clock 0) token .refresh with
  | none =>
    rw [accepted] at answered
    simp [oauthErrorResponse, json] at answered
  | some verified => exact ⟨.refresh, verified, accepted⟩

/-! ## The invariant -/

/-- The key was generated for the file of this block. -/
def OAuthHost.Owns (host : OAuthHost) (oauthId : Str) (key : Bytes) : Prop :=
  (key, keyPath oauthId) ∈ host.owners

/-- Every key is used by the blocks of one file only. -/
structure OAuthHost.Separated (ids : Set Str) (host : OAuthHost) : Prop where
  apart : ∀ owner ∈ host.owners, ∀ other ∈ host.owners, ∀ message,
    hmacSha256 owner.1 message = hmacSha256 other.1 message → owner.2 = other.2
  disk : ∀ oauthId key,
    storedKey (host.disk (keyPath oauthId)) = some key ∨
        storedKey (host.disk (temporaryPath (keyPath oauthId))) = some key →
      host.Owns oauthId key
  loading : ∀ task load, host.loading task = some load →
    load.oauthId ∈ ids ∧ load.settings.signingKeyFile = none ∧
      ∀ key, load.stage.key? = some key → host.Owns load.oauthId key
  credentials : ∀ oauthId server, (oauthId, server) ∈ host.credentials →
    oauthId ∈ ids ∧ host.Owns oauthId server.signer.key
  minted : ∀ oauthId token, (oauthId, token) ∈ host.minted →
    oauthId ∈ ids ∧ ∃ key body, host.Owns oauthId key ∧ token = body ++ ['.'] ++
        base64UrlEncode (hmacSha256 key (asBytes body))

omit [SigningKeyJson] [Base64] [Sha256] [SerdeJson] in
theorem components_signingKeyPath {load : Load} (noFile : load.settings.signingKeyFile = none) :
    components (signingKeyPath load.oauthId load.settings) =
      keyPath load.oauthId := by
  rw [signingKeyPath, noFile]
  rfl

namespace OAuthHost.Separated

variable {ids : Set Str} {host : OAuthHost}

section

omit [SerdeJson]

variable {task : Nat}

section

variable (separated : host.Separated ids)

include separated

theorem advance {load : Load} {stage : LoadStage} (running : host.loading task = some load)
    (owned : ∀ key, stage.key? = some key → host.Owns load.oauthId key) :
    ∀ other found, update host.loading task (some { load with stage }) other = some found →
      found.oauthId ∈ ids ∧ found.settings.signingKeyFile = none ∧
        ∀ key, found.stage.key? = some key →
          host.Owns found.oauthId key := by
  obtain ⟨known, noFile, _⟩ := separated.loading task load running
  intro other found held
  by_cases same : other = task
  · rw [same, update_self, Option.some.injEq] at held
    rw [← held]
    exact ⟨known, noFile, owned⟩
  · rw [update_of_ne same] at held
    exact separated.loading other found held

theorem finish :
    ∀ other found, update host.loading task none other = some found →
      found.oauthId ∈ ids ∧ found.settings.signingKeyFile = none ∧
        ∀ key, found.stage.key? = some key →
          host.Owns found.oauthId key := by
  intro other found held
  by_cases same : other = task
  · rw [same, update_self] at held
    cases held
  · rw [update_of_ne same] at held
    exact separated.loading other found held

/-- Only keys of its own file come into a temporary file. -/
theorem temporary {oauthId : Str} {content : Option Bytes}
    (owned : ∀ key, storedKey content = some key → host.Owns oauthId key) :
    ∀ other key,
      storedKey (update host.disk
          (temporaryPath (keyPath oauthId)) content (keyPath other)) = some key ∨
        storedKey (update host.disk (temporaryPath (keyPath oauthId)) content
            (temporaryPath (keyPath other))) = some key →
      host.Owns other key := by
  intro other key held
  rw [update_of_ne (keyPath_ne_temporaryPath other oauthId)] at held
  rcases held with kept | temporary
  · exact separated.disk other key (Or.inl kept)
  by_cases same : temporaryPath (keyPath other) = temporaryPath (keyPath oauthId)
  · rw [same, update_self] at temporary
    unfold Owns
    rw [temporaryPath_keyPath_eq_iff.mp same]
    exact owned key temporary
  · rw [update_of_ne same] at temporary
    exact separated.disk other key (Or.inr temporary)

/-- The temporary file becomes the file it was written for. -/
theorem replace {oauthId : Str} :
    ∀ other key,
      storedKey (replaceFile host.disk (keyPath oauthId)
          (keyPath other)) = some key ∨
        storedKey (replaceFile host.disk (keyPath oauthId)
          (temporaryPath (keyPath other))) = some key →
      host.Owns other key := by
  intro other key held
  unfold replaceFile at held
  rw [update_of_ne (keyPath_ne_temporaryPath other oauthId)] at held
  rcases held with kept | temporary
  · by_cases same : keyPath other = keyPath oauthId
    · rw [same, update_self] at kept
      unfold Owns
      rw [same]
      exact separated.disk oauthId key (Or.inr kept)
    · rw [update_of_ne same] at kept
      exact separated.disk other key (Or.inl kept)
  · by_cases same : temporaryPath (keyPath other) = temporaryPath (keyPath oauthId)
    · rw [same, update_self] at temporary
      cases temporary
    · rw [update_of_ne same, update_of_ne
        (keyPath_ne_temporaryPath oauthId other).symm] at temporary
      exact separated.disk other key (Or.inr temporary)

theorem draw {load : Load} {key : Bytes} (running : host.loading task = some load)
    (ideal : IdealKeys ids host (.drew key)) :
    Separated ids
      { host with
        loading := update host.loading task (some { load with stage := .generated key })
        owners := (key, keyPath load.oauthId) :: host.owners } := by
  obtain ⟨known, noFile, _⟩ := separated.loading task load running
  have grown : ∀ {oauthId other}, host.Owns oauthId other →
      (other, keyPath oauthId) ∈ (key, keyPath load.oauthId) :: host.owners :=
    fun owned => mem_cons_of_mem _ owned
  refine ⟨?_, ?_, ?_, ?_, ?_⟩
  · intro owner member other otherMember message same
    rcases mem_cons.mp member with rfl | earlier
    · rcases mem_cons.mp otherMember with rfl | otherEarlier
      · rfl
      · exact absurd same ((ideal other otherEarlier).2 message)
    · rcases mem_cons.mp otherMember with rfl | otherEarlier
      · exact absurd same.symm ((ideal owner earlier).2 message)
      · exact separated.apart owner earlier other otherEarlier message same
  · intro oauthId other held
    exact grown (separated.disk oauthId other held)
  · intro other found held
    by_cases same : other = task
    · dsimp only at held
      rw [same, update_self, Option.some.injEq] at held
      rw [← held]
      refine ⟨known, noFile, ?_⟩
      intro drawn stage
      cases stage
      exact mem_cons_self
    · dsimp only at held
      rw [update_of_ne same] at held
      obtain ⟨otherKnown, otherNoFile, owned⟩ := separated.loading other found held
      exact ⟨otherKnown, otherNoFile, fun held stage =>
        grown (owned held stage)⟩
  · intro oauthId server member
    obtain ⟨serverKnown, owned⟩ := separated.credentials oauthId server member
    exact ⟨serverKnown, grown owned⟩
  · intro oauthId token member
    obtain ⟨tokenKnown, signing, body, owned, same⟩ := separated.minted oauthId token member
    exact ⟨tokenKnown, signing, body, grown owned, same⟩

end

end

theorem step {label : HostLabel} {next : OAuthHost}
    (separated : host.Separated ids) (ideal : IdealKeys ids host label)
    (stepped : HostStep host label next) : next.Separated ids := by
  cases stepped with
  | @began task oauthId settings idle valid outdated noKey noFile =>
    refine { separated with loading := ?_ }
    intro other found held
    by_cases same : other = task
    · dsimp only at held
      rw [same, update_self, Option.some.injEq] at held
      rw [← held]
      refine ⟨ideal, noFile, ?_⟩
      intro key none
      cases none
    · dsimp only at held
      rw [update_of_ne same] at held
      exact separated.loading other found held
  | @found task load key running stage existing =>
    obtain ⟨_, noFile, _⟩ := separated.loading task load running
    have stored := existingKey_eq_ok existing
    rw [components_signingKeyPath noFile] at stored
    refine { separated with loading := separated.advance running ?_ }
    intro other same
    cases same
    exact separated.disk load.oauthId key (Or.inl stored)
  | @drew task load key running stage absent length =>
    exact separated.draw running ideal
  | @wrote task load key content running stage written =>
    obtain ⟨_, noFile, owned⟩ := separated.loading task load running
    have mine : host.Owns load.oauthId key := owned key (by rw [stage]; rfl)
    refine { separated with
      disk := ?_, loading := separated.advance running ?_ }
    · dsimp only
      rw [components_signingKeyPath noFile]
      apply separated.temporary
      intro other stored
      rw [storedKey_written written stored]
      exact mine
    · intro other same
      cases same
      exact mine
  | @renamed task load key running stage present =>
    obtain ⟨_, noFile, owned⟩ := separated.loading task load running
    refine { separated with
      disk := ?_, loading := separated.advance running ?_ }
    · dsimp only
      rw [components_signingKeyPath noFile]
      exact separated.replace
    · intro other same
      cases same
      exact owned key (by rw [stage]; rfl)
  | @failed task load left running empty =>
    obtain ⟨_, noFile, _⟩ := separated.loading task load running
    refine { separated with loading := separated.finish, disk := ?_ }
    dsimp only
    rw [components_signingKeyPath noFile] at empty ⊢
    apply separated.temporary
    intro key stored
    rcases empty with rfl | rfl | rfl
    · cases stored
    · simp [storedKey, guard] at stored
    · exact separated.disk load.oauthId key (Or.inr stored)
  | @installed task load key running stage =>
    obtain ⟨known, _, owned⟩ := separated.loading task load running
    refine { separated with loading := separated.finish, credentials := ?_ }
    intro oauthId server member
    rcases mem_cons.mp member with same | earlier
    · cases same
      exact ⟨known, owned key (by rw [stage]; rfl)⟩
    · exact separated.credentials oauthId server earlier
  | @minted oauthId server now ttlSec kind scope token audience signer live signed =>
      obtain ⟨known, owned⟩ := separated.credentials oauthId server live
      refine { separated with minted := ?_ }
      intro other found member
      rcases mem_cons.mp member with same | earlier
      · cases same
        obtain ⟨bytes, _, result⟩ := server.signer.mint_eq_ok now kind scope audience ttlSec
        rw [signed] at result
        cases result
        exact ⟨known, server.signer.key, body bytes, owned, rfl⟩
      · exact separated.minted other found earlier
  | restarted =>
    refine { separated with loading := ?_, credentials := ?_ }
    · intro task load none
      cases none
    · intro oauthId server member
      cases member

end OAuthHost.Separated

/-! ## A load that is not interrupted -/

variable {random : Bytes}

omit [Sha256] [SerdeJson] in
theorem getOauthCredentials_eq {disk after : Disk}
    {credentials : OAuthCredentialsList} {faults : KeyFileFaults}
    {oauth : List (Str × OAuthSettings)} {oauthId : Str}
    {settings : OAuthSettings} (block : oauth.lookup oauthId = some settings)
    (valid : validateOauthSettings oauthId settings = .ok ())
    (outdated : credentials.isUpToDate oauthId settings = false)
    (noKey : pinnedKey settings = none)
    (resolved : loadOrCreate disk faults random
      (signingKeyPath oauthId settings) = (after, .ok key)) :
    getOauthCredentials disk credentials faults random oauth (some oauthId) =
      (after, credentials.addOrUpdate oauthId (.new settings key), .ok (some oauthId)) := by
  unfold getOauthCredentials
  simp only [block, valid, outdated, Bool.false_eq_true, if_false,
    resolveSigningKey, noKey, resolved]

omit [FileUtils] [Sha256] [SerdeJson] in
theorem loadOrCreate_new (absent : existingKey disk {} path = .ok none)
    (written : toVecPretty { oauthSigningKey := some (base64UrlEncode random) } = .ok content) :
    loadOrCreate disk {} random path =
      (replaceFile (writeTemporary disk
        (components path) content) (components path), .ok random) := by
  unfold loadOrCreate
  simp only [absent, save_eq_ok disk path written, decodeKey,
    base64UrlDecode_encode]

variable {ids : Set Str}

theorem run_went {first host next : OAuthHost} (run : Run HostStep (IdealKeys ids) first host)
    (stepped : HostStep host .went next) :
    Run HostStep (IdealKeys ids) first next :=
  run.step (show IdealKeys ids host .went from trivial) stepped

/-- A call that loads a block is a run of the machine. -/
theorem loaded_run {first host : OAuthHost} (task : Nat) {oauthId : Str} {settings : OAuthSettings}
    {oauth : List (Str × OAuthSettings)} {credentials : OAuthCredentialsList}
    (run : Run HostStep (IdealKeys ids) first host)
    (idle : host.loading task = none) (known : oauthId ∈ ids)
    (block : oauth.lookup oauthId = some settings)
    (noKey : pinnedKey settings = none)
    (noFile : settings.signingKeyFile = none)
    (outdated : host.credentials.isUpToDate oauthId settings = false)
    (fresh : existingKey host.disk {} (signingKeyPath oauthId settings) = .ok none →
        random.length = signingKeyBytes ∧ IdealKeys ids host (.drew random))
    (loaded : getOauthCredentials host.disk host.credentials {} random oauth
      (some oauthId) = (disk, credentials, .ok (some oauthId))) :
    ∃ owners, Run HostStep (IdealKeys ids) first { host with disk, credentials, owners } := by
  have restored : update host.loading task none = host.loading := by
    rw [← idle, update_eq_self]
  unfold getOauthCredentials at loaded
  simp only [block] at loaded
  cases valid : validateOauthSettings oauthId settings with
  | error err =>
    rw [valid] at loaded
    cases loaded
  | ok done =>
    simp only [valid, outdated, Bool.false_eq_true, if_false, resolveSigningKey, noKey] at loaded
    have begun := Run.step run (show IdealKeys ids host (.began oauthId) from known)
      (.began idle valid outdated noKey noFile)
    cases existing : existingKey host.disk {} (signingKeyPath oauthId settings) with
    | error err =>
      simp only [loadOrCreate, existing] at loaded
      cases loaded
    | ok key =>
      cases key with
      | some key =>
        simp only [loadOrCreate, existing] at loaded
        cases loaded
        have found := run_went begun (.found (update_self ..) rfl existing)
        have installed := run_went found (.installed (update_self ..) rfl)
        refine ⟨host.owners, ?_⟩
        simpa [restored] using installed
      | none =>
        obtain ⟨content, written, _⟩ := toVecPretty_ok
          { oauthSigningKey := some (base64UrlEncode random) }
        rw [loadOrCreate_new existing written] at loaded
        cases loaded
        obtain ⟨length, ideal⟩ := fresh existing
        have drawn := Run.step begun (show IdealKeys ids _ (.drew random) from ideal)
          (.drew (update_self ..) rfl existing length)
        have wrote := run_went drawn (.wrote (update_self ..) rfl written)
        have renamed := run_went wrote (.renamed (update_self ..) rfl
            (by simp [writeTemporary]))
        have installed := run_went renamed (.installed (update_self ..) rfl)
        refine ⟨(random, keyPath oauthId) :: host.owners, ?_⟩
        simpa [restored] using installed

/-! ## Isolation -/

omit [FileUtils] [SigningKeyJson] in
/-- A token with the tag of one key verifies under the keys with that tag
only. -/
theorem verify_other_key {body : Str} {now : Int} {kind : TokenKind} {verified : VerifiedToken}
    (accepted : server.signer.verify now (body ++ ['.'] ++
      base64UrlEncode (hmacSha256 key (asBytes body))) kind = some verified) :
    hmacSha256 server.signer.key (asBytes body) = hmacSha256 key (asBytes body) := by
  obtain ⟨found, _, _, _, _, ⟨signature, split, decoded⟩, _⟩ := verify_eq_some accepted
  have whole : rsplitOnce '.' (body ++ ['.'] ++ base64UrlEncode (hmacSha256 key (asBytes body))) =
        some (body, base64UrlEncode (hmacSha256 key (asBytes body))) :=
    rsplitOnce_eq_some_iff.mpr ⟨by simp, dot_not_mem_encode _⟩
  rw [whole] at split
  cases split
  rw [base64UrlDecode_encode] at decoded
  exact (Option.some.inj decoded).symm

theorem separated_of_run {last : OAuthHost} (clean : ∀ oauthId, disk (keyPath oauthId) = none ∧
      disk (temporaryPath (keyPath oauthId)) = none)
    (run : Run HostStep (IdealKeys ids) { disk } last) :
    last.Separated ids := by
  have initially : OAuthHost.Separated ids { disk } := by
    refine ⟨?_, ?_, ?_, ?_, ?_⟩
    · intro owner member
      cases member
    · intro oauthId key held
      dsimp only at held
      rw [(clean oauthId).1, (clean oauthId).2] at held
      rcases held with none | none
      · cases none
      · cases none
    · intro task load none
      cases none
    · intro oauthId server member
      cases member
    · intro oauthId token member
      cases member
  exact run.invariant initially fun separated => separated.step

theorem isolated_of_distinct (distinct : ∀ left ∈ ids, ∀ right ∈ ids, SameFileName left right →
      left = right) :
    BlocksIsolated ids := by
  intro disk last clean run oauthId token other server now minted live different accepts
  have separated := separated_of_run clean run
  obtain ⟨known, key, body, owned, rfl⟩ := separated.minted oauthId token minted
  obtain ⟨otherKnown, otherOwned⟩ := separated.credentials other server live
  obtain ⟨kind, verified, accepted⟩ := accepts.verified
  have samePath := separated.apart _ otherOwned _ owned _ (verify_other_key accepted)
  exact different (distinct other otherKnown oauthId known (keyPath_eq_iff.mp samePath))

private def plainBlock : OAuthSettings :=
  { clientId := ['c'], clientSecret := ['s'], consentPassword := ['p'] }

private def firstKey : Bytes := replicate 64 1

theorem exists_shared_key (known : left ∈ ids)
    (otherKnown : right ∈ ids) (different : left ≠ right)
    (sameFile : SameFileName left right) :
    ∃ host : OAuthHost, Run HostStep (IdealKeys ids) { disk := fun _ => none } host ∧
        (left, new plainBlock firstKey) ∈ host.credentials ∧
        (right, new plainBlock firstKey) ∈ host.credentials := by
  obtain ⟨content, written, _⟩ := toVecPretty_ok
    { oauthSigningKey := some (base64UrlEncode firstKey) }
  have valid : ∀ oauthId, validateOauthSettings oauthId plainBlock = .ok () := by
    intro oauthId
    rfl
  have block : [(left, plainBlock), (right, plainBlock)].lookup left =
      some plainBlock := by simp
  have notLeft : (right == left) = false := beq_false_of_ne different.symm
  have otherBlock : [(left, plainBlock), (right, plainBlock)].lookup right =
      some plainBlock := by
    simp [lookup_cons, notLeft]
  have absent : existingKey (fun _ => none) {}
      (signingKeyPath left plainBlock) = .ok none := rfl
  have first := getOauthCredentials_eq block (valid left)
    (show isUpToDate [] left plainBlock = false from rfl)
    rfl (loadOrCreate_new absent written)
  obtain ⟨owners, firstRun⟩ := loaded_run 0 (.start { disk := fun _ => none })
    rfl known block rfl rfl rfl (fun _ => ⟨by decide, by intro owner member; cases member⟩)
    first
  -- The other block finds the key in the file.
  have held : replaceFile (writeTemporary
      (fun _ => none) (keyPath left) content) (keyPath left) (keyPath right) = some content := by
    rw [keyPath_eq_iff.mpr sameFile]
    unfold replaceFile writeTemporary
    rw [update_of_ne (keyPath_ne_temporaryPath right right),
      update_self, update_self]
  have existing : existingKey _ {}
      (signingKeyPath right plainBlock) = .ok (some firstKey) :=
    existingKey_written (by decide) written held
  have outdated : isUpToDate
      [(left, new plainBlock firstKey)] right plainBlock =
        false := by
    simp [isUpToDate, lookup_cons, notLeft]
  have second := getOauthCredentials_eq otherBlock (valid right) outdated rfl
    (show loadOrCreate _ {} firstKey _ = (_, .ok firstKey) by
      rw [loadOrCreate, existing])
  obtain ⟨otherOwners, run⟩ := loaded_run 0 firstRun rfl otherKnown otherBlock rfl rfl outdated
    (fun none => absurd (existing.symm.trans none) (by simp)) second
  exact ⟨_, run, by simp [addOrUpdate],
    by simp [addOrUpdate]⟩

omit [FileUtils] [SigningKeyJson] in
/-- The gate of a block lets through a token that names no audience and was
signed with its key. -/
theorem accepts_minted {signer : TokenSigner} {token : Str}
    (minted : server.signer.mint 0 .access [] none 1 = (signer, .ok token)) :
    server.Accepts 0 token := by
  obtain ⟨bytes, _, result⟩ := server.signer.mint_eq_ok 0 .access [] none 1
  have presented : bearerToken (some ("Bearer ".toList ++ token)) = .ret (some token) := by
    rw [minted] at result
    cases result
    exact bearerToken_bearer (by simp) fun symbol member =>
      isTokenSymbol_token member
  have accepted : server.signer.verify 0 token .access = some { scope := [], audience := none } :=
    verify_mint rfl minted (by decide)
  refine Or.inl ⟨
    { authorization := some ("Bearer ".toList ++ token)
      baseUrl := []
      resourcePath := [] }, presented, ?_⟩
  apply checkBearer_allowed_iff.mpr
  refine ⟨token, _, presented, accepted, ?_⟩
  intro audience named
  cases named

theorem exists_accepted_elsewhere (known : left ∈ ids)
    (otherKnown : right ∈ ids) (different : left ≠ right)
    (sameFile : SameFileName left right) :
    ∃ (last : OAuthHost) (token : Str) (server : OAuthServer),
      Run HostStep (IdealKeys ids) { disk := fun _ => none } last ∧
        (left, token) ∈ last.minted ∧ (right, server) ∈ last.credentials ∧
        server.Accepts 0 token := by
  obtain ⟨host, run, minting, accepting⟩ := exists_shared_key known otherKnown different sameFile
  obtain ⟨bytes, _, minted⟩ := (new plainBlock
    firstKey).signer.mint_eq_ok 0 .access [] none 1
  exact ⟨_, _, _, run_went run (.minted minting minted),
    mem_cons_self, accepting, accepts_minted minted⟩

theorem distinct_of_isolated (isolated : BlocksIsolated ids) :
    ∀ left ∈ ids, ∀ right ∈ ids, SameFileName left right → left = right := by
  intro left known right otherKnown sameFile
  by_contra different
  obtain ⟨last, token, server, run, minted, live, accepts⟩ :=
    exists_accepted_elsewhere known otherKnown different sameFile
  exact isolated (fun _ => none) last (fun _ => ⟨rfl, rfl⟩) run left token
    right server 0 minted live (Ne.symm different) accepts

/-- Blocks that pin no key are isolated exactly if their key files have
different names. -/
theorem blocksIsolated_iff (ids : Set Str) :
    BlocksIsolated ids ↔ ∀ left ∈ ids, ∀ right ∈ ids, SameFileName left right → left = right :=
  ⟨distinct_of_isolated, isolated_of_distinct⟩

end

/-! ## Two ids that blur into one -/

section

/-- Home is the root folder. -/
@[reducible] private def rootHome : FileUtils :=
  { home := []
    formatPath := fun path =>
      match path with
      | '~' :: rest => rest
      | other => other
    formatPath_home := fun _ _ => rfl }

/-- The key, behind a mark whether there is one. -/
@[reducible] private def markedKey : SigningKeyJson :=
  { toVecPretty := fun file =>
      .ok (1 :: asBytes (file.oauthSigningKey.elim [] ('k' :: ·)))
    fromKeyFile := fun content =>
      match fromUtf8Lossy content.tail with
      | 'k' :: key => .ok { oauthSigningKey := some key }
      | _ => .ok {}
    toVecPretty_ok := by
      rintro ⟨_ | key⟩
      · exact ⟨_, rfl, by simp, rfl⟩
      · refine ⟨_, rfl, by simp, ?_⟩
        simp only [Option.elim, tail_cons, fromUtf8Lossy_asBytes] }

attribute [local instance] letters sumDigest plainSerde rootHome markedKey

/-- The token of `a.b` is accepted by `a_b`. -/
theorem dotted_id_shares_key :
    "a.b".toList ≠ "a_b".toList ∧ ∃ (last : OAuthHost) (token : Str) (server : OAuthServer),
        Run HostStep (IdealKeys { "a.b".toList, "a_b".toList }) { disk := fun _ => none } last ∧
          ("a.b".toList, token) ∈ last.minted ∧
          ("a_b".toList, server) ∈ last.credentials ∧
          server.Accepts 0 token := by
  have different : "a.b".toList ≠ "a_b".toList := by decide
  have sameFile : SameFileName "a.b".toList "a_b".toList := safeId_eq_iff.mp (by decide)
  exact ⟨different, exists_accepted_elsewhere (by simp) (by simp) different sameFile⟩

end

end ReverseProxy
