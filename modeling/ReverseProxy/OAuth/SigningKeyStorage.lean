import ReverseProxy.OAuth.OAuthServer
import ReverseProxy.Rust.Path

/-!
# Signing keys on disk

A block without a pinned key signs with one that is generated once and kept in
a file named after the block.  The disk is a map from paths to contents, and
what the operating system may refuse enters as faults.
-/

namespace ReverseProxy

/-- The disk: what a path holds, if anything. -/
abbrev Disk := Path → Option Bytes

structure SigningKeyFile where
  oauthSigningKey : Option Str := none
deriving DecidableEq, Repr

/-- `rust_extensions::file_utils::format_path`: a leading `~` is the home
folder. -/
class FileUtils where
  home : Str
  formatPath : Str → Str
  formatPath_home : ∀ rest, '~' ∉ rest → formatPath ('~' :: rest) = home ++ rest

export FileUtils (home formatPath)

/-- `serde_json` on `SigningKeyFile`. -/
class SigningKeyJson where
  toVecPretty : SigningKeyFile → Except Str Bytes
  fromKeyFile : Bytes → Except Str SigningKeyFile
  toVecPretty_ok : ∀ file, ∃ content, toVecPretty file = .ok content ∧
    content ≠ [] ∧ fromKeyFile content = .ok file

export SigningKeyJson (toVecPretty fromKeyFile)

/-- The errors of the operating system while one key file is read or
written. -/
structure KeyFileFaults where
  read : Option Str := none
  createDir : Option Str := none
  write : Option Str := none
  rename : Option Str := none
deriving DecidableEq, Repr

def signingKeyBytes : Nat := 64

def temporaryPath (path : Path) : Path :=
  let fileName := path.fileName ++ ".tmp".toList
  match path.parent with
  | some folder => folder ++ [.normal fileName]
  | none => [.normal fileName]

def isFileNameSymbol (symbol : Char) : Bool :=
  ('a' ≤ symbol && symbol ≤ 'z') || ('A' ≤ symbol && symbol ≤ 'Z') ||
    isAsciiDigit symbol || symbol == '-' || symbol == '_'

/-- Where a block keeps its key when the settings do not say. -/
def defaultSigningKeyFile (oauthId : Str) : Str :=
  let safeId := oauthId.map fun symbol =>
    if isFileNameSymbol symbol then symbol else '_'
  "~/.my-reverse-proxy-oauth/".toList ++ safeId ++ ".json".toList

namespace SigningKeyFile

section

variable [SigningKeyJson]

/-- A missing or empty file reads as one without a key. -/
def load (disk : Disk) (faults : KeyFileFaults) (path : Str) :
    Except Str SigningKeyFile :=
  match faults.read with
  | some err =>
    .error ("Can not read the oauth signing key file '".toList ++ path ++ "'. Err: ".toList ++ err)
  | none =>
    match disk (components path) with
    | none => .ok {}
    | some content =>
      if content = [] then .ok {}
      else
        match fromKeyFile content with
        | .ok file => .ok file
        | .error err =>
          .error ("The oauth signing key file '".toList ++ path ++
            "' is not valid JSON. Err: ".toList ++ err ++
            (". Fix or remove it — removing it regenerates the key, " ++
              "which forces every connector using this oauth block to be " ++
              "authorized again").toList)

/-- What reaches the disk when the content is written next to the file. -/
def writeTemporary (disk : Disk) (path : Path) (content : Bytes) : Disk :=
  Function.update disk (temporaryPath path) (some content)

/-- What reaches the disk when the new file replaces the old one. -/
def replaceFile (disk : Disk) (path : Path) : Disk :=
  Function.update (Function.update disk path (disk (temporaryPath path))) (temporaryPath path) none

/-- The new content is written to a temporary file that then replaces the old
one. -/
def save (file : SigningKeyFile) (disk : Disk) (faults : KeyFileFaults)
    (path : Str) : Disk × Except Str Unit :=
  let target := components path
  match target.parent, faults.createDir with
  | some folder, some err =>
    (disk, .error ("Can not create the oauth signing key folder '".toList ++
      folder.display ++ "'. Err: ".toList ++ err))
  | _, _ =>
    match toVecPretty file with
    | .error err =>
      (disk, .error (("Can not serialize the oauth signing key file. " ++ "Err: ").toList ++ err))
    | .ok content =>
      match faults.write with
      | some err =>
        (disk, .error (("Can not write the oauth signing key file " ++
          "'").toList ++ (temporaryPath target).display ++
          "'. Err: ".toList ++ err))
      | none =>
        let disk := writeTemporary disk target content
        match faults.rename with
        | some err =>
          (disk, .error (("Can not replace the oauth signing key file " ++
            "'").toList ++ path ++ "'. Err: ".toList ++ err))
        | none => (replaceFile disk target, .ok ())

variable [Base64]

def decodeKey (key : Str) : Except Str Bytes :=
  match base64UrlDecode key with
  | some bytes => .ok bytes
  | none =>
    .error ("Not a valid base64url value. Err: ".toList ++ base64DecodeError key)

/-- The key a file already holds. -/
def existingKey (disk : Disk) (faults : KeyFileFaults) (path : Str) :
    Except Str (Option Bytes) := do
  let existing ← load disk faults path
  match existing.oauthSigningKey with
  | none => return none
  | some key =>
    let key := trim key
    if key = [] then return none
    else
      match decodeKey key with
      | .ok bytes => return some bytes
      | .error err =>
        .error ("The oauth signing key in '".toList ++ path ++
          "' is not valid base64url. Err: ".toList ++ err)

/-- `random` is what the operating system gives for a new key. -/
def loadOrCreate (disk : Disk) (faults : KeyFileFaults) (random : Bytes)
    (path : Str) : Disk × Except Str Bytes :=
  match existingKey disk faults path with
  | .error err => (disk, .error err)
  | .ok (some key) => (disk, .ok key)
  | .ok none =>
    let generated := base64UrlEncode random
    match save { oauthSigningKey := some generated } disk faults path with
    | (disk, .error err) => (disk, .error err)
    | (disk, .ok _) => (disk, decodeKey generated)

end

end SigningKeyFile

/-! ## Loading a block -/

/-- The live blocks.  A block that was replaced may still serve the requests
that hold it, so it stays in the list behind the new one. -/
abbrev OAuthCredentialsList := List (Str × OAuthServer)

namespace OAuthCredentialsList

def addOrUpdate (credentials : OAuthCredentialsList) (key : Str)
    (item : OAuthServer) : OAuthCredentialsList :=
  (key, item) :: credentials

def isUpToDate (credentials : OAuthCredentialsList) (key : Str) (settings : OAuthSettings) : Bool :=
  match credentials.lookup key with
  | some context => context.settings = settings
  | none => false

end OAuthCredentialsList

/-- `validate` of the block: no empty credentials. -/
def validateOauthSettings (oauthId : Str) (settings : OAuthSettings) :
    Except Str Unit :=
  let empty := [("client_id", settings.clientId), ("client_secret", settings.clientSecret),
    ("consent_password", settings.consentPassword)].find? fun field =>
      trim field.2 = []
  match empty with
  | none => .ok ()
  | some (field, _) =>
    .error ("OAuth settings '".toList ++ oauthId ++ "' have an empty '".toList ++ field.toList ++
      ("'. Claude sends the client id and secret on every token request and " ++
        "an empty one would match any client").toList)

/-- The key the settings pin. -/
def pinnedKey (settings : OAuthSettings) : Option Bytes :=
  match settings.signingKey with
  | none => none
  | some signingKey =>
    if trim signingKey = [] then none else some (asBytes (trim signingKey))

section

variable [FileUtils]

def signingKeyPath (oauthId : Str) (settings : OAuthSettings) : Str :=
  formatPath (settings.signingKeyFile.getD (defaultSigningKeyFile oauthId))

variable [SigningKeyJson] [Base64]

def resolveSigningKey (disk : Disk) (faults : KeyFileFaults) (random : Bytes)
    (oauthId : Str) (settings : OAuthSettings) : Disk × Except Str Bytes :=
  match pinnedKey settings with
  | some key => (disk, .ok key)
  | none =>
    SigningKeyFile.loadOrCreate disk faults random (signingKeyPath oauthId settings)

/-- `get_oauth_credentials` for the block an endpoint refers to: an unchanged
block keeps its context. -/
def getOauthCredentials (disk : Disk) (credentials : OAuthCredentialsList)
    (faults : KeyFileFaults) (random : Bytes)
    (oauth : List (Str × OAuthSettings)) (oauthId : Option Str) :
    Disk × OAuthCredentialsList × Except Str (Option Str) :=
  match oauthId with
  | none => (disk, credentials, .ok none)
  | some oauthId =>
    match oauth.lookup oauthId with
    | none =>
      (disk, credentials, .error ("OAuth settings '".toList ++ oauthId ++
        "' are not found. Add an 'oauth:' block with that name".toList))
    | some settings =>
      match validateOauthSettings oauthId settings with
      | .error err => (disk, credentials, .error err)
      | .ok _ =>
        if credentials.isUpToDate oauthId settings then
          (disk, credentials, .ok (some oauthId))
        else
          match resolveSigningKey disk faults random oauthId settings with
          | (disk, .error err) => (disk, credentials, .error err)
          | (disk, .ok key) =>
            (disk, credentials.addOrUpdate oauthId (.new settings key), .ok (some oauthId))

end

end ReverseProxy
