import VoxDesktop.Crypto.HkdfSha256
import VoxDesktop.Services.Requests
import VoxDesktop.Services.VaultWrites

/-!
# The services of a process

`app/ServiceLocator` as far as the authentication service needs it.  A process
is initialized on what is under its data directory and in its settings, with
the base URL of a server and the password of the vault; what it writes is what
the next process finds.
-/

namespace VoxDesktop
namespace Application

open Library Qt Crypto Network Storage Services AuthService

/-- What processes leave to each other. -/
structure AppData where
  files : Files
  accounts : List Account
  /-- The setting `vox/device_id`. -/
  deviceId : QString

/-- What happens around one call of `initialize`. -/
structure InitializeOutcome where
  /-- The data directory exists or can be made. -/
  directory : Bool
  unlock : UnlockOutcome
  /-- The error of a database that does not open. -/
  databaseError : Option QString
  migrationError : Option QString
  fileStore : Bool
  /-- `QUuid::createUuid()`. -/
  uuid : QString
  seed : List.Vector UInt8 kChaCha20KeyBytes
  save : SaveOutcome

structure ServiceLocator where
  /-- What was there after `initialize`. -/
  m_data : AppData
  m_authService : Option AuthService

namespace ServiceLocator

/-- What the next process finds. -/
def data (locator : ServiceLocator) : AppData :=
  match locator.m_authService with
  | none => locator.m_data
  | some service =>
      { locator.m_data with
        files := service.files
        accounts := service.m_accountsRepository }

/-- `QDir::filePath`. -/
def filePath (directory fileName : QString) : QString :=
  if directory = [] ∨ directory.getLast? = some 0x2F then
    directory ++ fileName
  else directory ++ 0x2F :: fileName

def vaultPath (appDataPath : QString) : QString :=
  filePath appDataPath (QString.literal "vault.json")

def kSearchIndexKey : QString := QString.literal "search_index_key"

section Operations

variable (json : QJsonDocument) (sodium : Sodium)

/-- The vault after the search key is there; that the key is stored is not
checked. -/
def ensureSearchKey
    (state : VaultService × Files) (outcome : InitializeOutcome) :
    VaultService × Files :=
  match state.1.loadSecret kSearchIndexKey with
  | some _ => state
  | none =>
      let searchKey :=
        hkdfSha256 sodium (CryptoHelpers.randomBytes sodium outcome.seed)
          (QByteArray.literal "vox-search")
          (QByteArray.literal "vox/search-index-key") kChaCha20KeyBytes
      (VaultService.write json sodium state
        (.store kSearchIndexKey searchKey outcome.save)).2

/-- `initialize`: the error, if it fails, and the services. -/
def initializeServices
    (appDataPath serverBaseUrl vaultPassword : QString)
    (data : AppData) (outcome : InitializeOutcome) :
    Option QString × ServiceLocator :=
  if outcome.directory = false then
    (some (QString.literal "Failed to create app data directory"),
      ⟨data, none⟩)
  else
    let unlocked :=
      VaultService.unlockWithPassword json sodium
        (.onPath (vaultPath appDataPath)) data.files vaultPassword
        outcome.unlock
    let written := { data with files := unlocked.2.2 }
    if unlocked.1 = false then
      (some (QString.literal "Failed to unlock local vault"), ⟨written, none⟩)
    else
      match outcome.databaseError, outcome.migrationError with
      | some lastError, _ => (some lastError, ⟨written, none⟩)
      | none, some migrationError =>
          (some (QString.literal "Database migration failed: " ++
              migrationError), ⟨written, none⟩)
      | none, none =>
          if outcome.fileStore = false then
            (some (QString.literal "Failed to initialize file storage"),
              ⟨written, none⟩)
          else
            let deviceId :=
              if data.deviceId = [] then outcome.uuid else data.deviceId
            let vault := ensureSearchKey json sodium unlocked.2 outcome
            (none,
              { m_data := { written with deviceId := deviceId }
                m_authService := some
                  { AuthService.constructed ⟨serverBaseUrl, []⟩ vault
                      (QString.literal "default") deviceId with
                    m_accountsRepository := data.accounts } })

/-- A call of the authentication service. -/
def callAuth
    (sha256 : QByteArray → List.Vector UInt8 kSha256Bytes)
    (locator : ServiceLocator) (call : AuthCall) :
    AuthReport × ServiceLocator :=
  match locator.m_authService with
  | none => ({}, locator)
  | some service =>
      let result := service.step json sodium sha256 call
      (result.1, { locator with m_authService := some result.2 })

/-- The base URL that requests go to. -/
def baseUrl (locator : ServiceLocator) : Option QString :=
  locator.m_authService.map fun service => service.m_network.m_baseUrl

def context (locator : ServiceLocator) : Option AuthContext :=
  locator.m_authService.bind AuthService.m_context

end Operations

section Initialize

variable {json : QJsonDocument} {sodium : Sodium}
  {appDataPath serverBaseUrl vaultPassword : QString} {data : AppData}

/-- Initializing fails before or after the vault is unlocked, without
services, or makes services on the unlocked vault for the base URL. -/
theorem initializeServices_cases (outcome : InitializeOutcome) :
    let unlocked :=
      VaultService.unlockWithPassword json sodium
        (.onPath (vaultPath appDataPath)) data.files vaultPassword
        outcome.unlock
    let result :=
      initializeServices json sodium appDataPath serverBaseUrl vaultPassword
        data outcome
    (∃ error left,
      result = (some error, ⟨left, none⟩) ∧
        (left = data ∨ left = { data with files := unlocked.2.2 })) ∨
    unlocked.1 = true ∧
      ∃ service,
        result.1 = none ∧ result.2.m_authService = some service ∧
          service.m_network = ⟨serverBaseUrl, []⟩ ∧
          service.m_context = none ∧
          service.m_accountsRepository = data.accounts ∧
          service.vaultState =
            ensureSearchKey json sodium unlocked.2 outcome := by
  intro unlocked result
  unfold result initializeServices
  split
  · exact Or.inl ⟨_, _, rfl, Or.inl rfl⟩
  dsimp only
  split
  · exact Or.inl ⟨_, _, rfl, Or.inr rfl⟩
  rename_i opens
  split
  · exact Or.inl ⟨_, _, rfl, Or.inr rfl⟩
  · exact Or.inl ⟨_, _, rfl, Or.inr rfl⟩
  split
  · exact Or.inl ⟨_, _, rfl, Or.inr rfl⟩
  · exact Or.inr ⟨Bool.not_eq_false _ ▸ opens, _, rfl, rfl, rfl, rfl, rfl,
      rfl⟩

end Initialize

end ServiceLocator
end Application
end VoxDesktop
