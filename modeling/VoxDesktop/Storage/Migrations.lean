import Mathlib.Data.Int.Notation
import VoxDesktop.Library.Machine
import VoxDesktop.Library.Transactional
import VoxDesktop.Qt.Text

/-!
# Migrations of the database

`storage/Migrations`: the version of the schema is kept in the table
`schema_migrations`, and the twelve tables of the program are created in one
transaction together with the update of the version.
-/

namespace VoxDesktop
namespace Storage

open Library Qt

/-! ## The schema -/

/-- A table and the definitions it was created with. -/
structure TableDefinition where
  name : String
  definitions : List String
  deriving DecidableEq

/-- The table `schema_migrations`, if it exists, with the version in its row,
if it has one, and the other tables. -/
structure Schema where
  schemaMigrations : Option (Option ℤ)
  tables : List TableDefinition
  deriving DecidableEq

namespace Schema

variable (schema : Schema)

/-- The version that is stored. -/
def version : Option ℤ :=
  schema.schemaMigrations.join

def hasTable (name : String) : Prop :=
  ∃ table ∈ schema.tables, table.name = name

instance (name : String) : Decidable (schema.hasTable name) :=
  inferInstanceAs (Decidable (∃ table ∈ schema.tables, table.name = name))

end Schema

/-- The statements of a migration that write. -/
inductive Statement
  /-- `CREATE TABLE IF NOT EXISTS schema_migrations (…)`. -/
  | createSchemaMigrations
  /-- `INSERT OR IGNORE INTO schema_migrations(id, version) VALUES(1, 0)`. -/
  | insertVersion
  /-- `CREATE TABLE IF NOT EXISTS …`. -/
  | createTable (table : TableDefinition)
  /-- `UPDATE schema_migrations SET version = … WHERE id = 1`. -/
  | updateVersion (version : ℤ)

/-- What a statement makes of a schema; nothing where a table is missing. -/
def Statement.apply : Statement → Schema → Option Schema
  | .createSchemaMigrations, schema =>
      some
        { schema with
          schemaMigrations := some (schema.schemaMigrations.getD none) }
  | .insertVersion, schema =>
      schema.schemaMigrations.map fun row =>
        { schema with schemaMigrations := some (some (row.getD 0)) }
  | .createTable table, schema =>
      some <|
        if schema.hasTable table.name then schema
        else { schema with tables := schema.tables ++ [table] }
  | .updateVersion version, schema =>
      schema.schemaMigrations.map fun row =>
        { schema with schemaMigrations := some (row.map fun _ => version) }

namespace Migrations

def currentVersion : ℤ := 1

/-- The tables of the program. -/
def createdTables : List TableDefinition :=
  [⟨"servers",
      ["server_id TEXT PRIMARY KEY",
        "base_url TEXT NOT NULL",
        "display_name TEXT NOT NULL",
        "tls_mode TEXT NOT NULL",
        "pinned_cert_sha256 TEXT",
        "created_at_ms INTEGER NOT NULL"]⟩,
    ⟨"accounts",
      ["account_id TEXT PRIMARY KEY",
        "server_id TEXT NOT NULL",
        "user_id TEXT NOT NULL",
        "username TEXT NOT NULL",
        "active_device_id TEXT NOT NULL",
        "refresh_token_ciphertext BLOB NOT NULL",
        "last_login_ms INTEGER NOT NULL"]⟩,
    ⟨"devices",
      ["device_id TEXT PRIMARY KEY",
        "user_id TEXT NOT NULL",
        "server_id TEXT NOT NULL",
        "label TEXT NOT NULL",
        "identity_sign_pub BLOB",
        "identity_dh_pub BLOB",
        "signed_prekey_pub BLOB",
        "signed_prekey_id INTEGER",
        "signed_prekey_sig BLOB",
        "last_seen_ms INTEGER NOT NULL",
        "trust_state TEXT NOT NULL"]⟩,
    ⟨"conversations",
      ["conversation_id TEXT PRIMARY KEY",
        "server_id TEXT NOT NULL",
        "type TEXT NOT NULL",
        "title_ciphertext BLOB",
        "last_message_at_ms INTEGER NOT NULL",
        "last_sort_key INTEGER NOT NULL",
        "mute_state INTEGER NOT NULL",
        "pin_rank INTEGER NOT NULL",
        "draft_ciphertext BLOB",
        "epoch INTEGER NOT NULL"]⟩,
    ⟨"messages",
      ["message_id TEXT PRIMARY KEY",
        "conversation_id TEXT NOT NULL",
        "sender_user_id TEXT NOT NULL",
        "sender_device_id TEXT NOT NULL",
        "server_seq INTEGER NOT NULL",
        "client_created_at_ms INTEGER NOT NULL",
        "server_received_at_ms INTEGER NOT NULL",
        "content_kind TEXT NOT NULL",
        "ciphertext_blob BLOB NOT NULL",
        "plaintext_cache_ciphertext BLOB",
        "delivery_state TEXT NOT NULL",
        "read_state TEXT NOT NULL",
        "is_outgoing INTEGER NOT NULL",
        "reply_to_message_id TEXT",
        "sender_key_epoch INTEGER NOT NULL"]⟩,
    ⟨"attachments",
      ["attachment_id TEXT PRIMARY KEY",
        "message_id TEXT NOT NULL",
        "ciphertext_path TEXT NOT NULL",
        "mime_type_ciphertext BLOB",
        "file_name_ciphertext BLOB",
        "plaintext_size INTEGER NOT NULL",
        "ciphertext_size INTEGER NOT NULL",
        "sha256_ciphertext BLOB",
        "download_state TEXT NOT NULL"]⟩,
    ⟨"sessions",
      ["peer_device_id TEXT PRIMARY KEY",
        "session_version INTEGER NOT NULL",
        "state_blob_ciphertext BLOB NOT NULL",
        "updated_at_ms INTEGER NOT NULL"]⟩,
    ⟨"sender_keys",
      ["conversation_id TEXT NOT NULL",
        "owner_device_id TEXT NOT NULL",
        "epoch INTEGER NOT NULL",
        "state_blob_ciphertext BLOB NOT NULL",
        "updated_at_ms INTEGER NOT NULL",
        "PRIMARY KEY (conversation_id, owner_device_id, epoch)"]⟩,
    ⟨"sync_records",
      ["collection TEXT NOT NULL",
        "record_id TEXT NOT NULL",
        "version INTEGER NOT NULL",
        "ciphertext BLOB NOT NULL",
        "updated_at_ms INTEGER NOT NULL",
        "tombstone INTEGER NOT NULL DEFAULT 0",
        "PRIMARY KEY (collection, record_id)"]⟩,
    ⟨"trusted_devices",
      ["device_id TEXT PRIMARY KEY",
        "fingerprint TEXT NOT NULL",
        "trust_level TEXT NOT NULL",
        "verified_at_ms INTEGER NOT NULL",
        "note_ciphertext BLOB"]⟩,
    ⟨"search_tokens",
      ["conversation_id TEXT NOT NULL",
        "message_id TEXT NOT NULL",
        "token_digest BLOB NOT NULL",
        "position_hint INTEGER NOT NULL"]⟩,
    ⟨"jobs",
      ["job_id INTEGER PRIMARY KEY AUTOINCREMENT",
        "type TEXT NOT NULL",
        "payload_ciphertext BLOB NOT NULL",
        "state TEXT NOT NULL",
        "attempt_count INTEGER NOT NULL DEFAULT 0",
        "next_attempt_ms INTEGER NOT NULL"]⟩]

/-- The statements of the transaction. -/
def statements : List Statement :=
  createdTables.map .createTable ++ [.updateVersion 1]

/-! ## The run -/

/-- One call of `run`: what `error` points to, which statements execute,
whether the transaction begins and commits, and the text of the last error. -/
structure RunCall where
  error : Option QString
  created : Bool
  inserted : Bool
  selected : Bool
  begins : Bool
  executed : ℕ → Bool
  commits : Bool
  lastError : QString

structure RunReturn where
  returned : Bool
  error : Option QString
  deriving DecidableEq

/-- `run`.  A commit that fails is neither rolled back nor reported in
`error`. -/
def run (connection : Transactional Schema) (call : RunCall) :
    RunReturn × Transactional Schema :=
  let failed : RunReturn :=
    ⟨false, call.error.map fun _ => call.lastError⟩
  match
    connection.execute (Statement.apply .createSchemaMigrations)
      call.created with
  | none => (failed, connection)
  | some connection =>
  match
    connection.execute (Statement.apply .insertVersion) call.inserted with
  | none => (failed, connection)
  | some connection =>
  if call.selected = false then (failed, connection)
  else
  match connection.contents.version with
  | none => (⟨false, call.error⟩, connection)
  | some version =>
  if currentVersion ≤ version then (⟨true, call.error⟩, connection)
  else
  match connection.begin call.begins with
  | none => (failed, connection)
  | some connection =>
  let loop :=
    Transactional.executeAll call.executed 0
      (statements.map Statement.apply) connection
  if loop.1 = false then (failed, loop.2.rollback)
  else
  match loop.2.commit call.commits with
  | none => (⟨false, call.error⟩, loop.2)
  | some connection => (⟨true, call.error⟩, connection)

end Migrations
end Storage
end VoxDesktop
