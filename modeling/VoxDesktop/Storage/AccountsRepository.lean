import VoxDesktop.Qt.Text
import Mathlib.Data.Int.Notation
import Mathlib.Data.List.Basic

/-!
# The accounts table

`SqlAccountsRepository` over the rows of the table in the order of their
insertion.  Whether a statement executes is an argument.
-/

namespace VoxDesktop
namespace Storage

open Qt

structure Account where
  accountId : QString
  serverId : QString
  userId : QString
  username : QString
  activeDeviceId : QString
  refreshTokenCiphertext : QByteArray
  /-- Milliseconds since the epoch, as the table stores it. -/
  lastLogin : ℤ

namespace AccountsRepository

/-- `INSERT … ON CONFLICT(account_id) DO UPDATE`: the row keeps its place. -/
def upsertRow : (rows : List Account) → (account : Account) → List Account
  | [], account => [account]
  | row :: rows, account =>
      if row.accountId = account.accountId then account :: rows
      else row :: upsertRow rows account

def upsertAccount
    (rows : List Account) (account : Account) (executed : Bool) :
    Bool × List Account :=
  if executed then (true, upsertRow rows account) else (false, rows)

theorem upsertAccount_returns
    (rows : List Account) (account : Account) (executed : Bool) :
    (upsertAccount rows account executed).1 = executed := by
  cases executed <;> rfl

/-- The row that is written is there afterwards. -/
theorem mem_upsertRow (rows : List Account) (account : Account) :
    account ∈ upsertRow rows account := by
  induction rows with
  | nil => exact List.mem_cons_self
  | cons row rows inductionHypothesis =>
      rw [upsertRow]
      split
      · exact List.mem_cons_self
      · exact List.mem_cons_of_mem _ inductionHypothesis

/-- Nothing but the row that is written comes in. -/
theorem mem_of_mem_upsertRow
    {rows : List Account} {account row : Account}
    (member : row ∈ upsertRow rows account) :
    row = account ∨ row ∈ rows := by
  induction rows with
  | nil => exact Or.inl (List.mem_singleton.mp member)
  | cons first rows inductionHypothesis =>
      rw [upsertRow] at member
      split at member <;> rcases List.mem_cons.mp member with rfl | within
      · exact Or.inl rfl
      · exact Or.inr (List.mem_cons_of_mem _ within)
      · exact Or.inr List.mem_cons_self
      · exact (inductionHypothesis within).imp_right (List.mem_cons_of_mem _)

/-- Rows of other identifiers stay. -/
theorem mem_upsertRow_of_ne
    {rows : List Account} {account row : Account}
    (member : row ∈ rows) (other : row.accountId ≠ account.accountId) :
    row ∈ upsertRow rows account := by
  induction rows with
  | nil => contradiction
  | cons first rows inductionHypothesis =>
      rw [upsertRow]
      split <;> rcases List.mem_cons.mp member with rfl | within
      · contradiction
      · exact List.mem_cons_of_mem _ within
      · exact List.mem_cons_self
      · exact List.mem_cons_of_mem _ (inductionHypothesis within)

/-- `ORDER BY last_login_ms DESC LIMIT 1`; the sorter keeps equal rows in the
order of the table. -/
def latestRow : List Account → Option Account
  | [] => none
  | row :: rows =>
      match latestRow rows with
      | none => some row
      | some later =>
          if row.lastLogin < later.lastLogin then some later else some row

def activeAccount (rows : List Account) (executed : Bool) : Option Account :=
  if executed then latestRow rows else none

/-- `DELETE FROM accounts WHERE account_id = ?`. -/
def deleteRow (rows : List Account) (accountId : QString) : List Account :=
  rows.filter fun row => row.accountId ≠ accountId

def deleteAccount
    (rows : List Account) (accountId : QString) (executed : Bool) :
    Bool × List Account :=
  if accountId = [] then (false, rows)
  else if executed then (true, deleteRow rows accountId)
  else (false, rows)

theorem exists_latestRow
    {rows : List Account} {row : Account} (member : row ∈ rows) :
    ∃ latest, latestRow rows = some latest := by
  cases rows with
  | nil => contradiction
  | cons first rows =>
      rw [latestRow]
      split
      · exact ⟨_, rfl⟩
      · split <;> exact ⟨_, rfl⟩

/-- The active account is a row, and no row has a later login. -/
theorem latestRow_eq_some
    {rows : List Account} {latest : Account}
    (found : latestRow rows = some latest) :
    latest ∈ rows ∧ ∀ row ∈ rows, row.lastLogin ≤ latest.lastLogin := by
  induction rows generalizing latest with
  | nil => simp [latestRow] at found
  | cons first rows inductionHypothesis =>
      rw [latestRow] at found
      cases rest : latestRow rows with
      | none =>
          cases rows with
          | nil =>
              rw [rest] at found
              obtain rfl := Option.some.inj found
              simp
          | cons second rows =>
              rw [latestRow] at rest
              split at rest
              · contradiction
              · split at rest <;> contradiction
      | some later =>
          obtain ⟨member, greatest⟩ := inductionHypothesis rest
          rw [rest] at found
          dsimp only at found
          by_cases earlier : first.lastLogin < later.lastLogin
          · rw [if_pos earlier] at found
            obtain rfl := Option.some.inj found
            refine ⟨List.mem_cons_of_mem _ member, fun row within => ?_⟩
            rcases List.mem_cons.mp within with rfl | within
            · omega
            · exact greatest row within
          · rw [if_neg earlier] at found
            obtain rfl := Option.some.inj found
            refine ⟨List.mem_cons_self, fun row within => ?_⟩
            rcases List.mem_cons.mp within with rfl | within
            · exact Int.le_refl _
            · have bound := greatest row within
              omega

theorem activeAccount_mem
    {rows : List Account} {selected : Bool} {account : Account}
    (active : activeAccount rows selected = some account) :
    account ∈ rows := by
  rw [activeAccount] at active
  split at active
  · exact (latestRow_eq_some active).1
  · contradiction

/-! ## The account of a user -/

/-- Once a row of the user is written at a time, every row of another user has
an earlier login than this row or another row of the user. -/
def LoggedInLast
    (rows : List Account) (userId accountId : QString) (now : ℤ) : Prop :=
  ∀ row ∈ rows, row.userId ≠ userId →
    row.lastLogin < now ∨
      ∃ own ∈ rows, own.userId = userId ∧ own.accountId ≠ accountId ∧
        row.lastLogin < own.lastLogin

/-- The active account is then one of the user. -/
theorem LoggedInLast.activeAccount
    {rows : List Account} {account : Account}
    (last :
      LoggedInLast rows account.userId account.accountId account.lastLogin) :
    ∃ active, activeAccount (upsertRow rows account) true = some active ∧
      active.userId = account.userId := by
  obtain ⟨latest, found⟩ := exists_latestRow (mem_upsertRow rows account)
  obtain ⟨member, greatest⟩ := latestRow_eq_some found
  refine ⟨latest, found, ?_⟩
  by_contra other
  rcases mem_of_mem_upsertRow member with rfl | within
  · exact other rfl
  rcases last latest within other with
    earlier | ⟨own, listed, _, apart, earlier⟩
  · have bound := greatest account (mem_upsertRow rows account)
    omega
  · have bound := greatest own (mem_upsertRow_of_ne listed apart)
    omega

end AccountsRepository
end Storage
end VoxDesktop
