import VoxDesktop.Integration.FakeVoxServer

/-!
# The accounts of the server

Whatever requests arrive in whatever order, an account keeps its name and its
user, no two accounts share either, and a token names one user for ever: the
text of a token determines its user, because it contains the number of the
user up to an underscore.
-/

namespace VoxDesktop
namespace Integration

open Qt Network

namespace FakeVoxServer

/-! ## What a request does to the accounts -/

/-- The tables of accounts and tokens are the same. -/
structure SameAccounts (before after : FakeVoxServer) : Prop where
  userSeq : after.m_userSeq = before.m_userSeq
  users : after.m_usersByUsername = before.m_usersByUsername
  access : after.m_userByAccessToken = before.m_userByAccessToken
  refresh : after.m_userByRefreshToken = before.m_userByRefreshToken

theorem SameAccounts.refl (server : FakeVoxServer) :
    SameAccounts server server :=
  ⟨rfl, rfl, rfl, rfl⟩

/-- An answer of failure that leaves the server as it is. -/
def IsRefusal
    (json : QJsonDocument) (server : FakeVoxServer)
    (handled : NetworkResponse × FakeVoxServer) : Prop :=
  ∃ status code message, 400 ≤ status ∧
    handled = (errorResponse json status code message, server)

section Tables

variable (server : FakeVoxServer)

/-- The server after an account is registered. -/
def afterRegistration (account : AccountState) : FakeVoxServer :=
  { server.withSession account with m_userSeq := server.m_userSeq + 1 }

/-- The server after a login under a name. -/
def afterLogin (username : QString) (account : AccountState) :
    FakeVoxServer :=
  { server.withSession account with
    m_usersByUsername := server.m_usersByUsername.insert username account }

/-- The server after a user has got fresh tokens. -/
def afterRefresh (userId : QString) : FakeVoxServer :=
  { server with
    m_userByAccessToken :=
      server.m_userByAccessToken.insert (refreshedAccess userId) userId
    m_userByRefreshToken :=
      server.m_userByRefreshToken.insert (refreshedRefresh userId) userId }

end Tables

def refreshedResponse (json : QJsonDocument) (userId : QString) :
    NetworkResponse :=
  okResponse json
    [stringMember "access_token" (refreshedAccess userId),
      stringMember "refresh_token" (refreshedRefresh userId)]

/-- What becomes of the accounts when a request is handled. -/
inductive AccountsHandled
    (json : QJsonDocument) (server : FakeVoxServer) :
    NetworkResponse → FakeVoxServer → Prop
  | unchanged {response : NetworkResponse} {after : FakeVoxServer}
      (same : SameAccounts server after) :
      AccountsHandled json server response after
  | registered {username password deviceId : QString}
      (nonempty : username ≠ [] ∧ password ≠ [] ∧ deviceId ≠ [])
      (free : server.m_usersByUsername.lookup username = none) :
      AccountsHandled json server
        (sessionResponse json (server.newAccount username password deviceId)
          "created")
        (server.afterRegistration
          (server.newAccount username password deviceId))
  | loggedIn {username deviceId : QString} {found : AccountState}
      {moment : Moment}
      (there : server.m_usersByUsername.lookup username = some found) :
      AccountsHandled json server
        (sessionResponse json (loggedIn moment found deviceId) "existing")
        (server.afterLogin username (loggedIn moment found deviceId))
  | refreshed {token userId : QString}
      (known : server.m_userByRefreshToken.lookup token = some userId) :
      AccountsHandled json server (refreshedResponse json userId)
        (server.afterRefresh userId)

/-- What becomes of the tables on a route with a session. -/
def SessionEffect
    (json : QJsonDocument) (server : FakeVoxServer) (userId : QString)
    (request : ServerRequest) (moment : Moment) (route : QString)
    (handled : NetworkResponse × FakeVoxServer) : Prop :=
  handled.2 = server ∨
    handled.2 = (server.handleSend json userId request moment).2 ∨
    handled.2 = (server.handleUploadInit json).2 ∨
    handled.2 = (server.handleChunk json request route).2

section Cases

variable {json : QJsonDocument} {server : FakeVoxServer}
  {request : ServerRequest} {moment : Moment}

/-- A registration is refused, or its name is free and gets a new account. -/
theorem handleRegister_cases :
    IsRefusal json server (server.handleRegister json request) ∨
      ∃ object,
        let username := stringField object "username"
        let password := stringField object "password_derived_value"
        let deviceId := stringField object "device_id"
        let account := server.newAccount username password deviceId
        parseJson json request.body = some object ∧
          (username ≠ [] ∧ password ≠ [] ∧ deviceId ≠ []) ∧
          server.m_usersByUsername.lookup username = none ∧
          server.handleRegister json request =
            (sessionResponse json account "created",
              server.afterRegistration account) := by
  unfold handleRegister
  split
  · exact Or.inl ⟨_, _, _, by decide, rfl⟩
  rename_i object parsed
  dsimp only
  split
  · exact Or.inl ⟨_, _, _, by decide, rfl⟩
  rename_i nonempty
  simp only [not_or] at nonempty
  split
  · exact Or.inl ⟨_, _, _, by decide, rfl⟩
  · rename_i free
    exact Or.inr ⟨object, parsed, nonempty, free, rfl⟩

/-- A login is refused, or its name has an account with this password. -/
theorem handleLogin_cases :
    IsRefusal json server (server.handleLogin json request moment) ∨
      ∃ object found,
        let username := stringField object "username"
        let account :=
          loggedIn moment found (stringField object "device_id")
        parseJson json request.body = some object ∧
          server.m_usersByUsername.lookup username = some found ∧
          found.passwordDerived =
            stringField object "password_derived_value" ∧
          server.handleLogin json request moment =
            (sessionResponse json account "existing",
              server.afterLogin username account) := by
  unfold handleLogin
  split
  · exact Or.inl ⟨_, _, _, by decide, rfl⟩
  rename_i object parsed
  dsimp only
  split
  · exact Or.inl ⟨_, _, _, by decide, rfl⟩
  rename_i found there
  split
  · exact Or.inl ⟨_, _, _, by decide, rfl⟩
  · rename_i samePassword
    exact Or.inr
      ⟨object, found, parsed, there, not_not.mp samePassword, rfl⟩

/-- A refresh is refused, or its token names a user. -/
theorem handleRefresh_cases :
    IsRefusal json server (server.handleRefresh json request) ∨
      ∃ object userId,
        parseJson json request.body = some object ∧
          server.m_userByRefreshToken.lookup
              (stringField object "refresh_token") = some userId ∧
          server.handleRefresh json request =
            (refreshedResponse json userId, server.afterRefresh userId) := by
  unfold handleRefresh
  split
  · exact Or.inl ⟨_, _, _, by decide, rfl⟩
  rename_i object parsed
  split
  · exact Or.inl ⟨_, _, _, by decide, rfl⟩
  · rename_i userId known
    exact Or.inr ⟨object, userId, parsed, known, rfl⟩

theorem IsRefusal.accounts
    {handled : NetworkResponse × FakeVoxServer}
    (refusal : IsRefusal json server handled) :
    AccountsHandled json server handled.1 handled.2 := by
  obtain ⟨_, _, _, _, rfl⟩ := refusal
  exact .unchanged (.refl server)

theorem handleRegister_accounts :
    AccountsHandled json server (server.handleRegister json request).1
      (server.handleRegister json request).2 := by
  rcases @handleRegister_cases json server request with
    refusal | ⟨object, _, nonempty, free, result⟩
  · exact refusal.accounts
  · rw [result]
    exact .registered nonempty free

theorem handleLogin_accounts :
    AccountsHandled json server (server.handleLogin json request moment).1
      (server.handleLogin json request moment).2 := by
  rcases @handleLogin_cases json server request moment with
    refusal | ⟨object, found, _, there, _, result⟩
  · exact refusal.accounts
  · rw [result]
    exact .loggedIn there

theorem handleRefresh_accounts :
    AccountsHandled json server (server.handleRefresh json request).1
      (server.handleRefresh json request).2 := by
  rcases @handleRefresh_cases json server request with
    refusal | ⟨object, userId, _, known, result⟩
  · exact refusal.accounts
  · rw [result]
    exact .refreshed known

/-- With a session, one of three routes changes the tables, if any. -/
theorem handleSession_state (userId route : QString) :
    SessionEffect json server userId request moment route
      (server.handleSession json userId request moment route) := by
  have answers : ∀ response, SessionEffect json server userId request moment
      route (response, server) := fun _ => Or.inl rfl
  have sends : SessionEffect json server userId request moment route
      (server.handleSend json userId request moment) := Or.inr (Or.inl rfl)
  have initializes : SessionEffect json server userId request moment route
      (server.handleUploadInit json) := Or.inr (Or.inr (Or.inl rfl))
  have writes : SessionEffect json server userId request moment route
      (server.handleChunk json request route) :=
    Or.inr (Or.inr (Or.inr rfl))
  unfold handleSession
  refine iteInduction (fun _ => answers _) fun _ => ?_
  refine iteInduction (fun _ => sends) fun _ => ?_
  refine iteInduction (fun _ => answers _) fun _ => ?_
  refine iteInduction (fun _ => answers _) fun _ => ?_
  refine iteInduction (fun _ => initializes) fun _ => ?_
  refine iteInduction (fun _ => writes) fun _ => ?_
  iterate 9 refine iteInduction (fun _ => answers _) fun _ => ?_
  exact answers _

/-- None of them touches the accounts. -/
theorem handleSession_accounts (userId route : QString) :
    SameAccounts server
      (server.handleSession json userId request moment route).2 := by
  rcases @handleSession_state json server request moment userId route with
    same | same | same | same
  · rw [same]
    exact .refl server
  · rw [same, handleSend]
    split
    · exact ⟨rfl, rfl, rfl, rfl⟩
    · split <;> exact ⟨rfl, rfl, rfl, rfl⟩
  · rw [same]
    exact ⟨rfl, rfl, rfl, rfl⟩
  · rw [same, handleChunk]
    split <;> exact ⟨rfl, rfl, rfl, rfl⟩

theorem handle_accounts :
    AccountsHandled json server (server.handle json request moment).1
      (server.handle json request moment).2 := by
  unfold handle
  dsimp only
  split
  · exact .unchanged (.refl server)
  split
  · exact handleRegister_accounts
  split
  · exact handleLogin_accounts
  split
  · exact handleRefresh_accounts
  split
  · exact .unchanged (.refl server)
  split
  · exact .unchanged (.refl server)
  split
  · exact .unchanged (.refl server)
  split
  · exact .unchanged (.refl server)
  · exact .unchanged (handleSession_accounts _ _)

end Cases

/-! ## Whom a token was issued to -/

def userIdOf (number : ℕ) : QString :=
  QString.literal "usr_" ++ QString.number number

/-- The token names the user between its kind and an underscore or its
end. -/
def IssuedTo (kind token userId : QString) : Prop :=
  ∃ ending, token = kind ++ userId ++ ending ∧
    (ending = [] ∨ ending.head? = some 0x5F)

/-- A decimal form has no underscore. -/
theorem underscore_notMem_number (number : ℕ) :
    (0x5F : UInt16) ∉ QString.number number := by
  intro member
  obtain ⟨octet, within, same⟩ := List.mem_map.mp member
  rw [number_natCast] at within
  obtain ⟨digit, digitMember, rfl⟩ := List.mem_map.mp within
  have isDigit :=
    Nat.isDigit_of_mem_toDigits (by decide) (by decide) digitMember
  simp only [Char.isDigit, Bool.and_eq_true, decide_eq_true_eq] at isDigit
  have upper : digit.toNat ≤ 57 := UInt32.le_iff_toNat_le.mp isDigit.2
  have value := congrArg UInt16.toNat same
  rw [UInt8.toNat_toUInt16, UInt8.toNat_ofNat', Nat.mod_eq_of_lt (by omega)]
    at value
  have small : digit.toNat = 0x5F := value
  omega

theorem qstringNumber_injective :
    Function.Injective fun value : ℕ => QString.number value := by
  intro first second same
  apply number_natCast_injective
  exact List.map_injective_iff.mpr (fun _ _ => by
    intro equal
    rw [← UInt8.toNat_inj]
    have value := congrArg UInt16.toNat equal
    rwa [UInt8.toNat_toUInt16, UInt8.toNat_toUInt16] at value) same

theorem userIdOf_injective : Function.Injective userIdOf := by
  intro first second same
  exact qstringNumber_injective (List.append_cancel_left same)

/-- A token has one user. -/
theorem IssuedTo.unique
    {kind token : QString} {first second : ℕ}
    (toFirst : IssuedTo kind token (userIdOf first))
    (toSecond : IssuedTo kind token (userIdOf second)) :
    first = second := by
  obtain ⟨firstEnding, rfl, firstEnds⟩ := toFirst
  obtain ⟨secondEnding, same, secondEnds⟩ := toSecond
  have number_span : ∀ (number : ℕ) (ending : QString),
      (ending = [] ∨ ending.head? = some 0x5F) →
      (QString.number number ++ ending).takeWhile (· ≠ 0x5F) =
        QString.number number := by
    intro number ending ends
    rw [List.takeWhile_append_of_pos]
    · rcases ends with rfl | underscore
      · simp
      · cases ending with
        | nil => simp
        | cons unit rest =>
            simp only [List.head?_cons, Option.some.injEq] at underscore
            simp [underscore]
    · intro unit member
      simp only [ne_eq, decide_eq_true_eq]
      rintro rfl
      exact underscore_notMem_number number member
  simp only [userIdOf, List.append_assoc, List.append_cancel_left_eq] at same
  have numbers := congrArg (List.takeWhile (· ≠ 0x5F)) same
  rw [number_span _ _ firstEnds, number_span _ _ secondEnds] at numbers
  exact qstringNumber_injective numbers

/-! ## The invariant -/

def accessKind : QString := QString.literal "acc_"
def refreshKind : QString := QString.literal "ref_"

/-- The account of a user. -/
def IsAccountOf
    (server : FakeVoxServer) (userId : QString) (account : AccountState) :
    Prop :=
  server.m_usersByUsername.lookup account.username = some account ∧
    account.userId = userId

structure WellFormed (server : FakeVoxServer) : Prop where
  named : ∀ username account,
    server.m_usersByUsername.lookup username = some account →
      account.username = username
  numbered : ∀ username account,
    server.m_usersByUsername.lookup username = some account →
      ∃ number < server.m_userSeq, account.userId = userIdOf number
  distinct : ∀ first second firstAccount secondAccount,
    server.m_usersByUsername.lookup first = some firstAccount →
      server.m_usersByUsername.lookup second = some secondAccount →
        firstAccount.userId = secondAccount.userId → first = second
  access : ∀ token userId,
    server.m_userByAccessToken.lookup token = some userId →
      IssuedTo accessKind token userId ∧
        ∃ account, server.IsAccountOf userId account
  refresh : ∀ token userId,
    server.m_userByRefreshToken.lookup token = some userId →
      IssuedTo refreshKind token userId ∧
        ∃ account, server.IsAccountOf userId account

/-- Accounts and tokens that are there stay, with the same users. -/
structure Extends (before after : FakeVoxServer) : Prop where
  access : ∀ token userId,
    before.m_userByAccessToken.lookup token = some userId →
      after.m_userByAccessToken.lookup token = some userId
  refresh : ∀ token userId,
    before.m_userByRefreshToken.lookup token = some userId →
      after.m_userByRefreshToken.lookup token = some userId
  accounts : ∀ userId account,
    before.IsAccountOf userId account →
      ∃ later, after.IsAccountOf userId later ∧
        later.username = account.username

theorem lookup_insert_eq_some_iff
    {α : Type} {hash : QHash α} {key other : QString} {value found : α} :
    (hash.insert key value).lookup other = some found ↔
      (other = key ∧ value = found) ∨
        (other ≠ key ∧ hash.lookup other = some found) := by
  by_cases same : other = key
  · subst same
    rw [AList.lookup_insert]
    simp
  · rw [AList.lookup_insert_ne same]
    simp [same]

section Growth

variable {server : FakeVoxServer}

namespace Extends

theorem refl (server : FakeVoxServer) : Extends server server :=
  ⟨fun _ _ there => there, fun _ _ there => there,
    fun _ account there => ⟨account, there, rfl⟩⟩

theorem trans
    {first second third : FakeVoxServer}
    (before : Extends first second) (after : Extends second third) :
    Extends first third where
  access token userId there :=
    after.access token userId (before.access token userId there)
  refresh token userId there :=
    after.refresh token userId (before.refresh token userId there)
  accounts userId account there := by
    obtain ⟨later, isLater, sameName⟩ := before.accounts userId account there
    obtain ⟨last, isLast, lastName⟩ := after.accounts userId later isLater
    exact ⟨last, isLast, lastName.trans sameName⟩

end Extends

/-- The tables after an account is written under its name. -/
def withAccount
    (server : FakeVoxServer) (account : AccountState) (userSeq : ℕ) :
    FakeVoxServer :=
  { server with
    m_usersByUsername :=
      server.m_usersByUsername.insert account.username account
    m_userSeq := userSeq }

/-- The tables after tokens are written. -/
def withTokens
    (server : FakeVoxServer) (accessToken refreshToken userId : QString) :
    FakeVoxServer :=
  { server with
    m_userByAccessToken :=
      server.m_userByAccessToken.insert accessToken userId
    m_userByRefreshToken :=
      server.m_userByRefreshToken.insert refreshToken userId }

/-- The account is one that is there, or a new one with the next number. -/
def Continues
    (server : FakeVoxServer) (account : AccountState) (userSeq : ℕ) : Prop :=
  (∃ found,
    server.m_usersByUsername.lookup account.username = some found ∧
      account.userId = found.userId ∧ userSeq = server.m_userSeq) ∨
    (server.m_usersByUsername.lookup account.username = none ∧
      account.userId = userIdOf server.m_userSeq ∧
        userSeq = server.m_userSeq + 1)

theorem withAccount_isAccountOf
    (server : FakeVoxServer) (account : AccountState) (userSeq : ℕ) :
    (server.withAccount account userSeq).IsAccountOf account.userId
      account :=
  ⟨AList.lookup_insert _, rfl⟩

/-- An account that is written takes no other one away. -/
theorem isAccountOf_withAccount
    {account : AccountState} {userSeq : ℕ}
    (continues : server.Continues account userSeq)
    {userId : QString} {other : AccountState}
    (there : server.IsAccountOf userId other) :
    ∃ later, (server.withAccount account userSeq).IsAccountOf userId later ∧
      later.username = other.username := by
  by_cases same : other.username = account.username
  · refine ⟨account, ⟨AList.lookup_insert _, ?_⟩, same.symm⟩
    rcases continues with ⟨found, isFound, sameUser, _⟩ | ⟨absent, _⟩
    · rw [← same, there.1] at isFound
      obtain rfl := Option.some.inj isFound
      rw [sameUser, there.2]
    · rw [← same, there.1] at absent
      contradiction
  · exact ⟨other, ⟨(AList.lookup_insert_ne same).trans there.1, there.2⟩,
      rfl⟩

theorem WellFormed.withAccount
    (wellFormed : server.WellFormed)
    {account : AccountState} {userSeq : ℕ}
    (continues : server.Continues account userSeq) :
    (server.withAccount account userSeq).WellFormed where
  named username found there := by
    rcases lookup_insert_eq_some_iff.mp there with
      ⟨rfl, rfl⟩ | ⟨_, before⟩
    · rfl
    · exact wellFormed.named username found before
  numbered username found there := by
    have below : server.m_userSeq ≤ userSeq := by
      rcases continues with ⟨_, _, _, same⟩ | ⟨_, _, next⟩ <;> omega
    rcases lookup_insert_eq_some_iff.mp there with
      ⟨rfl, rfl⟩ | ⟨_, before⟩
    · rcases continues with ⟨found, isFound, sameUser, same⟩ | ⟨_, new, next⟩
      · obtain ⟨number, less, named⟩ :=
          wellFormed.numbered _ found isFound
        exact ⟨number, show number < userSeq by omega, sameUser.trans named⟩
      · exact ⟨server.m_userSeq, show server.m_userSeq < userSeq by omega,
          new⟩
    · obtain ⟨number, less, named⟩ := wellFormed.numbered _ found before
      exact ⟨number, show number < userSeq by omega, named⟩
  distinct first second firstAccount secondAccount isFirst isSecond
      sameUser := by
    have apart : ∀ username other, username ≠ account.username →
        server.m_usersByUsername.lookup username = some other →
          account.userId ≠ other.userId := by
      intro username other different isOther sameUser
      rcases continues with ⟨found, isFound, foundUser, _⟩ | ⟨_, new, _⟩
      · exact different (wellFormed.distinct username account.username other
          found isOther isFound (sameUser.symm.trans foundUser))
      · obtain ⟨number, less, named⟩ := wellFormed.numbered _ other isOther
        rw [new, named] at sameUser
        exact absurd (userIdOf_injective sameUser) (by omega)
    rcases lookup_insert_eq_some_iff.mp isFirst with
      ⟨rfl, rfl⟩ | ⟨firstOther, firstBefore⟩
    · rcases lookup_insert_eq_some_iff.mp isSecond with
        ⟨rfl, rfl⟩ | ⟨secondOther, secondBefore⟩
      · rfl
      · exact absurd sameUser (apart _ _ secondOther secondBefore)
    · rcases lookup_insert_eq_some_iff.mp isSecond with
        ⟨rfl, rfl⟩ | ⟨_, secondBefore⟩
      · exact absurd sameUser.symm (apart _ _ firstOther firstBefore)
      · exact wellFormed.distinct first second firstAccount secondAccount
          firstBefore secondBefore sameUser
  access token userId issued := by
    obtain ⟨toUser, found, there⟩ := wellFormed.access token userId issued
    obtain ⟨later, isLater, _⟩ :=
      isAccountOf_withAccount continues there
    exact ⟨toUser, later, isLater⟩
  refresh token userId issued := by
    obtain ⟨toUser, found, there⟩ := wellFormed.refresh token userId issued
    obtain ⟨later, isLater, _⟩ :=
      isAccountOf_withAccount continues there
    exact ⟨toUser, later, isLater⟩

/-- A table of tokens that are issued to numbered users keeps the user of a
token when another is written. -/
theorem lookup_insert_of_issued
    {hash : QHash QString} {kind token other : QString}
    {first second : ℕ}
    (there : hash.lookup other = some (userIdOf first))
    (toFirst : IssuedTo kind other (userIdOf first))
    (toSecond : IssuedTo kind token (userIdOf second)) :
    (hash.insert token (userIdOf second)).lookup other =
      some (userIdOf first) := by
  rw [lookup_insert_eq_some_iff]
  by_cases same : other = token
  · subst same
    exact Or.inl ⟨rfl, by rw [toFirst.unique toSecond]⟩
  · exact Or.inr ⟨same, there⟩

theorem WellFormed.userIdOf_of_isAccountOf
    (wellFormed : server.WellFormed)
    {userId : QString} {account : AccountState}
    (there : server.IsAccountOf userId account) :
    ∃ number, userId = userIdOf number := by
  obtain ⟨number, _, named⟩ := wellFormed.numbered _ account there.1
  exact ⟨number, there.2.symm.trans named⟩

theorem WellFormed.withTokens
    (wellFormed : server.WellFormed)
    {accessToken refreshToken userId : QString} {account : AccountState}
    (there : server.IsAccountOf userId account)
    (accessIssued : IssuedTo accessKind accessToken userId)
    (refreshIssued : IssuedTo refreshKind refreshToken userId) :
    (server.withTokens accessToken refreshToken userId).WellFormed where
  named := wellFormed.named
  numbered := wellFormed.numbered
  distinct := wellFormed.distinct
  access token owner issued := by
    rcases lookup_insert_eq_some_iff.mp issued with ⟨rfl, rfl⟩ | ⟨_, before⟩
    · exact ⟨accessIssued, account, there⟩
    · exact wellFormed.access token owner before
  refresh token owner issued := by
    rcases lookup_insert_eq_some_iff.mp issued with ⟨rfl, rfl⟩ | ⟨_, before⟩
    · exact ⟨refreshIssued, account, there⟩
    · exact wellFormed.refresh token owner before

theorem WellFormed.extends_withTokens
    (wellFormed : server.WellFormed)
    {accessToken refreshToken userId : QString} {account : AccountState}
    (there : server.IsAccountOf userId account)
    (accessIssued : IssuedTo accessKind accessToken userId)
    (refreshIssued : IssuedTo refreshKind refreshToken userId) :
    Extends server
      (server.withTokens accessToken refreshToken userId) where
  access token owner issued := by
    obtain ⟨toOwner, ownerAccount, isOwner⟩ :=
      wellFormed.access token owner issued
    obtain ⟨first, rfl⟩ := wellFormed.userIdOf_of_isAccountOf isOwner
    obtain ⟨second, rfl⟩ := wellFormed.userIdOf_of_isAccountOf there
    exact lookup_insert_of_issued issued toOwner accessIssued
  refresh token owner issued := by
    obtain ⟨toOwner, ownerAccount, isOwner⟩ :=
      wellFormed.refresh token owner issued
    obtain ⟨first, rfl⟩ := wellFormed.userIdOf_of_isAccountOf isOwner
    obtain ⟨second, rfl⟩ := wellFormed.userIdOf_of_isAccountOf there
    exact lookup_insert_of_issued issued toOwner refreshIssued
  accounts _ found isFound := ⟨found, isFound, rfl⟩

/-- An account that continues the table is written together with tokens that
are issued to its user. -/
theorem WellFormed.grows
    (wellFormed : server.WellFormed)
    (account : AccountState) {userSeq : ℕ}
    (continues : server.Continues account userSeq)
    (accessIssued : IssuedTo accessKind account.accessToken account.userId)
    (refreshIssued :
      IssuedTo refreshKind account.refreshToken account.userId) :
    let after :=
      (server.withAccount account userSeq).withTokens account.accessToken
        account.refreshToken account.userId
    after.WellFormed ∧ Extends server after := by
  intro after
  have written := wellFormed.withAccount continues
  have there := server.withAccount_isAccountOf account userSeq
  have accountKept : Extends server (server.withAccount account userSeq) :=
    ⟨fun _ _ issued => issued, fun _ _ issued => issued,
      fun _ _ isFound => isAccountOf_withAccount continues isFound⟩
  exact ⟨written.withTokens there accessIssued refreshIssued,
    accountKept.trans
      (written.extends_withTokens there accessIssued refreshIssued)⟩

theorem issuedTo_self (kind userId : QString) :
    IssuedTo kind (kind ++ userId) userId :=
  ⟨[], (List.append_nil _).symm, Or.inl rfl⟩

/-- What is handled keeps the invariant, the accounts and the tokens. -/
theorem AccountsHandled.grows
    {json : QJsonDocument} {response : NetworkResponse}
    {after : FakeVoxServer}
    (handled : AccountsHandled json server response after)
    (wellFormed : server.WellFormed) :
    after.WellFormed ∧ Extends server after := by
  cases handled with
  | unchanged same =>
      obtain ⟨userSeq, users, access, refresh⟩ := same
      constructor
      · constructor
        · rw [users]
          exact wellFormed.named
        · rw [users, userSeq]
          exact wellFormed.numbered
        · rw [users]
          exact wellFormed.distinct
        · rw [access]
          unfold IsAccountOf
          rw [users]
          exact wellFormed.access
        · rw [refresh]
          unfold IsAccountOf
          rw [users]
          exact wellFormed.refresh
      · constructor
        · rw [access]
          exact fun _ _ there => there
        · rw [refresh]
          exact fun _ _ there => there
        · unfold IsAccountOf
          rw [users]
          exact fun _ account there => ⟨account, there, rfl⟩
  | @registered username password deviceId nonempty free =>
      exact wellFormed.grows (server.newAccount username password deviceId)
        (Or.inr ⟨free, rfl, rfl⟩) (issuedTo_self _ _) (issuedTo_self _ _)
  | @loggedIn username deviceId found moment there =>
      have named := wellFormed.named username found there
      subst named
      exact wellFormed.grows (FakeVoxServer.loggedIn moment found deviceId)
        (Or.inl ⟨found, there, rfl, rfl⟩)
        ⟨_, List.append_assoc _ _ _, Or.inr rfl⟩
        ⟨_, List.append_assoc _ _ _, Or.inr rfl⟩
  | @refreshed token userId known =>
      obtain ⟨_, account, there⟩ := wellFormed.refresh token userId known
      have accessIssued :
          IssuedTo accessKind (refreshedAccess userId) userId :=
        ⟨_, rfl, Or.inr rfl⟩
      have refreshIssued :
          IssuedTo refreshKind (refreshedRefresh userId) userId :=
        ⟨_, rfl, Or.inr rfl⟩
      exact ⟨wellFormed.withTokens there accessIssued refreshIssued,
        wellFormed.extends_withTokens there accessIssued refreshIssued⟩

end Growth

end FakeVoxServer

end Integration
end VoxDesktop
