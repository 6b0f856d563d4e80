import VoxDesktop.Services.Sessions

/-!
# Where the calls of the authentication service go

The service keeps the base URL it was constructed with, and every request of a
call goes to the path of the call under that URL.
-/

namespace VoxDesktop
namespace Services
namespace AuthService

open Qt Crypto Network Storage

/-- The path of the requests that a call makes. -/
def AuthCall.path : AuthCall → QString
  | .registerUser _ _ _ => ApiPaths.kRegister
  | .login _ _ _ => ApiPaths.kLogin
  | .restoreSession _ => ApiPaths.kRefresh
  | .logout _ => ApiPaths.kLogout

section Requests

variable {json : QJsonDocument} {sodium : Sodium}
  {sha256 : QByteArray → List.Vector UInt8 kSha256Bytes}
  {service : AuthService}

/-- A call keeps the base URL, and its request, if it makes one, goes to a
path under it. -/
def GoesTo
    (service : AuthService) (path : QString)
    (result : AuthReport × AuthService) : Prop :=
  result.2.m_network.m_baseUrl = service.m_network.m_baseUrl ∧
    ∀ request, result.1.posted = some request →
      request.url = service.m_network.m_baseUrl ++ path

/-- A call keeps the base URL, and its request, if it makes one, posts to the
path with the token that was set before the call. -/
def Posts
    (service : AuthService) (path : QString)
    (result : AuthReport × AuthService) : Prop :=
  result.2.m_network.m_baseUrl = service.m_network.m_baseUrl ∧
    ∀ request, result.1.posted = some request →
      ∃ body, request = service.m_network.postJson path body

theorem posts_of_quiet
    {path : QString} {result : AuthReport × AuthService}
    (kept : result.2.m_network.m_baseUrl = service.m_network.m_baseUrl)
    (quiet : result.1.posted = none) :
    Posts service path result := by
  refine ⟨kept, fun request posted => ?_⟩
  rw [quiet] at posted
  contradiction

theorem signIn_posts
    (username : QString) (request : AuthRequest)
    {exchange : HttpRequest × ApiResult AuthSessionResponse}
    {path : QString} {body : QByteArray}
    (sent : exchange.1 = service.m_network.postJson path body)
    (outcome : PersistOutcome) :
    Posts service path
      (signIn json sodium service username request exchange outcome) := by
  have posted :
      (signIn json sodium service username request exchange
        outcome).1.posted = some exchange.1 := by
    unfold signIn
    split <;> rfl
  refine ⟨?_, fun made equal => ⟨body, ?_⟩⟩
  · unfold signIn
    split
    · dsimp only [persistSession]
      split <;> rfl
    · rfl
  · rw [posted, Option.some.injEq] at equal
    rw [← equal]
    exact sent

/-- Publishing keys before a sign-in does not show in what it posts. -/
theorem signIn_publishedKeys_posts
    (keyOutcome : KeyOutcome)
    (username : QString) (request : AuthRequest)
    {exchange : HttpRequest × ApiResult AuthSessionResponse}
    {path : QString} {body : QByteArray}
    (sent : exchange.1 = service.m_network.postJson path body)
    (outcome : PersistOutcome) :
    Posts service path
      (signIn json sodium (publishedKeys json sodium service keyOutcome).2
        username request exchange outcome) := by
  have sameNetwork :=
    (@publishedKeys_same json sodium service keyOutcome).1
  rw [← sameNetwork] at sent
  obtain ⟨kept, posts⟩ :=
    @signIn_posts json sodium _ username request exchange path body sent
      outcome
  rw [sameNetwork] at kept posts
  exact ⟨kept, posts⟩

/-- Every call posts to its path. -/
theorem step_posts (call : AuthCall) :
    Posts service call.path (step json sodium sha256 service call) := by
  have keysNetwork := fun outcome : KeyOutcome =>
    (@publishedKeys_same json sodium service outcome).1
  cases call with
  | registerUser username passwordDerived outcome =>
      have sameBase := congrArg NetworkAccess.m_baseUrl
        (keysNetwork outcome.keys)
      rcases registerUser_cases json sodium sha256 service username
          passwordDerived outcome with
        stopped | stopped | ⟨_, _, _, _, _, signedIn⟩
      · rw [step, stopped]
        exact posts_of_quiet rfl rfl
      · rw [step, stopped]
        exact posts_of_quiet sameBase rfl
      · rw [step, signedIn, keysNetwork]
        exact signIn_publishedKeys_posts outcome.keys _ _ rfl _
  | login username passwordDerived outcome =>
      rcases login_cases json sodium sha256 service username passwordDerived
          outcome with
        stopped | signedIn
      · rw [step, stopped]
        exact posts_of_quiet rfl rfl
      · rw [step, signedIn, keysNetwork]
        exact signIn_publishedKeys_posts outcome.keys _ _ rfl _
  | restoreSession outcome =>
      rw [step, restoreSession]
      split
      · exact posts_of_quiet rfl rfl
      split
      · exact posts_of_quiet rfl rfl
      dsimp only
      split
      · exact ⟨rfl, fun request posted =>
          ⟨_, (Option.some.inj posted).symm⟩⟩
      · exact ⟨rfl, fun request posted =>
          ⟨_, (Option.some.inj posted).symm⟩⟩
  | logout outcome =>
      rw [step, logout]
      split
      · exact posts_of_quiet rfl rfl
      refine ⟨?_, fun request posted => ⟨_, (Option.some.inj posted).symm⟩⟩
      dsimp only [NetworkAccess.setBearerToken, forgetActive]
      split <;> rfl

theorem AuthCall.path_absolute (call : AuthCall) :
    call.path.head? = some 0x2F := by
  cases call <;> rfl

/-- Requests go to the path of the call. -/
theorem step_goesTo (call : AuthCall) :
    GoesTo service call.path (step json sodium sha256 service call) := by
  obtain ⟨kept, posts⟩ :=
    @step_posts json sodium sha256 service call
  refine ⟨kept, fun request posted => ?_⟩
  obtain ⟨body, rfl⟩ := posts request posted
  rw [NetworkAccess.postJson, NetworkAccess.execute]
  dsimp only
  rw [if_pos call.path_absolute]

end Requests

end AuthService
end Services
end VoxDesktop
