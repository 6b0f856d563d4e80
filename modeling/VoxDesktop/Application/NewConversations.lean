import VoxDesktop.Application.Handlers
import VoxDesktop.Library.Lookups
import VoxDesktop.Qt.StringList

/-!
# New conversations

What the handlers of `bin/Application` for new conversations ask the server:
the names that the user has typed are looked up one after the other, and the
conversation is created with the users that are found, when all of them are.
Whatever the calls of the server depend on is a state that they pass on.
-/

namespace VoxDesktop
namespace Application

open Library Qt Network Services

structure CreateDmResult where
  apiAvailable : Bool := true
  userFound : Bool := false
  created : Bool := false
  conversationId : QString := []

/-- `CreateGroupResult` and `CreateChannelResult`. -/
structure CreateResult where
  authenticated : Bool := false
  apiAvailable : Bool := true
  created : Bool := false
  error : QString := []
  conversationId : QString := []

def couldNotResolve (username : QString) : QString :=
  QString.literal "Could not resolve '" ++ username ++ QString.literal "'"

def dmRequest (peerUserId : QString) : ConversationCreateRequest where
  type := QString.literal "dm"
  peerUserId := peerUserId
  members := []
  admins := []
  subscribers := []

def groupRequest (memberIds : List QString) : ConversationCreateRequest where
  type := QString.literal "group"
  peerUserId := []
  members := memberIds
  admins := []
  subscribers := []

def channelRequest (adminIds : List QString) : ConversationCreateRequest where
  type := QString.literal "channel"
  peerUserId := []
  members := []
  admins := adminIds
  subscribers := []

section Calls

variable {State : Type}
  (userByUsername : QString → State → ApiResult DirectoryUser × State)
  (createConversation :
    ConversationCreateRequest → State →
      ApiResult ConversationCreateResponse × State)
  (available : Bool)

/-- What `createDmRequested` asks; `available` says that the interfaces of the
server are there. -/
def createDm (username : QString) (state : State) : CreateDmResult × State :=
  if available = false then ({ apiAvailable := false }, state)
  else
    let resolved := userByUsername username state
    match resolved.1.accepted with
    | none => ({}, resolved.2)
    | some user =>
        let created :=
          createConversation (dmRequest user.userId) resolved.2
        match created.1.accepted with
        | none => ({ userFound := true }, created.2)
        | some response =>
            ({ userFound := true
               created := true
               conversationId := response.conversationId }, created.2)

/-- A lookup in the loop over the names. -/
def resolveUserId (username : QString) (state : State) :
    Option QString × State :=
  let resolved := userByUsername username state
  (resolved.1.accepted.map DirectoryUser.userId, resolved.2)

/-- What the handlers ask that create a conversation of several users. -/
def createNamed
    (request : List QString → ConversationCreateRequest) (failure : String)
    (context : Option AuthContext) (usernames : List QString)
    (state : State) : CreateResult × State :=
  match context with
  | none => ({}, state)
  | some auth =>
      if available = false then
        ({ authenticated := true, apiAvailable := false }, state)
      else
        match Lookups.collect (resolveUserId userByUsername) [auth.userId]
          usernames state with
        | (.error username, resolved) =>
            ({ authenticated := true, error := couldNotResolve username },
              resolved)
        | (.ok userIds, resolved) =>
            let created :=
              createConversation (request (removeDuplicates userIds)) resolved
            match created.1.accepted with
            | none =>
                ({ authenticated := true, error := QString.literal failure },
                  created.2)
            | some response =>
                ({ authenticated := true
                   created := true
                   conversationId := response.conversationId }, created.2)

/-- What `createGroupRequested` asks. -/
def createGroup :
    Option AuthContext → List QString → State → CreateResult × State :=
  createNamed userByUsername createConversation available groupRequest
    "Could not create group."

/-- What `createChannelRequested` asks. -/
def createChannel :
    Option AuthContext → List QString → State → CreateResult × State :=
  createNamed userByUsername createConversation available channelRequest
    "Could not create channel."

/-- Either the name is not resolved and nothing is asked for, or a direct
message is asked for. -/
theorem createDm_cases (username : QString) (state : State) :
    let resolved := userByUsername username state
    let made := createDm userByUsername createConversation true username state
    (resolved.1.accepted = none ∧ made = ({}, resolved.2)) ∨
      ∃ user, resolved.1.accepted = some user ∧
        made.2 =
          (createConversation (dmRequest user.userId) resolved.2).2 := by
  intro resolved made
  unfold made resolved createDm
  dsimp only
  rw [if_neg (by decide)]
  cases (userByUsername username state).1.accepted with
  | none => exact Or.inl ⟨rfl, rfl⟩
  | some user =>
      refine Or.inr ⟨user, rfl, ?_⟩
      dsimp only
      split <;> rfl

/-- Either a name is not resolved and nothing is asked for, or all names are
and the conversation is asked for. -/
theorem createNamed_cases
    (request : List QString → ConversationCreateRequest) (failure : String)
    (auth : AuthContext) (usernames : List QString) (state : State) :
    let resolved :=
      Lookups.collect (resolveUserId userByUsername) [auth.userId] usernames
        state
    let made :=
      createNamed userByUsername createConversation true request failure
        (some auth) usernames state
    (∃ username, resolved.1 = .error username ∧
      made = ({ authenticated := true, error := couldNotResolve username },
        resolved.2)) ∨
      ∃ userIds, resolved.1 = .ok userIds ∧
        made.2 = (createConversation (request (removeDuplicates userIds))
          resolved.2).2 := by
  intro resolved made
  unfold made resolved createNamed
  dsimp only
  rw [if_neg (by decide)]
  generalize Lookups.collect (resolveUserId userByUsername) [auth.userId]
    usernames state = collected
  obtain ⟨username | userIds, after⟩ := collected
  · exact Or.inl ⟨username, rfl, rfl⟩
  · refine Or.inr ⟨userIds, rfl, ?_⟩
    dsimp only
    split <;> rfl

end Calls

/-! ## What the user is told -/

namespace CreateResult

variable (result : CreateResult)

/-- The title and the text of the message box, if there is one. -/
def announced : Option (QString × QString) :=
  if result.authenticated = false then
    some (QString.literal "Not authenticated",
      QString.literal "Please login first.")
  else if result.apiAvailable = false then none
  else if result.created = false then
    if result.error = [] then none
    else
      some
        (if (QString.literal "Could not resolve").isPrefixOf result.error then
            QString.literal "Resolve failed"
          else QString.literal "Create failed", result.error)
  else none

/-- The conversation that gets selected, if there is one. -/
def selected : Option QString :=
  if result.created then some result.conversationId else none

end CreateResult

/-- A name that is not resolved is shown under a title of its own. -/
theorem announced_couldNotResolve (username : QString) :
    CreateResult.announced
        { authenticated := true, error := couldNotResolve username } =
      some (QString.literal "Resolve failed", couldNotResolve username) := by
  have starts : (QString.literal "Could not resolve").isPrefixOf
      (couldNotResolve username) := by
    apply List.isPrefixOf_iff_prefix.mpr
    exact (List.isPrefixOf_iff_prefix.mp (by decide : (QString.literal
      "Could not resolve").isPrefixOf (QString.literal
        "Could not resolve '"))).trans (List.prefix_append _ _ |>.trans
          (List.prefix_append _ _))
  have nonempty : couldNotResolve username ≠ [] := List.cons_ne_nil _ _
  rw [CreateResult.announced, if_neg Bool.true_eq_false.mp,
    if_neg Bool.true_eq_false.mp, if_pos rfl, if_neg nonempty,
    if_pos starts]

end Application
end VoxDesktop
