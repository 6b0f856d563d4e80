import VoxDesktop.Library.PartialWalk
import VoxDesktop.Services.SyncPull

/-!
# Whether pulling a collection returns

The only exits of the loop over the pages are a page that is refused, a record
that is not stored, and a page that says it is the last one.  Cursors are not
compared, so against a server that answers by the cursor the loop walks from
cursor to cursor, and a cursor that leads back to itself is followed forever.
A page that says there is more but names no cursor leads back to the first
page.
-/

namespace VoxDesktop
namespace Services
namespace SyncService

open Qt Library Library.PartialWalk Network Storage

section Walk

variable (json : QJsonDocument) (collection : QString)
  (serve : QUrlQuery → NetworkResponse)

/-- The cursor of the next request; nothing after a page that is refused or
the last one. -/
def followingCursor (cursor : QString) : Option QString :=
  (pageAt json collection serve cursor).bind fun page =>
    if page.hasMore then some page.nextCursor else none

/-- What happens around the first pages of a call whose requests the server
answers. -/
def answeredPages :
    ℕ → (ℕ → ℕ → UpsertOutcome) → List PageOutcome
  | 0, _ => []
  | count + 1, upserts =>
      ⟨fun request => serve request.2, upserts 0⟩ ::
        answeredPages count fun index => upserts (index + 1)

variable {json collection serve}

theorem followingCursor_of_more
    {cursor : QString} {page : SyncChangesResponse}
    (found : pageAt json collection serve cursor = some page)
    (more : page.hasMore = true) :
    followingCursor json collection serve cursor = some page.nextCursor := by
  rw [followingCursor, found, Option.bind_some, if_pos more]

/-- A refused request ends the call. -/
theorem pullPages_of_refused
    (network : NetworkAccess) {cursor : QString}
    (refused : pageAt json collection serve cursor = none)
    (count : ℕ) (upserts : ℕ → ℕ → UpsertOutcome) (table : SyncTable) :
    (pullPages json network collection cursor
      (answeredPages serve (count + 1) upserts) table).1 = some false := by
  let first : PageOutcome := ⟨fun request => serve request.2, upserts 0⟩
  have answer :
      (SyncApi.changes json
        (first.respond
          (SyncApi.changesRequest network collection cursor
            kSyncChangesPageSize))).accepted = none := refused
  exact (pullPages_refused answer _ table).2

/-- What the first page decides: the call goes on after a page that is stored
and not the last one. -/
theorem pullPages_of_found
    (network : NetworkAccess) {cursor : QString} {page : SyncChangesResponse}
    (found : pageAt json collection serve cursor = some page)
    (count : ℕ) (upserts : ℕ → ℕ → UpsertOutcome) (table : SyncTable) :
    let stored := recordsOfPage page.records (upserts 0)
    (pullPages json network collection cursor
        (answeredPages serve (count + 1) upserts) table).1 =
      if stored.length = page.records.length ∧ page.hasMore = true then
        (pullPages json network collection page.nextCursor
          (answeredPages serve count fun index => upserts (index + 1))
          (table.replaceAll stored)).1
      else some (decide (stored.length = page.records.length)) := by
  intro stored
  let first : PageOutcome := ⟨fun request => serve request.2, upserts 0⟩
  have accepted :
      (SyncApi.changes json
        (first.respond
          (SyncApi.changesRequest network collection cursor
            kSyncChangesPageSize))).accepted = some page := found
  exact (pullPages_cons accepted _ table).2

/-- A walk that has stopped means a call that has returned. -/
theorem pullPages_ne_none
    (network : NetworkAccess) {cursor : QString} {steps : ℕ}
    (stopped :
      walk (followingCursor json collection serve) steps cursor = none)
    (upserts : ℕ → ℕ → UpsertOutcome) (table : SyncTable) :
    (pullPages json network collection cursor
      (answeredPages serve steps upserts) table).1 ≠ none := by
  induction steps generalizing cursor upserts table with
  | zero => contradiction
  | succ steps inductionHypothesis =>
      cases found : pageAt json collection serve cursor with
      | none =>
          rw [pullPages_of_refused network found]
          exact Option.some_ne_none _
      | some page =>
          rw [pullPages_of_found network found]
          split
          next goesOn =>
            rw [walk, followingCursor_of_more found goesOn.2,
              Option.bind_some] at stopped
            exact inductionHypothesis stopped _ _
          next => exact Option.some_ne_none _

/-- A call whose statements all execute has returned only when the walk has
stopped. -/
theorem walk_eq_none_of_pullPages
    (network : NetworkAccess) {cursor : QString} {steps : ℕ}
    {upserts : ℕ → ℕ → UpsertOutcome}
    (executes : ∀ page index, (upserts page index).executed = true)
    {table : SyncTable}
    (returned :
      (pullPages json network collection cursor
        (answeredPages serve steps upserts) table).1 ≠ none) :
    walk (followingCursor json collection serve) steps cursor = none := by
  induction steps generalizing cursor upserts table with
  | zero => exact absurd rfl returned
  | succ steps inductionHypothesis =>
      rw [walk]
      cases found : pageAt json collection serve cursor with
      | none => rw [followingCursor, found, Option.bind_none, Option.bind_none]
      | some page =>
          rw [pullPages_of_found network found,
            length_recordsOfPage (executes 0)] at returned
          cases more : page.hasMore with
          | false =>
              rw [followingCursor, found, Option.bind_some,
                if_neg (by rw [more]; exact Bool.false_ne_true),
                Option.bind_none]
          | true =>
              rw [if_pos ⟨rfl, more⟩] at returned
              rw [followingCursor_of_more found more, Option.bind_some]
              exact inductionHypothesis (fun page => executes (page + 1))
                returned

end Walk

/-- Against a server with finitely many cursors, a call returns whatever its
statements do exactly when no cursor that it gets to leads back to itself.  It
then makes no more requests than there are cursors. -/
theorem pullCollection_returns_iff
    (json : QJsonDocument)
    (network : NetworkAccess)
    (collection : QString)
    (serve : QUrlQuery → NetworkResponse)
    (finite :
      { cursor |
        Reaches (followingCursor json collection serve) [] cursor }.Finite) :
    ((∀ table upserts, ∃ count,
        (pullCollection json network collection
          (answeredPages serve count upserts) table).1 ≠ none) ↔
      ¬MeetsCycle (followingCursor json collection serve) []) ∧
      (¬MeetsCycle (followingCursor json collection serve) [] →
        ∀ table upserts,
          (pullCollection json network collection
            (answeredPages serve
              { cursor |
                Reaches (followingCursor json collection serve) []
                  cursor }.ncard upserts) table).1 ≠ none) := by
  have bounded :
      ¬MeetsCycle (followingCursor json collection serve) [] →
        ∀ table upserts,
          (pullCollection json network collection
            (answeredPages serve
              { cursor |
                Reaches (followingCursor json collection serve) []
                  cursor }.ncard upserts) table).1 ≠ none :=
    fun acyclic table upserts =>
      pullPages_ne_none network (walk_ncard_eq_none finite acyclic) upserts
        table
  refine ⟨⟨fun returns => ?_, fun acyclic table upserts =>
    ⟨_, bounded acyclic table upserts⟩⟩, bounded⟩
  obtain ⟨count, returned⟩ := returns Table.empty fun _ _ => ⟨0, true⟩
  exact Stops.not_meetsCycle
    ⟨count, walk_eq_none_of_pullPages network (fun _ _ => rfl) returned⟩

/-! ## Two servers -/

/-- The server with two pages is left. -/
theorem pullCollection_returns_two_pages :
    ∃ count,
      (pullCollection pageDocument ⟨QString.literal "https://vox", []⟩
        (QString.literal "notes")
        (answeredPages (servePages ∘ QUrlQuery.received) count
          fun _ _ => ⟨10, true⟩)
        otherTable).1 ≠ none := by
  have stops :
      Stops (followingCursor pageDocument (QString.literal "notes")
        (servePages ∘ QUrlQuery.received)) [] :=
    ⟨2, by decide +kernel⟩
  exact (pullCollection_returns_iff pageDocument
    ⟨QString.literal "https://vox", []⟩ (QString.literal "notes")
    (servePages ∘ QUrlQuery.received)
    stops.finite_reaches).1.mpr stops.not_meetsCycle _ _

/-- Body of a page that says there is more and names no cursor. -/
def restartBody : QByteArray :=
  QByteArray.literal "\x7b\"has_more\":true,\"records\":[]\x7d"

/-- What a parser makes of the body. -/
def restartDocument : QJsonDocument where
  toJson := fun _ => []
  parse := fun bytes =>
    if bytes = restartBody then
      .ok [(QString.literal "has_more", .bool true),
        (QString.literal "records", .array [])]
    else .error (QString.literal "illegal value")

/-- A server that always has more and never names a cursor. -/
def serveRestart (_ : QUrlQuery) : NetworkResponse := ⟨200, restartBody, []⟩

theorem followingCursor_serveRestart :
    followingCursor restartDocument (QString.literal "notes") serveRestart
      [] = some [] := by
  decide +kernel

/-- The reply of this server is the same for every cursor, and the call is not
left after any number of requests. -/
theorem pullCollection_never_returns :
    { cursor |
        Reaches
          (followingCursor restartDocument (QString.literal "notes")
            serveRestart) [] cursor }.Finite ∧
      ∀ count,
        (pullCollection restartDocument ⟨QString.literal "https://vox", []⟩
          (QString.literal "notes")
          (answeredPages serveRestart count fun _ _ => ⟨10, true⟩)
          Table.empty).1 = none := by
  have returns : ∀ steps,
      walk
        (followingCursor restartDocument (QString.literal "notes")
          serveRestart) steps [] = some [] := by
    intro steps
    rw [← Nat.mul_one steps]
    refine walk_mul ?_ steps
    rw [walk, followingCursor_serveRestart]
    rfl
  constructor
  · refine (Set.finite_singleton []).subset ?_
    rintro cursor ⟨steps, reached⟩
    exact (Option.some.inj ((returns steps).symm.trans reached)).symm
  · intro count
    by_contra returned
    have stopped :=
      walk_eq_none_of_pullPages ⟨QString.literal "https://vox", []⟩
        (fun _ _ => rfl) returned
    rw [returns count] at stopped
    contradiction

end SyncService
end Services
end VoxDesktop
