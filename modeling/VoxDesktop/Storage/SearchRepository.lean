import Mathlib.Data.Int.Notation
import VoxDesktop.Qt.Text

/-!
# The table of search tokens

`SqlSearchRepository` of `storage/Repositories`.  The table has no key: every
call of `insertToken` adds a row.  Whether a statement executes is an argument.
-/

namespace VoxDesktop
namespace Storage

open Qt

/-- A row of the table `search_tokens`. -/
structure SearchToken where
  conversationId : QString
  messageId : QString
  tokenDigest : QByteArray
  positionHint : ℤ
  deriving DecidableEq

namespace SearchRepository

variable (table : List SearchToken)

def insertToken
    (conversationId messageId : QString) (tokenDigest : QByteArray)
    (positionHint : ℤ) (executed : Bool) : Bool × List SearchToken :=
  if executed then
    (true,
      table ++ [⟨conversationId, messageId, tokenDigest, positionHint⟩])
  else (false, table)

def findMessagesByToken
    (tokenDigest : QByteArray) (executed : Bool) : List QString :=
  if executed then
    (table.filter fun row => row.tokenDigest = tokenDigest).map
      SearchToken.messageId
  else []

end SearchRepository
end Storage
end VoxDesktop
