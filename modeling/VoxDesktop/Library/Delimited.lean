import Mathlib.Data.Nat.Notation

/-!
# Delimited sequences

Items with a separator between them and a closing token after the last, and a
reader for them that is given a reader for one item.
-/

namespace Library
namespace Delimited

variable {Token Item : Type*}

/-- Items with a separator between them and a closing token. -/
def write (separator close : Token) : List (List Token) → List Token
  | [] => [close]
  | [item] => item ++ [close]
  | item :: next :: items =>
      item ++ separator :: write separator close (next :: items)

variable [DecidableEq Token]

/-- Read at least one item, and as many as the fuel allows. -/
def readSome
    (separator close : Token)
    (item : List Token → Option (Item × List Token)) :
    ℕ → List Token → Option (List Item × List Token)
  | 0, _ => none
  | fuel + 1, tokens =>
      match item tokens with
      | some (first, stop :: rest) =>
          if stop = close then some ([first], rest)
          else if stop = separator then
            (readSome separator close item fuel rest).map fun others =>
              (first :: others.1, others.2)
          else none
      | _ => none

/-- Read items up to the closing token. -/
def read
    (separator close : Token)
    (item : List Token → Option (Item × List Token)) (fuel : ℕ) :
    List Token → Option (List Item × List Token)
  | [] => none
  | token :: rest =>
      if token = close then some ([], rest)
      else readSome separator close item fuel (token :: rest)

section RoundTrip

variable {separator close : Token}
  {item : List Token → Option (Item × List Token)}
  {print : Item → List Token} {items : List Item}

theorem readSome_write
    (apart : separator ≠ close)
    (reads : ∀ one ∈ items, ∀ stop, stop = separator ∨ stop = close →
      ∀ rest, item (print one ++ stop :: rest) = some (one, stop :: rest))
    (nonempty : items ≠ []) {fuel : ℕ} (enough : items.length ≤ fuel)
    (rest : List Token) :
    readSome separator close item fuel
        (write separator close (items.map print) ++ rest) =
      some (items, rest) := by
  induction items generalizing fuel with
  | nil => contradiction
  | cons first items inductionHypothesis =>
      obtain ⟨firstReads, othersRead⟩ := List.forall_mem_cons.mp reads
      rw [List.length_cons] at enough
      obtain ⟨fuel, rfl⟩ := Nat.exists_eq_succ_of_ne_zero
        (show fuel ≠ 0 by omega)
      cases items with
      | nil =>
          have shape :
              write separator close ([first].map print) ++ rest =
                print first ++ close :: rest := by
            rw [List.map_cons, List.map_nil, write, List.append_assoc,
              List.singleton_append]
          rw [shape, readSome, firstReads close (Or.inr rfl)]
          exact if_pos rfl
      | cons next items =>
          have shape :
              write separator close ((first :: next :: items).map print) ++
                  rest =
                print first ++ separator ::
                  (write separator close ((next :: items).map print) ++
                    rest) := by
            rw [List.map_cons, List.map_cons, write, List.append_assoc,
              List.cons_append, ← List.map_cons]
          rw [shape, readSome, firstReads separator (Or.inl rfl)]
          dsimp only
          rw [if_neg apart, if_pos rfl,
            inductionHypothesis othersRead (List.cons_ne_nil _ _) (by omega),
            Option.map_some]

/-- What was written is read back, where no item starts like the end. -/
theorem read_write
    (apart : separator ≠ close)
    (reads : ∀ one ∈ items, ∀ stop, stop = separator ∨ stop = close →
      ∀ rest, item (print one ++ stop :: rest) = some (one, stop :: rest))
    (starts : ∀ one ∈ items,
      ∃ token tokens, print one = token :: tokens ∧ token ≠ close)
    {fuel : ℕ} (enough : items.length ≤ fuel) (rest : List Token) :
    read separator close item fuel
        (write separator close (items.map print) ++ rest) =
      some (items, rest) := by
  cases items with
  | nil => exact if_pos rfl
  | cons first items =>
      have written := readSome_write apart reads (List.cons_ne_nil _ _) enough
        rest
      obtain ⟨token, tokens, printed, differs⟩ :=
        starts first List.mem_cons_self
      obtain ⟨others, shape⟩ : ∃ others,
          write separator close ((first :: items).map print) ++ rest =
            token :: others := by
        cases items with
        | nil =>
            rw [List.map_cons, List.map_nil, write, printed]
            exact ⟨_, rfl⟩
        | cons next items =>
            rw [List.map_cons, List.map_cons, write, printed]
            exact ⟨_, rfl⟩
      rw [shape] at written ⊢
      rw [read, if_neg differs, written]

end RoundTrip

omit [DecidableEq Token] in
/-- There are at most as many items as tokens. -/
theorem length_le_length_write
    (separator close : Token) (items : List (List Token)) :
    items.length ≤ (write separator close items).length := by
  induction items with
  | nil => exact Nat.zero_le _
  | cons first items inductionHypothesis =>
      cases items with
      | nil =>
          rw [write, List.length_append]
          exact Nat.le_add_left _ _
      | cons next items =>
          simp only [write, List.length_append, List.length_cons]
            at inductionHypothesis ⊢
          omega

end Delimited
end Library
