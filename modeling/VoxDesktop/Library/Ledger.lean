import VoxDesktop.Library.Table

/-!
# Replicas of a ledger

A ledger is a list of entries with distinct names, to which entries are added.
A replica is a table whose rows each show an entry under its name; it may have
any part of the ledger.  Upserts of rows that show entries keep a table a
replica, in whatever order they come and however often they are repeated, and
any two replicas agree on what both of them have.
-/

namespace Library
namespace Ledger

variable {Entry Row Name : Type*} {key : Row → Name}

/-- Every row shows an entry. -/
def Replicates
    (shows : Row → Entry → Prop) (entries : List Entry)
    (table : Table key) : Prop :=
  ∀ row ∈ table.rows, ∃ entry ∈ entries, shows row entry

/-- A row shows an entry under its name only. -/
def Keyed
    (key : Row → Name) (name : Entry → Name) (shows : Row → Entry → Prop) :
    Prop :=
  ∀ row entry, shows row entry → key row = name entry

/-- A row that is updated by another one that shows the same entry still
shows it. -/
def KeptByUpdates
    (shows : Row → Entry → Prop) (update : Row → Row → Row) : Prop :=
  ∀ stored row entry,
    shows stored entry → shows row entry → shows (update stored row) entry

section Replicas

variable {name : Entry → Name} {shows : Row → Entry → Prop}
  {entries : List Entry} {table : Table key}

theorem replicates_empty : Replicates shows entries (.empty : Table key) :=
  fun _ absent => nomatch absent

/-- Entries that are added do no harm. -/
theorem Replicates.mono
    (replicates : Replicates shows entries table) {more : List Entry}
    (kept : ∀ entry ∈ entries, entry ∈ more) :
    Replicates shows more table := by
  intro row within
  obtain ⟨entry, member, isShown⟩ := replicates row within
  exact ⟨entry, kept entry member, isShown⟩

/-- Two rows of one key, in whichever replicas, show one entry. -/
theorem Replicates.agree
    (keyed : Keyed key name shows)
    (distinct : (entries.map name).Nodup)
    {other : Table key}
    (replicates : Replicates shows entries table)
    (otherReplicates : Replicates shows entries other)
    {row otherRow : Row} (within : row ∈ table.rows)
    (otherWithin : otherRow ∈ other.rows) (sameKey : key row = key otherRow) :
    ∃ entry ∈ entries, shows row entry ∧ shows otherRow entry := by
  obtain ⟨entry, member, isShown⟩ := replicates row within
  obtain ⟨otherEntry, otherMember, otherShown⟩ :=
    otherReplicates otherRow otherWithin
  obtain rfl : entry = otherEntry := by
    apply List.inj_on_of_nodup_map distinct member otherMember
    rw [← keyed row entry isShown, sameKey, keyed otherRow otherEntry
      otherShown]
  exact ⟨entry, member, isShown, otherShown⟩

variable [DecidableEq Name] {update : Row → Row → Row}

/-- A row that shows an entry is upserted, whatever there is. -/
theorem Replicates.upsert
    (keyed : Keyed key name shows)
    (distinct : (entries.map name).Nodup)
    (updates : KeptByUpdates shows update)
    (keeps : Table.KeepsKey key update)
    (replicates : Replicates shows entries table)
    {row : Row} {entry : Entry} (member : entry ∈ entries)
    (isShown : shows row entry) :
    Replicates shows entries (table.upsert update keeps row) := by
  have sameEntry : ∀ stored ∈ table.rows, key stored = key row →
      shows stored entry := by
    intro stored within sameKey
    obtain ⟨other, otherMember, otherShown⟩ := replicates stored within
    obtain rfl : other = entry := by
      apply List.inj_on_of_nodup_map distinct otherMember member
      rw [← keyed stored other otherShown, sameKey, keyed row entry isShown]
    exact otherShown
  intro found within
  have isFound := ((table.upsert update keeps row).lookup_eq_some_iff
    (key found) found).mpr ⟨within, rfl⟩
  by_cases sameKey : key found = key row
  · rw [sameKey, table.lookup_upsert_self] at isFound
    cases before : table.lookup (key row) with
    | none =>
        rw [before] at isFound
        obtain rfl := Option.some.inj isFound
        exact ⟨entry, member, isShown⟩
    | some stored =>
        rw [before] at isFound
        obtain rfl := Option.some.inj isFound
        obtain ⟨storedWithin, storedKey⟩ :=
          (table.lookup_eq_some_iff _ _).mp before
        exact ⟨entry, member, updates stored row entry
          (sameEntry stored storedWithin storedKey) isShown⟩
  · rw [table.lookup_upsert_of_ne keeps sameKey] at isFound
    exact replicates found ((table.lookup_eq_some_iff _ _).mp isFound).1

end Replicas

end Ledger
end Library
