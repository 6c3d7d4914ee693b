namespace Relational

/-- What a table demands of its rows: a primary key, a check on every row, and what rows of different
    keys may not share. -/
structure Schema (Row Key : Type) where
  key : Row → Key
  check : Row → Bool
  apart : Row → Row → Bool

variable {Row Key : Type} [DecidableEq Key]

/-- The rows of a table meet its schema by construction. -/
@[ext] structure Table (schema : Schema Row Key) where
  rows : List Row
  keyed : (rows.map schema.key).Nodup
  checked : ∀ row ∈ rows, schema.check row = true
  separate : ∀ row ∈ rows, ∀ other ∈ rows, schema.key row ≠ schema.key other → schema.apart row other = true

namespace Table

variable {schema : Schema Row Key} {row : Row} {key : Key} {old : Row} {selected : Row → Bool}
  {change : Row → Row}

def empty : Table schema :=
  ⟨[], List.nodup_nil, fun _ member => (nomatch member), fun _ member => (nomatch member)⟩

variable (table : Table schema)

def find? (key : Key) : Option Row := table.rows.find? (schema.key · = key)

/-- A row stands under its key and away from every row of another key. -/
def fits (row : Row) : Bool :=
  schema.check row && table.rows.all fun other =>
    schema.key other = schema.key row || schema.apart row other && schema.apart other row

variable {table : Table schema}

theorem fits_iff :
    table.fits row = true ↔ schema.check row = true ∧ ∀ other ∈ table.rows,
      schema.key other ≠ schema.key row → schema.apart row other = true ∧ schema.apart other row = true := by
  unfold fits
  simp only [Bool.and_eq_true, List.all_eq_true, Bool.or_eq_true, decide_eq_true_eq]
  grind

theorem find?_key (found : table.find? key = some row) : schema.key row = key := by
  have matched := List.find?_some found
  exact of_decide_eq_true matched

theorem find?_mem (found : table.find? key = some row) : row ∈ table.rows :=
  List.mem_of_find?_eq_some found

theorem find?_none : table.find? key = none ↔ ∀ row ∈ table.rows, schema.key row ≠ key := by
  simp only [find?, List.find?_eq_none, decide_eq_true_eq, ne_eq]

theorem find?_of_nodup {rows : List Row} (keyed : (rows.map schema.key).Nodup)
    (member : row ∈ rows) : rows.find? (schema.key · = schema.key row) = some row := by
  induction rows with
  | nil => cases member
  | cons first rows rest =>
    simp only [List.map_cons, List.nodup_cons] at keyed
    rcases List.mem_cons.mp member with same | later
    · subst same
      simp
    · have differs : schema.key first ≠ schema.key row := by
        intro same
        exact keyed.1 (same ▸ List.mem_map_of_mem later)
      rw [List.find?_cons_of_neg (by simpa using differs)]
      exact rest keyed.2 later

theorem mem_find? (table : Table schema) (member : row ∈ table.rows) : table.find? (schema.key row) = some row :=
  find?_of_nodup table.keyed member

theorem find?_check (found : table.find? key = some row) : schema.check row = true :=
  table.checked row (find?_mem found)

theorem find?_apart {other : Key} {otherRow : Row}
    (found : table.find? key = some row) (otherFound : table.find? other = some otherRow)
    (different : key ≠ other) : schema.apart row otherRow = true := by
  apply table.separate row (find?_mem found) otherRow (find?_mem otherFound)
  rw [find?_key found, find?_key otherFound]
  exact different

def insert (row : Row) : Option (Table schema) :=
  if admitted : table.find? (schema.key row) = none ∧ table.fits row = true then
    some {
      rows := table.rows ++ [row]
      keyed := by
        rw [List.map_append, List.nodup_append]
        refine ⟨table.keyed, by simp, fun key listed last single => ?_⟩
        obtain ⟨other, member, same⟩ := List.mem_map.mp listed
        have isLast : last = schema.key row := List.mem_singleton.mp single
        rw [← same, isLast]
        exact find?_none.mp admitted.1 other member
      checked := by
        intro other member
        rcases List.mem_append.mp member with old | new
        · exact table.checked other old
        · rw [List.mem_singleton.mp new]
          exact (fits_iff.mp admitted.2).1
      separate := by
        intro first firstMember second secondMember different
        have fits := (fits_iff.mp admitted.2).2
        rcases List.mem_append.mp firstMember with firstOld | firstNew <;>
          rcases List.mem_append.mp secondMember with secondOld | secondNew
        · exact table.separate first firstOld second secondOld different
        · rw [List.mem_singleton.mp secondNew] at different ⊢
          exact (fits first firstOld different).2
        · rw [List.mem_singleton.mp firstNew] at different ⊢
          exact (fits second secondOld different.symm).1
        · rw [List.mem_singleton.mp firstNew, List.mem_singleton.mp secondNew] at different
          exact absurd rfl different }
  else none

theorem insert_isSome (fresh : table.find? (schema.key row) = none)
    (fits : table.fits row = true) : (table.insert row).isSome := by
  unfold insert
  rw [dif_pos ⟨fresh, fits⟩]
  rfl

variable {next : Table schema}

theorem insert_fresh (inserted : table.insert row = some next) :
    table.find? (schema.key row) = none ∧ table.fits row = true := by
  unfold insert at inserted
  split at inserted
  · rename_i admitted
    exact admitted
  · cases inserted

theorem insert_rows (inserted : table.insert row = some next) : next.rows = table.rows ++ [row] := by
  unfold insert at inserted
  split at inserted
  · cases inserted
    rfl
  · cases inserted

theorem insert_find? (inserted : table.insert row = some next)
    (key : Key) : next.find? key = if key = schema.key row then some row else table.find? key := by
  have fresh := (insert_fresh inserted).1
  unfold find? at fresh ⊢
  rw [insert_rows inserted, List.find?_append]
  split
  · rename_i same
    subst same
    rw [fresh]
    simp
  · rename_i different
    have other : ¬schema.key row = key := fun same => different same.symm
    simp [other]

/-- Writes a row over the one that stands under its key. -/
def write (row : Row) : Option (Table schema) :=
  if fits : table.fits row = true then
    some {
      rows := table.rows.map fun old => if schema.key old = schema.key row then row else old
      keyed := by
        have same : (table.rows.map fun old => if schema.key old = schema.key row then row else old).map
            schema.key = table.rows.map schema.key := by
          rw [List.map_map]
          apply List.map_congr_left
          intro old _
          simp only [Function.comp_apply]
          split
          · rename_i matched
            exact matched.symm
          · rfl
        rw [same]
        exact table.keyed
      checked := by
        intro written member
        obtain ⟨old, oldMember, rfl⟩ := List.mem_map.mp member
        split
        · exact (fits_iff.mp fits).1
        · exact table.checked old oldMember
      separate := by
        intro first firstMember second secondMember different
        obtain ⟨firstOld, firstOldMember, rfl⟩ := List.mem_map.mp firstMember
        obtain ⟨secondOld, secondOldMember, rfl⟩ := List.mem_map.mp secondMember
        have admitted := (fits_iff.mp fits).2
        split at different <;> split at different
        · exact absurd rfl different
        · rename_i matched other
          rw [if_pos matched, if_neg other]
          exact (admitted secondOld secondOldMember other).1
        · rename_i other matched
          rw [if_neg other, if_pos matched]
          exact (admitted firstOld firstOldMember other).2
        · rename_i firstOther secondOther
          rw [if_neg firstOther, if_neg secondOther]
          exact table.separate firstOld firstOldMember secondOld secondOldMember different }
  else none

theorem write_isSome (fits : table.fits row = true) : (table.write row).isSome := by
  unfold write
  rw [dif_pos fits]
  rfl

theorem write_rows (written : table.write row = some next) :
    next.rows = table.rows.map fun old => if schema.key old = schema.key row then row else old := by
  unfold write at written
  split at written
  · cases written
    rfl
  · cases written

theorem write_find? (written : table.write row = some next)
    (present : table.find? (schema.key row) = some old) (key : Key) :
    next.find? key = if key = schema.key row then some row else table.find? key := by
  have overwritten := write_rows written
  split
  · rename_i same
    subst same
    apply mem_find? next
    rw [overwritten, List.mem_map]
    exact ⟨old, find?_mem present, if_pos (find?_key present)⟩
  · rename_i different
    cases found : table.find? key with
    | none =>
      rw [find?_none]
      intro other member
      rw [overwritten] at member
      obtain ⟨before, beforeMember, rfl⟩ := List.mem_map.mp member
      split
      · exact fun same => different same.symm
      · exact find?_none.mp found before beforeMember
    | some kept =>
      have keptKey := find?_key found
      have member : kept ∈ next.rows := by
        rw [overwritten, List.mem_map]
        exact ⟨kept, find?_mem found, if_neg fun same => different (keptKey.symm.trans same)⟩
      rw [← keptKey]
      exact mem_find? next member

theorem fits_of_looser (present : table.find? (schema.key row) = some old)
    (check : schema.check row = true)
    (looser : ∀ other, (schema.apart old other = true → schema.apart row other = true) ∧
      (schema.apart other old = true → schema.apart other row = true)) : table.fits row = true := by
  rw [fits_iff]
  refine ⟨check, fun other member different => ?_⟩
  have oldMember := find?_mem present
  have oldKey := find?_key present
  exact ⟨(looser other).1 (table.separate old oldMember other member (by rw [oldKey]; exact different.symm)),
    (looser other).2 (table.separate other member old oldMember (by rw [oldKey]; exact different))⟩

theorem fits_of_kept (present : table.find? (schema.key row) = some old)
    (check : schema.check row = true)
    (kept : ∀ other, schema.apart row other = schema.apart old other ∧
      schema.apart other row = schema.apart other old) : table.fits row = true := by
  apply fits_of_looser present check
  intro other
  rw [(kept other).1, (kept other).2]
  exact ⟨id, id⟩

/-- `UPDATE … WHERE key = … AND …`: the table after it and the number of rows it changed. -/
def updateWhere (key : Key) (selected : Row → Bool) (change : Row → Row) : Option (Table schema × Nat) :=
  match table.find? key with
  | none => some (table, 0)
  | some row => if selected row then (table.write (change row)).map (·, 1) else some (table, 0)

theorem updateWhere_changed {changed : Nat} (updated : table.updateWhere key selected change = some (next, changed))
    (one : changed ≠ 0) :
    ∃ row, table.find? key = some row ∧ selected row = true ∧ table.write (change row) = some next := by
  unfold updateWhere at updated
  split at updated
  · cases updated
    exact absurd rfl one
  · rename_i row found
    split at updated
    · rename_i chosen
      obtain ⟨_, written, same⟩ := Option.map_eq_some_iff.mp updated
      cases same
      exact ⟨row, found, chosen, written⟩
    · cases updated
      exact absurd rfl one

theorem updateWhere_of_find? (found : table.find? key = some row) (chosen : selected row = true)
    (written : table.write (change row) = some next) : table.updateWhere key selected change = some (next, 1) := by
  unfold updateWhere
  rw [found]
  simp only [chosen, if_true, written, Option.map_some]

/-- `after` is `table` with `row` put under `key`. -/
def Puts (table after : Table schema) (key : Key) (row : Row) : Prop :=
  ∀ other, after.find? other = if other = key then some row else table.find? other

variable {after : Table schema}

theorem Puts.self (puts : table.Puts after key row) : after.find? key = some row := by
  rw [puts, if_pos rfl]

theorem Puts.forall {holds : Key → Row → Prop} (puts : table.Puts after key row)
    (before : ∀ other found, table.find? other = some found → holds other found) (own : holds key row) :
    ∀ other found, after.find? other = some found → holds other found := by
  intro other found located
  rw [puts] at located
  split at located
  · rename_i same
    cases located
    exact same ▸ own
  · exact before other found located

theorem Puts.each {follows : Row → Row → Prop} (puts : table.Puts after key row) (refl : ∀ old, follows old old)
    (own : ∀ old, table.find? key = some old → follows old row) :
    ∀ other old, table.find? other = some old → ∃ later, after.find? other = some later ∧ follows old later := by
  intro other old found
  rw [puts]
  split
  · rename_i same
    exact ⟨row, rfl, own old (same ▸ found)⟩
  · exact ⟨old, found, refl old⟩

theorem Puts.other {other : Key} (puts : table.Puts after key row)
    (different : other ≠ key) : after.find? other = table.find? other := by
  rw [puts, if_neg different]

theorem insert_puts (inserted : table.insert row = some after) : table.Puts after (schema.key row) row :=
  insert_find? inserted

end Table

def insertBy (rank : Row → Nat) (row : Row) : List Row → List Row
  | [] => [row]
  | first :: rest => if rank row ≤ rank first then row :: first :: rest else first :: insertBy rank row rest

def orderBy (rank : Row → Nat) : List Row → List Row
  | [] => []
  | row :: rest => insertBy rank row (orderBy rank rest)

theorem orderBy_sorted {rank : Row → Nat} {rows : List Row}
    (sorted : rows.Pairwise fun first second => rank first ≤ rank second) : orderBy rank rows = rows := by
  induction rows with
  | nil => rfl
  | cons row rest tail =>
    obtain ⟨least, sortedRest⟩ := List.pairwise_cons.mp sorted
    rw [orderBy, tail sortedRest]
    cases rest with
    | nil => rfl
    | cons first later => exact if_pos (least first List.mem_cons_self)

end Relational
