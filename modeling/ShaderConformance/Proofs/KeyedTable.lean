import Mathlib.Data.List.Nodup
import ShaderConformance.Proofs.Registry

/-!
# Tables kept as lists

A table has at most one item under each key.  It is kept as a list in which an item with a new
key comes last and any other item takes the place of the one with its key.  Here such a list is
compared with what was done to the table: which item was put last under a key, and since when
the key has been live.

## Main definitions

- `TableEvent`: what can be done to a table
- `latest?`, `liveSince`: the item of a key, and since when there has been one
- `Tabulates`: a list holds the items of a table in the order of their keys

## Main statements

- `Tabulates.find?_eq`: the item of a key is found in the list
- `Tabulates.put`, `Tabulates.drop`, `Tabulates.clear`: lists follow what is done to the table
-/

namespace ShaderConformance

/-- Something that is done to a table of items under keys. -/
inductive TableEvent (T K : Type) where
  | put (item : T)
  | drop (key : K)
  | clear

section Table

variable {T K : Type} [DecidableEq K] (key : T → K)

/-- The item of a key after some events, of which the last one comes first. -/
def latest? : List (TableEvent T K) → K → Option T
  | [], _ => none
  | .put item :: earlier, k => if key item = k then some item else latest? earlier k
  | .drop k' :: earlier, k => if k' = k then none else latest? earlier k
  | .clear :: _, _ => none

/-- How many events there were before the one since which a key has had an item. -/
def liveSince : List (TableEvent T K) → K → Nat
  | [], _ => 0
  | .put item :: earlier, k =>
    if key item = k ∧ latest? key earlier k = none then earlier.length else liveSince earlier k
  | _ :: earlier, k => liveSince earlier k

variable {key} {events : List (TableEvent T K)} {items : List T}

/-- The latest item of a key has that key. -/
theorem key_of_latest? {k : K} {item : T} (h : latest? key events k = some item) :
    key item = k := by
  induction events with
  | nil => cases h
  | cons event earlier ih =>
    cases event with
    | put item' =>
      rw [latest?] at h
      split at h
      · rename_i hkey
        cases h
        exact hkey
      · exact ih h
    | drop k' =>
      rw [latest?] at h
      split at h
      · cases h
      · exact ih h
    | clear => cases h

/-- Nothing has been alive for longer than there have been events. -/
theorem liveSince_le (key : T → K) (events : List (TableEvent T K)) (k : K) :
    liveSince key events k ≤ events.length := by
  induction events with
  | nil => exact Nat.le_refl 0
  | cons event earlier ih =>
    rw [List.length_cons]
    cases event with
    | put item =>
      rw [liveSince]
      split
      · exact Nat.le_succ _
      · exact Nat.le_succ_of_le ih
    | drop | clear => exact Nat.le_succ_of_le ih

/-- A live key became live at one of the events. -/
theorem liveSince_lt {k : K} {item : T} (h : latest? key events k = some item) :
    liveSince key events k < events.length := by
  induction events with
  | nil => cases h
  | cons event earlier ih =>
    rw [List.length_cons]
    have hearlier := liveSince_le key earlier k
    cases event with
    | put item' =>
      rw [liveSince]
      split
      · exact Nat.lt_succ_self _
      · exact Nat.lt_succ_of_le hearlier
    | drop | clear => exact Nat.lt_succ_of_le hearlier

/-- Where no key stands twice, taking out the first item of a key takes out all of them. -/
theorem eraseP_eq_filter (h : (items.map key).Nodup) (k : K) :
    items.eraseP (fun item => key item = k) = items.filter fun item => key item ≠ k := by
  induction items with
  | nil => rfl
  | cons item items ih =>
    rw [List.map_cons, List.nodup_cons] at h
    by_cases hkey : key item = k
    · -- Keys are distinct, so the item found is the only one with its key.
      have hothers : ∀ other ∈ items, key other ≠ k := by
        intro other hother heq
        apply h.1
        rw [hkey, ← heq]
        exact List.mem_map_of_mem hother
      have hfilter : items.filter (fun item => key item ≠ k) = items :=
        List.filter_eq_self.mpr (by simpa using hothers)
      rw [List.eraseP_cons_of_pos (by simpa using hkey),
        List.filter_cons_of_neg (by simpa using hkey), hfilter]
    · rw [List.eraseP_cons_of_neg (by simpa using hkey),
        List.filter_cons_of_pos (by simpa using hkey), ih h.2]

/-- A list holds the items of a table in the order in which their keys became live. -/
structure Tabulates (key : T → K) (events : List (TableEvent T K)) (items : List T) : Prop where
  mem : ∀ item, item ∈ items ↔ latest? key events (key item) = some item
  ordered : (items.map key).Pairwise fun a b => liveSince key events a < liveSince key events b

namespace Tabulates

variable {front back : List T} {new old : T}

/-- No key stands twice in a table, since it became live once. -/
theorem nodup (h : Tabulates key events items) : (items.map key).Nodup := by
  apply h.ordered.imp
  intro a b hlt heq
  rw [heq] at hlt
  exact Nat.lt_irrefl _ hlt

/-- The item of a key is found in the list. -/
theorem find?_eq (h : Tabulates key events items) (k : K) :
    items.find? (fun item => key item = k) = latest? key events k := by
  cases hlatest : latest? key events k with
  | none =>
    apply List.find?_eq_none.mpr
    intro item hitem hkey
    rw [decide_eq_true_eq] at hkey
    have hmem := (h.mem item).mp hitem
    rw [hkey, hlatest] at hmem
    cases hmem
  | some item =>
    have hkey := key_of_latest? hlatest
    have hitem : item ∈ items := by
      apply (h.mem item).mpr
      rw [hkey, hlatest]
    -- What is found has the key, so it is the item of the key.
    obtain ⟨found, hfound⟩ : ∃ found, items.find? (fun item => key item = k) = some found := by
      apply Option.isSome_iff_exists.mp
      rw [List.find?_isSome]
      exact ⟨item, hitem, by simpa using hkey⟩
    have hfoundKey : key found = k := by simpa using List.find?_some hfound
    have hmem := (h.mem found).mp (List.mem_of_find?_eq_some hfound)
    rw [hfoundKey, hlatest] at hmem
    rw [hfound, hmem]

theorem nil (key : T → K) : Tabulates key [] [] where
  mem item := by simp [latest?]
  ordered := .nil

/-- An item takes the place of the one with its key. -/
theorem put_replace (h : Tabulates key events (front ++ old :: back)) (hkey : key old = key new) :
    Tabulates key (.put new :: events) (front ++ new :: back) := by
  have hlive : latest? key events (key new) = some old := by
    rw [← hkey]
    exact (h.mem old).mp (by simp)
  constructor
  · intro item
    rw [latest?]
    split
    · -- Only the item that was replaced had the key.
      rename_i hsame
      have hnodup := h.nodup
      rw [List.map_append, List.map_cons, List.nodup_middle, List.nodup_cons, hkey, hsame] at hnodup
      have hothers : item ∉ front ++ back := by
        intro hitem
        apply hnodup.1
        rw [← List.map_append]
        exact List.mem_map_of_mem hitem
      rw [List.mem_append, not_or] at hothers
      simp [hothers, eq_comm]
    · rename_i hother
      have hold : item ≠ old := by
        intro heq
        exact hother (by rw [heq, hkey])
      have hnew : item ≠ new := by
        intro heq
        exact hother (by rw [heq])
      rw [← h.mem item]
      simp [hold, hnew]
  · -- No key became live.
    have hsince (k : K) : liveSince key (.put new :: events) k = liveSince key events k := by
      rw [liveSince, if_neg]
      rintro ⟨rfl, hnone⟩
      rw [hlive] at hnone
      cases hnone
    have hkeys : (front ++ new :: back).map key = (front ++ old :: back).map key := by
      rw [List.map_append, List.map_append, List.map_cons, List.map_cons, hkey]
    rw [hkeys]
    simpa only [hsince] using h.ordered

/-- An item with a new key comes last. -/
theorem put_last (h : Tabulates key events items) (hnew : ∀ item ∈ items, key item ≠ key new) :
    Tabulates key (.put new :: events) (items ++ [new]) := by
  have hnone : latest? key events (key new) = none := by
    apply Option.eq_none_iff_forall_ne_some.mpr
    intro item hlive
    have hkey := key_of_latest? hlive
    exact hnew item ((h.mem item).mpr (by rw [hkey, hlive])) hkey
  constructor
  · intro item
    rw [latest?]
    split
    · rename_i hsame
      have hitem : item ∉ items := fun hitem => hnew item hitem hsame.symm
      simp [hitem, eq_comm]
    · rename_i hother
      have hne : item ≠ new := by
        intro heq
        exact hother (by rw [heq])
      rw [← h.mem item]
      simp [hne]
  · -- The new key became live last, and the others when they did before.
    have hsince {item : T} (hitem : item ∈ items) :
        liveSince key (.put new :: events) (key item) = liveSince key events (key item) := by
      rw [liveSince, if_neg]
      rintro ⟨heq, -⟩
      exact hnew item hitem heq.symm
    have hlast : liveSince key (.put new :: events) (key new) = events.length := by
      rw [liveSince, if_pos ⟨rfl, hnone⟩]
    rw [List.map_append, List.pairwise_append]
    refine ⟨?_, List.pairwise_singleton _ _, ?_⟩
    · have hordered := h.ordered
      rw [List.pairwise_map] at hordered ⊢
      apply hordered.imp_of_mem
      intro a b ha hb hlt
      rwa [hsince ha, hsince hb]
    · intro k hk k' hk'
      obtain ⟨item, hitem, rfl⟩ := List.mem_map.mp hk
      obtain rfl : k' = key new := by simpa using hk'
      rw [hsince hitem, hlast]
      exact liveSince_lt ((h.mem item).mp hitem)

/-- The item of a key is taken out. -/
theorem drop (h : Tabulates key events items) (k : K) :
    Tabulates key (.drop k :: events) (items.eraseP fun item => key item = k) := by
  constructor
  · intro item
    rw [eraseP_eq_filter h.nodup, List.mem_filter, h.mem item, latest?]
    split
    · rename_i hkey
      simp [hkey]
    · rename_i hkey
      simp [Ne.symm hkey]
  · exact h.ordered.sublist ((List.eraseP_sublist).map key)

/-- After everything was cleared there are no items. -/
theorem clear (key : T → K) (events : List (TableEvent T K)) :
    Tabulates key (.clear :: events) [] where
  mem item := by simp [latest?]
  ordered := .nil

end Tabulates

end Table

/-- What is replaced or put last tabulates, if there was room for a new key. -/
theorem Tabulates.put {T K : Type} [DecidableEq K] {key : T → K} {events : List (TableEvent T K)}
    {items items' : List T} {new : T} (h : Tabulates key events items)
    (hput : (∃ old, replaceFirst? (fun item => key item = key new) new items = some (old, items')) ∨
      replaceFirst? (fun item => key item = key new) new items = none ∧ items' = items ++ [new]) :
    Tabulates key (.put new :: events) items' := by
  rcases hput with ⟨old, hreplaced⟩ | ⟨hnone, rfl⟩
  · obtain ⟨front, back, rfl, rfl, hold⟩ := replaceFirst?_eq_some hreplaced
    exact h.put_replace (by simpa using hold)
  · exact h.put_last (by simpa using replaceFirst?_eq_none_iff.mp hnone)

end ShaderConformance
